import Mathlib.Data.List.Basic

/-!
# Server connections

An HTTP server reads from a transport until it has the head of a request, and may read on. When it
gives up the transport, it hands back what it has read past the head and has not used.
-/

namespace Http

variable {ρ : Type*}

/-- What a connection hands back: the bytes it has read and not used, and the transport, by the
reads that are still to come. -/
structure Parts where
  readBuf : List UInt8
  io : List (List UInt8)

/-- A server connection that has made `k` reads: its first request, if there is one, and its
parts. The parser of heads returns the length of the head as well. -/
def serveConnection (parseHead : List UInt8 → Option (ρ × ℕ)) (reads : List (List UInt8)) (k : ℕ) :
    Option (ρ × Parts) :=
  (parseHead (reads.take k).flatten).map fun (request, n) =>
    (request, ⟨(reads.take k).flatten.drop n, reads.drop k⟩)

section

variable {parseHead : List UInt8 → Option (ρ × ℕ)} {reads : List (List UInt8)} {k : ℕ}
  {head payload : List UInt8} {request : ρ}

/-- The bytes read start with the head, once there are enough of them. -/
lemma exists_flatten_take (hstream : reads.flatten = head ++ payload)
    (hread : head.length ≤ (reads.take k).flatten.length) :
    ∃ early, (reads.take k).flatten = head ++ early ∧
      early ++ (reads.drop k).flatten = payload := by
  have hsplit : (reads.take k).flatten ++ (reads.drop k).flatten = head ++ payload := by
    rw [← List.flatten_append, List.take_append_drop, hstream]
  obtain ⟨early, htake, hpayload⟩ | ⟨late, hhead, hdrop⟩ := List.append_eq_append_iff.mp hsplit.symm
  · exact ⟨early, htake, hpayload.symm⟩
  · have hlate : late = [] := by
      rw [hhead, List.length_append] at hread
      exact List.eq_nil_of_length_eq_zero (by omega)
    subst hlate
    exact ⟨[], by simpa using hhead.symm, by simpa using hdrop⟩

/-- However the stream is cut into reads, the parts hold the bytes behind the head. -/
theorem serveConnection_of_head (hstream : reads.flatten = head ++ payload)
    (hhead : ∀ rest, parseHead (head ++ rest) = some (request, head.length))
    (hread : head.length ≤ (reads.take k).flatten.length) :
    ∃ parts, serveConnection parseHead reads k = some (request, parts) ∧
      parts.readBuf ++ parts.io.flatten = payload ∧
      parts.readBuf.length + head.length = (reads.take k).flatten.length := by
  obtain ⟨early, htake, hpayload⟩ := exists_flatten_take hstream hread
  refine ⟨⟨early, reads.drop k⟩, ?_, hpayload, ?_⟩
  · simp [serveConnection, htake, hhead]
  · rw [htake, List.length_append, Nat.add_comm]

end

end Http
