import Dandelion.Connector.Http

/-!
# The response to a request for a tunnel

The head of the response may come in any number of reads. A proxy that closes the connection too
early is taken for one that has opened the tunnel, and what comes in one read with the end of the
head is lost.
-/

namespace Dandelion.Connector.HttpProxy

/-- A complete head of a response with a status code: no part of it is complete. -/
structure IsHead (parse : ResponseParser) (head : List UInt8) (code : UInt16) : Prop where
  parsed : parse head = .ok (some code)
  minimal : ∀ front, front <+: head → ∀ code, parse front = .ok (some code) → front = head

/-- What is relied on of a parser. -/
structure Lawful (parse : ResponseParser) : Prop where
  nil : parse [] = .ok none
  /-- A head that is not complete wants more. -/
  wantsMore : ∀ {head code}, IsHead parse head code → ∀ front, front <+: head → front ≠ head →
    parse front = .ok none
  /-- What follows a complete head is not looked at. -/
  ignores : ∀ {head code}, IsHead parse head code → ∀ payload,
    parse (head ++ payload) = .ok (some code)

/-- How the stream of a server ends. -/
inductive Ending where
  | eof
  | failed (message : String)

def Ending.read : Ending → Except String (List UInt8)
  | .eof            => .ok []
  | .failed message => .error message

/-- The reads of a stream that comes in the given pieces. -/
def reads (chunks : List (List UInt8)) (rest : List (Except String (List UInt8))) :
    List (Except String (List UInt8)) :=
  chunks.map .ok ++ rest

/-- Read the response, and return the reads that are left to the tunnel. -/
def readResponseIo (parse : ResponseParser) (endpoint : Endpoint) :
    (buf : List UInt8) → List (Except String (List UInt8)) →
    Option (Except ConnectError (List (Except String (List UInt8))))
  | _, []                 => none
  | _, .error _ :: _      => some (.error (.context "Failed to read CONNECT response"))
  | _, .ok [] :: reads    => some (.ok reads)
  | buf, .ok bytes :: reads =>
    let buf := buf ++ bytes
    match parse buf with
    | .error message   => some (.error (.parse message))
    | .ok none         => readResponseIo parse endpoint buf reads
    | .ok (some code)  => some (if code = 200 then .ok reads else .error (refused endpoint buf))

/-- The result of `connect` with the stream that is returned. -/
def connectIo (parse : ResponseParser) (endpoint : Endpoint) (write : Except String Unit)
    (reads : List (Except String (List UInt8))) :
    Option (Except ConnectError (List (Except String (List UInt8)))) :=
  match write with
  | .error _ => some (.error (.context
      ("Failed to send CONNECT request to connect to " ++ endpoint.display)))
  | .ok _    => readResponseIo parse endpoint [] reads

variable {parse : ResponseParser} {endpoint : Endpoint} {head payload buf : List UInt8}
  {code : UInt16} {chunks : List (List UInt8)} {rest : List (Except String (List UInt8))}

lemma map_readResponseIo (buf : List UInt8) (reads : List (Except String (List UInt8))) :
    (readResponseIo parse endpoint buf reads).map (Except.map fun _ => ())
      = readResponse parse endpoint buf reads := by
  fun_induction readResponseIo parse endpoint buf reads with
  | case1 => rfl
  | case2 => rfl
  | case3 => rfl
  | case4 buf bytes reads hbytes buf' message hparse =>
    rw [readResponse, hparse]
    · rfl
    · exact hbytes
  | case5 buf bytes reads hbytes buf' hparse ih =>
    rw [readResponse, hparse]
    · exact ih
    · exact hbytes
  | case6 buf bytes reads hbytes buf' code hparse =>
    rw [readResponse, hparse]
    · by_cases hcode : code = 200
      · simp [hcode, Except.map]
      · simp [hcode, Except.map, buf']
    · exact hbytes

/-- The two agree on the result. -/
lemma map_connectIo (write : Except String Unit) (reads : List (Except String (List UInt8))) :
    (connectIo parse endpoint write reads).map (Except.map fun _ => ())
      = (connect parse endpoint write reads).2 := by
  cases write with
  | error message => rfl
  | ok _ => exact map_readResponseIo [] reads

/-! ### Heads -/

lemma IsHead.ne_nil (hparse : Lawful parse) (h : IsHead parse head code) : head ≠ [] := by
  rintro rfl
  have hcomplete := h.parsed
  rw [hparse.nil] at hcomplete
  cases hcomplete

/-- Of two heads of one stream neither goes on behind the other. -/
lemma IsHead.unique {head' stream : List UInt8} {code' : UInt16} (h : IsHead parse head code)
    (h' : IsHead parse head' code') (hs : head <+: stream) (hs' : head' <+: stream) :
    head = head' ∧ code = code' := by
  have heq : head = head' := by
    rcases List.prefix_or_prefix_of_prefix hs hs' with hle | hle
    · exact h'.minimal head hle code h.parsed
    · exact (h.minimal head' hle code' h'.parsed).symm
  have hcode := h.parsed
  rw [heq, h'.parsed] at hcode
  cases hcode
  exact ⟨heq, rfl⟩

/-- What is taken for complete begins with a head. -/
lemma exists_isHead (hcomplete : parse buf = .ok (some code)) :
    ∃ head code, head <+: buf ∧ IsHead parse head code := by
  induction hlen : buf.length using Nat.strongRecOn generalizing buf code with
  | _ n ih =>
    by_cases hmin : ∀ front, front <+: buf → ∀ code, parse front = .ok (some code) → front = buf
    · exact ⟨buf, code, List.prefix_rfl, hcomplete, hmin⟩
    · push Not at hmin
      obtain ⟨front, hfront, code', hparsed, hne⟩ := hmin
      have hlt : front.length < n := by
        have hle := hfront.length_le
        have hlen' : front.length ≠ buf.length := fun heq => hne (hfront.eq_of_length heq)
        omega
      obtain ⟨head, code, hhead, his⟩ := ih front.length hlt hparsed rfl
      exact ⟨head, code, hhead.trans hfront, his⟩

/-! ### Streams with a head -/

lemma readResponseIo_cons {bytes : List UInt8} (hbytes : bytes ≠ [])
    (reads : List (Except String (List UInt8))) :
    readResponseIo parse endpoint buf (.ok bytes :: reads)
      = match parse (buf ++ bytes) with
        | .error message  => some (.error (.parse message))
        | .ok none        => readResponseIo parse endpoint (buf ++ bytes) reads
        | .ok (some code) =>
          some (if code = 200 then .ok reads else .error (refused endpoint (buf ++ bytes))) := by
  cases bytes with
  | nil => exact absurd rfl hbytes
  | cons b bytes => rfl

/-- The loop stops with the read that brings the end of the head. -/
lemma readResponseIo_of_isHead (endpoint : Endpoint)
    (rest : List (Except String (List UInt8))) (hparse : Lawful parse)
    (hhead : IsHead parse head code) (hbuf : buf <+: head) (hne : buf ≠ head)
    (hchunks : ∀ chunk ∈ chunks, chunk ≠ []) (hflat : buf ++ chunks.flatten = head ++ payload) :
    ∃ first chunk later, chunks = first ++ chunk :: later ∧
      buf ++ first.flatten <+: head ∧ buf ++ first.flatten ≠ head ∧
      head <+: buf ++ (first ++ [chunk]).flatten ∧
      readResponseIo parse endpoint buf (reads chunks rest)
        = some (if code = 200 then .ok (reads later rest)
            else .error (refused endpoint (buf ++ (first ++ [chunk]).flatten))) := by
  induction chunks generalizing buf with
  | nil =>
    rw [List.flatten_nil, List.append_nil] at hflat
    have hle : head <+: buf := ⟨payload, hflat.symm⟩
    exact absurd (hbuf.eq_of_length_le hle.length_le) hne
  | cons chunk chunks ih =>
    obtain ⟨hchunk, hchunks⟩ := List.forall_mem_cons.mp hchunks
    rw [List.flatten_cons, ← List.append_assoc] at hflat
    rw [reads, List.map_cons, List.cons_append, readResponseIo_cons hchunk]
    by_cases hend : head <+: buf ++ chunk
    · obtain ⟨more, hmore⟩ := hend
      refine ⟨[], chunk, chunks, rfl, by simpa using hbuf, by simpa using hne, ?_, ?_⟩
      · exact ⟨more, by simpa using hmore⟩
      · rw [← hmore, hparse.ignores hhead]
        simp [hmore, reads]
    · have hfront : buf ++ chunk <+: head := by
        have hstream : buf ++ chunk <+: head ++ payload := ⟨chunks.flatten, hflat⟩
        rcases List.prefix_or_prefix_of_prefix (List.prefix_append head payload) hstream with h | h
        · exact absurd h hend
        · exact h
      have hpart : buf ++ chunk ≠ head := fun heq => hend (heq ▸ List.prefix_rfl)
      obtain ⟨first, last, later, rfl, hbefore, hbefore', hlast, hread⟩ :=
        ih hfront hpart hchunks hflat
      refine ⟨chunk :: first, last, later, rfl, ?_, ?_, ?_, ?_⟩
      · simpa using hbefore
      · simpa using hbefore'
      · simpa using hlast
      · rw [hparse.wantsMore hhead _ hfront hpart]
        simpa [reads] using hread

/-! ### Streams without a head -/

/-- A stream without a head is refused if it ends with an error, or with bytes that cannot be
continued to a head. -/
lemma readResponseIo_of_no_isHead (endpoint : Endpoint) {ending : Ending}
    (hno : ∀ front, front <+: buf ++ chunks.flatten → ∀ code, parse front ≠ .ok (some code))
    (hchunks : ∀ chunk ∈ chunks, chunk ≠ [])
    (hending : ending = .eof → chunks ≠ [] ∧ parse (buf ++ chunks.flatten) ≠ .ok none) :
    ∃ e, readResponseIo parse endpoint buf (reads chunks [ending.read]) = some (.error e) := by
  induction chunks generalizing buf with
  | nil =>
    cases ending with
    | eof => exact absurd rfl (hending rfl).1
    | failed message => exact ⟨_, rfl⟩
  | cons chunk chunks ih =>
    obtain ⟨hchunk, hchunks⟩ := List.forall_mem_cons.mp hchunks
    rw [List.flatten_cons, ← List.append_assoc] at hno hending
    rw [reads, List.map_cons, List.cons_append, readResponseIo_cons hchunk]
    cases hbuf : parse (buf ++ chunk) with
    | error message => exact ⟨_, rfl⟩
    | ok answer =>
      cases answer with
      | some code => exact absurd hbuf (hno _ (List.prefix_append _ _) code)
      | none =>
        apply ih hno hchunks
        intro heof
        refine ⟨?_, (hending heof).2⟩
        rintro rfl
        rw [List.flatten_nil, List.append_nil] at hending
        exact (hending heof).2 hbuf

/-- A stream that ends where a head could go on is taken for a success when it comes in one
read. -/
lemma readResponseIo_of_wantsMore (endpoint : Endpoint) {stream : List UInt8}
    (hmore : parse stream = .ok none) :
    ∃ chunks : List (List UInt8), (∀ chunk ∈ chunks, chunk ≠ []) ∧ chunks.flatten = stream ∧
      readResponseIo parse endpoint [] (reads chunks [Ending.eof.read]) = some (.ok []) := by
  cases stream with
  | nil => exact ⟨[], by simp, rfl, rfl⟩
  | cons b bytes =>
    refine ⟨[b :: bytes], by simp, by simp, ?_⟩
    rw [reads, List.map_singleton, List.singleton_append, readResponseIo_cons (by simp),
      List.nil_append, hmore]
    rfl

/-! ### Verdicts -/

/-- In whatever pieces the stream of the server comes, there is a verdict, and it is a success
exactly for a stream that begins with a head with status 200. -/
def SucceedsOn200 (parse : ResponseParser) (endpoint : Endpoint) (stream : List UInt8)
    (ending : Ending) : Prop :=
  ∀ chunks : List (List UInt8), (∀ chunk ∈ chunks, chunk ≠ []) → chunks.flatten = stream →
    ∃ result, (connect parse endpoint (.ok ()) (reads chunks [ending.read])).2 = some result ∧
      (result = .ok () ↔ ∃ head, head <+: stream ∧ IsHead parse head 200)

/-- The verdict on a stream, from the one of the loop. -/
lemma connect_of_readResponseIo {ending : Ending}
    {result : Except ConnectError (List (Except String (List UInt8)))}
    (h : readResponseIo parse endpoint [] (reads chunks [ending.read]) = some result) :
    (connect parse endpoint (.ok ()) (reads chunks [ending.read])).2
      = some (result.map fun _ => ()) := by
  rw [← map_connectIo, connectIo, h]
  rfl

section Verdict

variable {stream : List UInt8} {ending : Ending}

/-- The verdict on a stream with a head is the one on its status. -/
lemma verdict_of_isHead (hparse : Lawful parse) (endpoint : Endpoint)
    (hhead : IsHead parse head code) (hfront : head <+: stream)
    (hchunks : ∀ chunk ∈ chunks, chunk ≠ []) (hflat : chunks.flatten = stream) :
    ∃ result, (connect parse endpoint (.ok ()) (reads chunks [ending.read])).2 = some result ∧
      (result = .ok () ↔ ∃ head, head <+: stream ∧ IsHead parse head 200) := by
  obtain ⟨payload, hpayload⟩ := hfront
  obtain ⟨first, chunk, later, -, -, -, -, hread⟩ :=
    readResponseIo_of_isHead endpoint [ending.read] hparse hhead List.nil_prefix
      (hhead.ne_nil hparse).symm hchunks (hflat.trans hpayload.symm)
  refine ⟨_, connect_of_readResponseIo hread, ?_⟩
  constructor
  · intro hok
    refine ⟨head, ⟨payload, hpayload⟩, ?_⟩
    by_cases hcode : code = 200
    · exact hcode ▸ hhead
    · rw [if_neg hcode] at hok
      cases hok
  · rintro ⟨head', hfront', hhead'⟩
    obtain ⟨-, rfl⟩ := hhead.unique hhead' ⟨payload, hpayload⟩ hfront'
    rw [if_pos rfl]
    rfl

/-- A stream without a head is refused, unless it ends where a head could go on. -/
lemma verdict_of_no_isHead (hparse : Lawful parse) (endpoint : Endpoint)
    (hnone : ¬∃ head code, head <+: stream ∧ IsHead parse head code)
    (hend : ending = .eof → parse stream ≠ .ok none)
    (hchunks : ∀ chunk ∈ chunks, chunk ≠ []) (hflat : chunks.flatten = stream) :
    ∃ e, (connect parse endpoint (.ok ()) (reads chunks [ending.read])).2 = some (.error e) := by
  have hno : ∀ front, front <+: [] ++ chunks.flatten → ∀ code,
      parse front ≠ .ok (some code) := by
    intro front hfront code hcomplete
    obtain ⟨head, code, hstart, hhead⟩ := exists_isHead hcomplete
    rw [List.nil_append, hflat] at hfront
    exact hnone ⟨head, code, hstart.trans hfront, hhead⟩
  have hending : ending = .eof → chunks ≠ [] ∧ parse ([] ++ chunks.flatten) ≠ .ok none := by
    intro heof
    rw [List.nil_append, hflat]
    refine ⟨?_, hend heof⟩
    rintro rfl
    apply hend heof
    rw [← hflat]
    exact hparse.nil
  obtain ⟨e, hread⟩ := readResponseIo_of_no_isHead endpoint hno hchunks hending
  exact ⟨e, connect_of_readResponseIo hread⟩

end Verdict

/-- The connector succeeds exactly on a response with status 200, if and only if the stream does
not end where a head could go on. -/
theorem succeedsOn200_iff (hparse : Lawful parse) (endpoint : Endpoint) (stream : List UInt8)
    (ending : Ending) :
    SucceedsOn200 parse endpoint stream ending ↔ (ending = .eof → parse stream ≠ .ok none) := by
  constructor
  · rintro hverdict rfl hmore
    obtain ⟨chunks, hchunks, hflat, hread⟩ := readResponseIo_of_wantsMore endpoint hmore
    obtain ⟨result, hresult, hiff⟩ := hverdict chunks hchunks hflat
    rw [connect_of_readResponseIo hread] at hresult
    cases hresult
    obtain ⟨head, ⟨payload, rfl⟩, hhead⟩ := hiff.mp rfl
    rw [hparse.ignores hhead] at hmore
    cases hmore
  · intro hend chunks hchunks hflat
    by_cases hsome : ∃ head code, head <+: stream ∧ IsHead parse head code
    · obtain ⟨head, code, hfront, hhead⟩ := hsome
      exact verdict_of_isHead hparse endpoint hhead hfront hchunks hflat
    · obtain ⟨e, hrefused⟩ := verdict_of_no_isHead hparse endpoint hsome hend hchunks hflat
      refine ⟨_, hrefused, ?_⟩
      constructor
      · intro hok
        cases hok
      · rintro ⟨head, hfront, hhead⟩
        exact absurd ⟨head, 200, hfront, hhead⟩ hsome

def sampleHead : List UInt8 := "HTTP/1.1 200 OK\r\n\r\n".utf8Bytes

/-- A parser that knows one head only. -/
def sampleParse : ResponseParser := fun buf =>
  if sampleHead <+: buf then .ok (some 200)
  else if buf <+: sampleHead then .ok none
  else .error "invalid HTTP version"

lemma sampleParse_eq_some_iff : sampleParse buf = .ok (some code) ↔
    sampleHead <+: buf ∧ code = 200 := by
  rw [sampleParse]
  split
  · simp_all [eq_comm]
  · split <;> simp_all

lemma isHead_sampleHead : IsHead sampleParse sampleHead 200 where
  parsed := sampleParse_eq_some_iff.mpr ⟨List.prefix_rfl, rfl⟩
  minimal front hfront code hparsed := by
    have hle := (sampleParse_eq_some_iff.mp hparsed).1
    exact hfront.eq_of_length_le hle.length_le

lemma of_isHead_sampleParse (h : IsHead sampleParse head code) :
    head = sampleHead ∧ code = 200 := by
  obtain ⟨hfront, rfl⟩ := sampleParse_eq_some_iff.mp h.parsed
  exact ⟨(h.minimal sampleHead hfront 200 isHead_sampleHead.parsed).symm, rfl⟩

lemma lawful_sampleParse : Lawful sampleParse where
  nil := by decide
  wantsMore := by
    intro head code hhead front hfront hne
    obtain ⟨rfl, rfl⟩ := of_isHead_sampleParse hhead
    have hnot : ¬sampleHead <+: front := fun h => hne (hfront.eq_of_length_le h.length_le)
    rw [sampleParse, if_neg hnot, if_pos hfront]
  ignores := by
    intro head code hhead payload
    obtain ⟨rfl, rfl⟩ := of_isHead_sampleParse hhead
    exact sampleParse_eq_some_iff.mpr ⟨List.prefix_append _ _, rfl⟩

/-- A server that answers with status 200, goes on with the tunnel and closes. -/
theorem succeedsOn200_of_sampleHead :
    Lawful sampleParse ∧
    SucceedsOn200 sampleParse (.domain "a.com" 443) (sampleHead ++ [1, 2]) .eof :=
  ⟨lawful_sampleParse,
    (succeedsOn200_iff lawful_sampleParse _ _ _).mpr fun _ => by
      rw [lawful_sampleParse.ignores isHead_sampleHead]
      simp⟩

/-- A proxy that closes the connection without an answer has not opened a tunnel. -/
theorem not_succeedsOn200_of_closed :
    ¬SucceedsOn200 sampleParse (.domain "a.com" 443) [] .eof ∧
    (connect sampleParse (.domain "a.com" 443) (.ok ()) (reads [] [Ending.eof.read])).2
      = some (.ok ()) := by
  refine ⟨?_, rfl⟩
  intro hverdict
  obtain ⟨result, hresult, hiff⟩ := hverdict [] (by simp) rfl
  cases hresult
  obtain ⟨head, hfront, hhead⟩ := hiff.mp rfl
  exact hhead.ne_nil lawful_sampleParse (List.prefix_nil.mp hfront)

/-! ### The bytes of the tunnel -/

/-- The stream that is returned yields the payload from its first byte on. -/
def YieldsPayload (parse : ResponseParser) (endpoint : Endpoint) (chunks : List (List UInt8))
    (rest : List (Except String (List UInt8))) (payload : List UInt8) : Prop :=
  ∃ later : List (List UInt8),
    connectIo parse endpoint (.ok ()) (reads chunks rest) = some (.ok (reads later rest)) ∧
    later.flatten = payload

lemma reads_injective {later later' : List (List UInt8)}
    (h : reads later rest = reads later' rest) : later = later' :=
  List.map_injective_iff.mpr (fun _ _ => Except.ok.inj) (List.append_cancel_right h)

lemma flatten_prefix_flatten {first later : List (List UInt8)} (h : first <+: later) :
    first.flatten <+: later.flatten := by
  obtain ⟨more, rfl⟩ := h
  exact ⟨more.flatten, by simp⟩

/-- A front of a list ends before the last item of another one, or contains it. -/
lemma prefix_or_concat_prefix_of_fronts {α : Type*} {xs ys zs : List α} {a : α}
    (hx : xs ++ [a] <+: zs) (hy : ys <+: zs) : ys <+: xs ∨ xs ++ [a] <+: ys := by
  rcases List.prefix_or_prefix_of_prefix hx hy with hle | hle
  · exact .inr hle
  · rcases List.prefix_concat_iff.mp hle with heq | hle
    · exact .inr (heq ▸ List.prefix_rfl)
    · exact .inl hle

/-- No byte of the tunnel is lost, exactly if one of the reads ends with the head. -/
theorem yieldsPayload_iff (hparse : Lawful parse) (endpoint : Endpoint)
    (hhead : IsHead parse head 200) (hchunks : ∀ chunk ∈ chunks, chunk ≠ [])
    (hflat : chunks.flatten = head ++ payload) (rest : List (Except String (List UInt8))) :
    YieldsPayload parse endpoint chunks rest payload ↔
      ∃ first later, chunks = first ++ later ∧ first.flatten = head := by
  obtain ⟨first, chunk, later, hsplit, hbefore, hpart, hend, hread⟩ :=
    readResponseIo_of_isHead endpoint rest hparse hhead List.nil_prefix
      (hhead.ne_nil hparse).symm hchunks hflat
  rw [List.nil_append] at hbefore hpart hend
  rw [if_pos rfl] at hread
  have hstream : (first ++ [chunk]).flatten ++ later.flatten = head ++ payload := by
    rw [← hflat, hsplit]
    simp
  constructor
  · rintro ⟨later', hio, hpayload⟩
    rw [connectIo, hread] at hio
    have heq : later = later' := reads_injective (Except.ok.inj (Option.some.inj hio))
    subst heq
    rw [hpayload] at hstream
    exact ⟨first ++ [chunk], later, by simp [hsplit], List.append_cancel_right hstream⟩
  · rintro ⟨first', later', hsplit', hfirst'⟩
    refine ⟨later, hread, ?_⟩
    have hboth : first ++ [chunk] <+: chunks := ⟨later, by simp [hsplit]⟩
    have hwhole : (first ++ [chunk]).flatten = head := by
      rcases prefix_or_concat_prefix_of_fronts hboth ⟨later', hsplit'.symm⟩ with hle | hle
      · -- the head would have ended with an earlier read
        have hhead' : head <+: first.flatten := hfirst' ▸ flatten_prefix_flatten hle
        exact absurd (hbefore.eq_of_length_le hhead'.length_le) hpart
      · have hle' : (first ++ [chunk]).flatten <+: head := hfirst' ▸ flatten_prefix_flatten hle
        exact hle'.eq_of_length_le hend.length_le
    rw [hwhole] at hstream
    exact List.append_cancel_left hstream

/-- A head in two reads, and the tunnel in a third one. -/
theorem yieldsPayload_of_separate_reads :
    Lawful sampleParse ∧ IsHead sampleParse sampleHead 200 ∧
    YieldsPayload sampleParse (.domain "a.com" 443)
      [sampleHead.take 5, sampleHead.drop 5, [1, 2]] [] [1, 2] :=
  ⟨lawful_sampleParse, isHead_sampleHead,
    (yieldsPayload_iff lawful_sampleParse _ isHead_sampleHead (by decide) (by decide) []).mpr
      ⟨[sampleHead.take 5, sampleHead.drop 5], [[1, 2]], rfl, by decide⟩⟩

/-- A server that speaks first, and whose first byte comes in one read with the end of the
head. -/
theorem not_yieldsPayload_of_coalesced_read :
    ¬YieldsPayload sampleParse (.domain "a.com" 22) [sampleHead ++ [83], [83, 72]] []
      [83, 83, 72] ∧
    connectIo sampleParse (.domain "a.com" 22) (.ok ()) (reads [sampleHead ++ [83], [83, 72]] [])
      = some (.ok (reads [[83, 72]] [])) := by
  have hio : connectIo sampleParse (.domain "a.com" 22) (.ok ())
      (reads [sampleHead ++ [83], [83, 72]] []) = some (.ok (reads [[83, 72]] [])) := by
    rw [connectIo, reads, List.map_cons, List.cons_append, readResponseIo_cons (by simp),
      List.nil_append, lawful_sampleParse.ignores isHead_sampleHead]
    rfl
  refine ⟨?_, hio⟩
  rintro ⟨later, heq, hpayload⟩
  rw [hio] at heq
  have hlater : [[83, 72]] = later := reads_injective (Except.ok.inj (Option.some.inj heq))
  rw [← hlater] at hpayload
  exact absurd hpayload (by decide)

end Dandelion.Connector.HttpProxy
