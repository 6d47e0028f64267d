import Dandelion.Connector.Tcp.GiveUp

/-!
# The addresses of the Happy Eyeballs connector

The addresses that have been tried and the ones that still wait form one sequence. Only a lookup
that returns changes it, and only behind the addresses that have been tried.
-/

namespace Dandelion.Connector

open Itertools Net

inductive Family where
  | v4
  | v6
deriving DecidableEq

def family : IpAddr → Family
  | .v4 _ => .v4
  | .v6 _ => .v6

/-- The addresses of a family, in order. -/
def ofFamily (f : Family) (addrs : List IpAddr) : List IpAddr :=
  addrs.filter fun addr => family addr = f

lemma ofFamily_append (f : Family) (addrs addrs' : List IpAddr) :
    ofFamily f (addrs ++ addrs') = ofFamily f addrs ++ ofFamily f addrs' :=
  List.filter_append ..

lemma ofFamily_eq_nil_iff {f : Family} {addrs : List IpAddr} :
    ofFamily f addrs = [] ↔ ∀ addr ∈ addrs, family addr ≠ f := by
  simp [ofFamily, List.filter_eq_nil_iff]

lemma ofFamily_eq_self {f : Family} {addrs : List IpAddr} (h : ∀ addr ∈ addrs, family addr = f) :
    ofFamily f addrs = addrs := by
  apply List.filter_eq_self.mpr
  intro addr haddr
  simpa using h addr haddr

section Deliver

variable {f g : Family} {tried ips addrs : List IpAddr}

/-- Addresses that come in are put behind all addresses of their family. -/
lemma ofFamily_deliver (haddrs : ∀ addr ∈ addrs, family addr = f)
    (hfirst : addrs ≠ [] → ofFamily f (tried ++ ips) = []) :
    ofFamily f (tried ++ interleave ips addrs) = ofFamily f (tried ++ ips) ++ addrs := by
  by_cases hnil : addrs = []
  · simp [hnil]
  · have hnone := ofFamily_eq_nil_iff.mp (hfirst hnil)
    rw [List.forall_mem_append] at hnone
    have hips : ∀ addr ∈ ips, decide (family addr = f) = false := by
      intro addr haddr
      simpa using hnone.2 addr haddr
    rw [hfirst hnil, ofFamily_append, ofFamily_eq_nil_iff.mpr hnone.1, ofFamily,
      filter_interleave_right hips, ← ofFamily, ofFamily_eq_self haddrs]

/-- The other family is left alone. -/
lemma ofFamily_deliver_of_ne (haddrs : ∀ addr ∈ addrs, family addr = g) (hne : g ≠ f) :
    ofFamily f (tried ++ interleave ips addrs) = ofFamily f (tried ++ ips) := by
  have hother : ∀ addr ∈ addrs, decide (family addr = f) = false := by
    intro addr haddr
    simpa [haddrs addr haddr] using hne
  rw [ofFamily_append, ofFamily_append, ofFamily, ofFamily, filter_interleave_left ips hother]
  rfl

end Deliver

namespace HappyEyeballConnector

variable {S E : Type*} {s t : HappyEyeballConnector S E} {i : PollInput S E}

/-- The addresses that were tried, in the order of the attempts. -/
def tried (s : HappyEyeballConnector S E) : List IpAddr := s.attempts.map Attempt.addr

/-- The addresses in the order in which they were and will be tried. -/
def planned (s : HappyEyeballConnector S E) : List IpAddr := s.tried ++ s.ips

/-- Every address a lookup has returned is tried or waits, in the order of the lookup. -/
structure Conserved (s : HappyEyeballConnector S E) : Prop where
  count : s.ipCount = (addrsOf s.ipv4Future).length + (addrsOf s.ipv6Future).length
  ipv4 : (addrsOf s.ipv4Future).map .v4 = ofFamily .v4 s.tried ++ ofFamily .v4 s.ips
  ipv6 : (addrsOf s.ipv6Future).map .v6 = ofFamily .v6 s.tried ++ ofFamily .v6 s.ips

/-- From the attempt number `n` on, `2 * m` attempts alternate between two families. -/
def Alternates (s : HappyEyeballConnector S E) (n m : ℕ) (first second : Family) : Prop :=
  ∀ j < 2 * m, ∀ a, s.attempts[n + j]? = some a →
    family a.addr = if j % 2 = 0 then first else second

/-! ### What does not touch the addresses -/

/-- Addresses at most move from those that wait to those that are tried. -/
structure SameAddrs (s t : HappyEyeballConnector S E) : Prop where
  planned : t.planned = s.planned
  ipCount : t.ipCount = s.ipCount
  ipv4Future : t.ipv4Future = s.ipv4Future
  ipv6Future : t.ipv6Future = s.ipv6Future

lemma SameAddrs.refl (s : HappyEyeballConnector S E) : SameAddrs s s := ⟨rfl, rfl, rfl, rfl⟩

lemma SameAddrs.trans {u : HappyEyeballConnector S E} (h : SameAddrs s t) (h' : SameAddrs t u) :
    SameAddrs s u where
  planned := h'.planned.trans h.planned
  ipCount := h'.ipCount.trans h.ipCount
  ipv4Future := h'.ipv4Future.trans h.ipv4Future
  ipv6Future := h'.ipv6Future.trans h.ipv6Future

lemma SameAddrs.conserved (h : SameAddrs s t) (hs : Conserved s) : Conserved t where
  count := by rw [h.ipCount, h.ipv4Future, h.ipv6Future, hs.count]
  ipv4 := by rw [h.ipv4Future, hs.ipv4, ← ofFamily_append, ← ofFamily_append]
             exact congrArg _ h.planned.symm
  ipv6 := by rw [h.ipv6Future, hs.ipv6, ← ofFamily_append, ← ofFamily_append]
             exact congrArg _ h.planned.symm

lemma tried_pollAttempt (s : HappyEyeballConnector S E) (id : ℕ) (answer : Poll (Except E S)) :
    (s.pollAttempt id answer).tried = s.tried := by
  apply List.ext_getElem?
  intro n
  simp only [tried, pollAttempt, List.getElem?_map, List.getElem?_modify]
  cases s.attempts[n]? with
  | none => rfl
  | some a =>
    simp only [Option.map_eq_map, Option.map_some]
    split_ifs <;> rfl

lemma sameAddrs_scanStep (acc : Scan S E) (id : ℕ) :
    SameAddrs acc.conn (scanStep i acc id).conn := by
  have hpoll : ∀ answer, SameAddrs acc.conn (acc.conn.pollAttempt id answer) := by
    intro answer
    refine ⟨?_, rfl, rfl, rfl⟩
    rw [planned, tried_pollAttempt]
    rfl
  rw [scanStep]
  split_ifs
  · exact .refl _
  · exact .refl _
  · split
    · exact hpoll _
    · exact hpoll _
    · exact ⟨rfl, rfl, rfl, rfl⟩

lemma sameAddrs_scan (s : HappyEyeballConnector S E) (i : PollInput S E) :
    SameAddrs s (s.scan i).conn := by
  suffices h : ∀ (ids : List ℕ) (acc : Scan S E),
      SameAddrs acc.conn (ids.foldl (scanStep i) acc).conn from
    h s.connections ⟨s, false, false, none⟩
  intro ids
  induction ids with
  | nil => exact fun acc => .refl _
  | cons id ids ih => exact fun acc => (sameAddrs_scanStep acc id).trans (ih _)

lemma sameAddrs_connectNext {addr : IpAddr} {ips : List IpAddr} (hips : s.ips = addr :: ips) :
    SameAddrs s (s.connectNext i addr ips) := by
  refine ⟨?_, rfl, rfl, rfl⟩
  simp [planned, tried, connectNext, hips]

lemma sameAddrs_connectLoop {l : List IpAddr} (hl : s.ips = l) :
    SameAddrs s (connectLoop i l s).1 := by
  induction l generalizing s with
  | nil =>
    rw [connectLoop]
    split_ifs
    · exact .refl _
    · exact .refl _
  | cons addr ips ih =>
    have hnext := sameAddrs_connectNext (i := i) hl
    rw [connectLoop_cons]
    split
    · exact hnext
    · exact hnext.trans (ih rfl)
    · rw [startTimer_eq]
      exact ⟨hnext.planned, rfl, rfl, rfl⟩

/-- After its lookups, a poll only makes attempts. -/
lemma sameAddrs_poll (s : HappyEyeballConnector S E) (i : PollInput S E) :
    SameAddrs (s.resolved i) (s.poll i).1 := by
  have hscan := sameAddrs_scan (s.resolved i) i
  rw [poll_eq]
  split
  · exact .refl _
  · split
    · exact hscan
    · split
      · exact hscan.trans (sameAddrs_connectLoop rfl)
      · exact ⟨hscan.planned, hscan.ipCount, hscan.ipv4Future, hscan.ipv6Future⟩

/-! ### What the lookups deliver -/

lemma newAddrs_of_isTerminated {A : Type*} {f : Fused (Except E (List A))}
    (h : f.isTerminated = true) (answer : Poll (Except E (List A))) : newAddrs f answer = [] := by
  simp [newAddrs, h]

/-- A lookup that delivers had delivered nothing before. -/
lemma addrsOf_of_newAddrs_ne_nil {A : Type*} {f : Fused (Except E (List A))}
    {answer : Poll (Except E (List A))} (h : newAddrs f answer ≠ []) : addrsOf f = [] := by
  cases hterm : f.isTerminated with
  | true => exact absurd (newAddrs_of_isTerminated hterm answer) h
  | false => simp [addrsOf, Fused.isTerminated_eq_false.mp hterm]

lemma isTerminated_of_addrsOf_ne_nil {A : Type*} {f : Fused (Except E (List A))}
    (h : addrsOf f ≠ []) : f.isTerminated = true := by
  by_contra hterm
  rw [Bool.not_eq_true] at hterm
  exact h (by simp [addrsOf, Fused.isTerminated_eq_false.mp hterm])

lemma isTerminated_next_of_newAddrs_ne_nil {A : Type*} {f : Fused (Except E (List A))}
    {answer : Poll (Except E (List A))} (h : newAddrs f answer ≠ []) :
    (f.next answer).isTerminated = true := by
  apply isTerminated_of_addrsOf_ne_nil
  rw [addrsOf_next]
  simp [h]

/-- The addresses the IPv4 lookup delivers in a poll. -/
def new4 (s : HappyEyeballConnector S E) (i : PollInput S E) : List IpAddr :=
  (newAddrs s.ipv4Future i.ipv4).map .v4

/-- The addresses the IPv6 lookup delivers in a poll. -/
def new6 (s : HappyEyeballConnector S E) (i : PollInput S E) : List IpAddr :=
  (newAddrs s.ipv6Future i.ipv6).map .v6

lemma family_of_mem_new4 : ∀ addr ∈ s.new4 i, family addr = .v4 := by
  simp [new4, family]

lemma family_of_mem_new6 : ∀ addr ∈ s.new6 i, family addr = .v6 := by
  simp [new6, family]

lemma planned_resolved (s : HappyEyeballConnector S E) (i : PollInput S E) :
    (s.resolved i).planned
      = s.tried ++ interleave (interleave s.ips (s.new4 i)) (s.new6 i) := by
  obtain ⟨registered, heq⟩ :=
    pollLookups_eq ({ s with registered := [] } : HappyEyeballConnector S E) i
  rw [resolved, heq]
  rfl

lemma ips_pollIpv4 (s : HappyEyeballConnector S E) (i : PollInput S E) :
    (s.pollIpv4 i).ips = interleave s.ips (s.new4 i) := by
  obtain ⟨registered, heq⟩ :=
    pollLookup_eq (fun f => { s with ipv4Future := f }) .v4 .ipv4Future s.ipv4Future i.ipv4
  rw [pollIpv4, heq]
  rfl

/-- Before the IPv4 lookup delivers, there are only IPv6 addresses. -/
lemma Conserved.no_v4 (hs : Conserved s) (hnew : s.new4 i ≠ []) :
    ofFamily .v4 (s.tried ++ s.ips) = [] := by
  rw [ofFamily_append, ← hs.ipv4, addrsOf_of_newAddrs_ne_nil (List.map_eq_nil_iff.not.mp hnew)]
  rfl

/-- Before the IPv6 lookup delivers, there are only IPv4 addresses. -/
lemma Conserved.no_v6 (hs : Conserved s) (hnew : s.new6 i ≠ []) :
    ofFamily .v6 (s.tried ++ interleave s.ips (s.new4 i)) = [] := by
  rw [ofFamily_deliver_of_ne family_of_mem_new4 (by decide), ofFamily_append, ← hs.ipv6,
    addrsOf_of_newAddrs_ne_nil (List.map_eq_nil_iff.not.mp hnew)]
  rfl

lemma Conserved.resolved (hs : Conserved s) (i : PollInput S E) : Conserved (s.resolved i) := by
  have hplanned := planned_resolved s i
  obtain ⟨registered, heq⟩ :=
    pollLookups_eq ({ s with registered := [] } : HappyEyeballConnector S E) i
  have hcount := hs.count
  have h4 := hs.ipv4
  have h6 := hs.ipv6
  rw [← ofFamily_append] at h4 h6
  constructor
  · rw [HappyEyeballConnector.resolved, heq]
    simp only [addrsOf_next, List.length_append, hcount]
    omega
  · rw [← ofFamily_append]
    change _ = ofFamily .v4 (s.resolved i).planned
    rw [hplanned, ofFamily_deliver_of_ne family_of_mem_new6 (by decide),
      ofFamily_deliver family_of_mem_new4 hs.no_v4, ← h4, (resolved_spec s i).2.2.2.1,
      addrsOf_next, List.map_append, new4]
  · rw [← ofFamily_append]
    change _ = ofFamily .v6 (s.resolved i).planned
    rw [hplanned, ofFamily_deliver family_of_mem_new6 hs.no_v6,
      ofFamily_deliver_of_ne family_of_mem_new4 (by decide), ← h6,
      (resolved_spec s i).2.2.2.2.1, addrsOf_next, List.map_append, new6]

/-! ### Runs -/

lemma Conserved.new (host : String) (port : UInt16) (now : ℕ) :
    Conserved (new host port now : HappyEyeballConnector S E) := by
  constructor <;> rfl

lemma Conserved.poll (hs : Conserved s) (i : PollInput S E) : Conserved (s.poll i).1 :=
  (sameAddrs_poll s i).conserved (hs.resolved i)

/-- Once both lookups are done, the order of the addresses is settled. -/
lemma planned_poll_of_isTerminated (h4 : s.ipv4Future.isTerminated = true)
    (h6 : s.ipv6Future.isTerminated = true) (i : PollInput S E) :
    (s.poll i).1.planned = s.planned := by
  rw [(sameAddrs_poll s i).planned, planned_resolved, new4, new6,
    newAddrs_of_isTerminated h4, newAddrs_of_isTerminated h6]
  simp [planned]

lemma planned_of_mem_polls {inputs : List (PollInput S E)} (h4 : s.ipv4Future.isTerminated = true)
    (h6 : s.ipv6Future.isTerminated = true) :
    ∀ step ∈ polls s inputs, step.after.planned = s.planned := by
  have hkeep : ∀ (t : HappyEyeballConnector S E) (i : PollInput S E),
      t.ipv4Future = s.ipv4Future ∧ t.ipv6Future = s.ipv6Future ∧ t.planned = s.planned →
      (t.poll i).1.ipv4Future = s.ipv4Future ∧ (t.poll i).1.ipv6Future = s.ipv6Future ∧
        (t.poll i).1.planned = s.planned := by
    rintro t i ⟨ht4, ht6, hplanned⟩
    have hsame := sameAddrs_poll t i
    obtain ⟨-, -, -, hnext4, hnext6, -⟩ := resolved_spec t i
    rw [ht4, Fused.next_of_isTerminated h4] at hnext4
    rw [ht6, Fused.next_of_isTerminated h6] at hnext6
    refine ⟨hsame.ipv4Future.trans hnext4, hsame.ipv6Future.trans hnext6, ?_⟩
    rw [planned_poll_of_isTerminated (ht4 ▸ h4) (ht6 ▸ h6), hplanned]
  intro step hstep
  obtain ⟨hbefore, hafter, -⟩ :=
    forall_mem_polls (fun t i ht _ => hkeep t i ht) ⟨rfl, rfl, rfl⟩ step hstep
  rw [hafter]
  exact (hkeep step.before step.input hbefore).2.2

/-- If both lookups are done after a poll, all that is tried from then on was planned in it. -/
lemma planned_of_mem_polls_cons {inputs : List (PollInput S E)}
    (h4 : (s.ipv4Future.next i.ipv4).isTerminated = true)
    (h6 : (s.ipv6Future.next i.ipv6).isTerminated = true) :
    ∀ step ∈ polls s (i :: inputs), step.after.planned = (s.resolved i).planned := by
  obtain ⟨-, -, -, hnext4, hnext6, -⟩ := resolved_spec s i
  have hsame := sameAddrs_poll s i
  intro step hstep
  rw [polls, List.mem_cons] at hstep
  rcases hstep with rfl | hstep
  · exact hsame.planned
  · split at hstep
    · rw [planned_of_mem_polls (by rw [hsame.ipv4Future, hnext4, h4])
        (by rw [hsame.ipv6Future, hnext6, h6]) step hstep, hsame.planned]
    · simp at hstep

/-- Attempts follow the plan: addresses that come in while others wait are taken in turns with
them. -/
lemma alternates_of_planned {before waiting addrs : List IpAddr} {first second : Family}
    (hwaiting : ∀ addr ∈ waiting, family addr = first)
    (haddrs : ∀ addr ∈ addrs, family addr = second)
    (hplanned : ∀ addr ∈ waiting, s.planned = before ++ interleave waiting addrs) :
    Alternates s before.length (min waiting.length addrs.length) first second := by
  intro j hj a ha
  obtain ⟨addr, haddr⟩ : ∃ addr, addr ∈ waiting := by
    apply List.exists_mem_of_length_pos
    omega
  have htried : s.tried[before.length + j]? = some a.addr := by
    rw [tried, List.getElem?_map, ha]
    rfl
  have hnext : s.planned[before.length + j]? = some a.addr := by
    rw [planned, List.getElem?_append_left (List.getElem?_eq_some_iff.mp htried).1, htried]
  rw [hplanned addr haddr, List.getElem?_append_right (Nat.le_add_right ..),
    Nat.add_sub_cancel_left] at hnext
  have hmem := mem_of_getElem?_interleave hj hnext
  split_ifs at hmem ⊢
  · exact hwaiting _ hmem
  · exact haddrs _ hmem

lemma alternates_zero (n : ℕ) (first second : Family) : Alternates s n 0 first second := by
  intro j hj
  simp at hj

/-- There are two families. -/
lemma family_eq_of_ne {addr : IpAddr} {f g : Family} (hne : f ≠ g) (h : family addr ≠ g) :
    family addr = f := by
  cases addr <;> cases f <;> cases g <;> first | rfl | contradiction

/-- An address comes from a lookup that is done. -/
lemma isTerminated_of_mem {A : Type*} {f : Fused (Except E (List A))} {toAddr : A → IpAddr}
    {fam : Family} (h : (addrsOf f).map toAddr = ofFamily fam s.tried ++ ofFamily fam s.ips)
    {addr : IpAddr} (haddr : addr ∈ s.planned) (hfamily : family addr = fam) :
    f.isTerminated = true := by
  apply isTerminated_of_addrsOf_ne_nil
  intro hnil
  rw [hnil, ← ofFamily_append] at h
  exact ofFamily_eq_nil_iff.mp h.symm addr haddr hfamily

/-- When the lookup of a family delivers, the addresses of the other one that wait go first. -/
lemma alternates_of_new {waiting new : List IpAddr} {first second : Family} (hne : first ≠ second)
    (hnew : ∀ addr ∈ new, family addr = second)
    (hnone : new ≠ [] → ofFamily second (s.tried ++ waiting) = [])
    (hplanned : new ≠ [] → ∀ addr ∈ waiting, family addr = first →
      t.planned = s.tried ++ interleave waiting new) :
    Alternates t s.attempts.length (min (ofFamily first waiting).length new.length)
      first second := by
  by_cases hnil : new = []
  · rw [hnil, List.length_nil, Nat.min_zero]
    exact alternates_zero _ _ _
  · have hall := ofFamily_eq_nil_iff.mp (hnone hnil)
    rw [List.forall_mem_append] at hall
    have hwaiting : ∀ addr ∈ waiting, family addr = first :=
      fun addr haddr => family_eq_of_ne hne (hall.2 addr haddr)
    rw [ofFamily_eq_self hwaiting]
    simpa [tried] using alternates_of_planned hwaiting hnew
      fun addr haddr => hplanned hnil addr haddr (hwaiting addr haddr)

lemma Conserved.alternates (hs : Conserved s) {inputs : List (PollInput S E)} :
    ∀ step ∈ polls s (i :: inputs),
      Alternates step.after s.attempts.length
        (min (ofFamily .v4 (s.pollIpv4 i).ips).length (newAddrs s.ipv6Future i.ipv6).length)
        .v4 .v6 ∧
      Alternates step.after s.attempts.length
        (min (ofFamily .v6 s.ips).length (newAddrs s.ipv4Future i.ipv4).length) .v6 .v4 := by
  intro step hstep
  constructor
  · have hlength : (s.new6 i).length = (newAddrs s.ipv6Future i.ipv6).length := List.length_map _
    rw [ips_pollIpv4, ← hlength]
    apply alternates_of_new ?_ family_of_mem_new6 hs.no_v6
    · intro hnew addr haddr hfamily
      obtain ⟨-, -, -, hnext4, -⟩ := resolved_spec s i
      have h4 : (s.ipv4Future.next i.ipv4).isTerminated = true := by
        rw [← hnext4]
        refine isTerminated_of_mem (hs.resolved i).ipv4 ?_ hfamily
        rw [planned_resolved]
        exact List.mem_append_right _
          ((interleave_perm _ _).mem_iff.mpr (List.mem_append_left _ haddr))
      have h6 := isTerminated_next_of_newAddrs_ne_nil (List.map_eq_nil_iff.not.mp hnew)
      rw [planned_of_mem_polls_cons h4 h6 step hstep, planned_resolved]
    · decide
  · have hlength : (s.new4 i).length = (newAddrs s.ipv4Future i.ipv4).length := List.length_map _
    rw [← hlength]
    apply alternates_of_new ?_ family_of_mem_new4 hs.no_v4
    · intro hnew addr haddr hfamily
      have h6 : s.ipv6Future.isTerminated = true :=
        isTerminated_of_mem hs.ipv6 (List.mem_append_right _ haddr) hfamily
      have h4 := isTerminated_next_of_newAddrs_ne_nil (List.map_eq_nil_iff.not.mp hnew)
      have hnone6 : s.new6 i = [] := by
        rw [new6, newAddrs_of_isTerminated h6, List.map_nil]
      rw [planned_of_mem_polls_cons h4 (by rw [Fused.next_of_isTerminated h6, h6]) step hstep,
        planned_resolved, hnone6, interleave_nil_right]
    · decide

/-- What follows a poll of a run is a run again. -/
lemma drop_polls {inputs : List (PollInput S E)} {k : ℕ} {step : Step S E}
    (hs : Conserved s) (hstep : (polls s inputs)[k]? = some step) :
    Conserved step.before ∧ ∃ inputs', (polls s inputs).drop k
      = polls step.before (step.input :: inputs') := by
  induction inputs generalizing s k with
  | nil => simp [polls] at hstep
  | cons i inputs ih =>
    cases k with
    | zero =>
      rw [polls, List.getElem?_cons_zero, Option.some.injEq] at hstep
      subst hstep
      exact ⟨hs, inputs, rfl⟩
    | succ k =>
      rw [polls, List.getElem?_cons_succ] at hstep
      rw [polls, List.drop_succ_cons]
      split at hstep
      · exact ih (hs.poll i) hstep
      · simp at hstep

lemma Conserved.of_mem_polls {inputs : List (PollInput S E)} (hs : Conserved s) :
    ∀ step ∈ polls s inputs, Conserved step.before ∧ Conserved step.after := by
  intro step hstep
  obtain ⟨hbefore, hafter, -⟩ := forall_mem_polls (fun s i hs _ => hs.poll i) hs step hstep
  rw [hafter]
  exact ⟨hbefore, hbefore.poll step.input⟩

/-- In every run, no address that a lookup has returned is lost, tried twice or tried before one
that the same lookup returned earlier. From a poll on in which a lookup delivers addresses while
addresses of the other family wait, attempts alternate between the two families, those that wait
first, until one family runs out. -/
theorem addresses_conserved (host : String) (port : UInt16) (now : ℕ)
    (inputs : List (PollInput S E)) :
    (∀ step ∈ polls (new host port now) inputs, Conserved step.before ∧ Conserved step.after) ∧
    ∀ k step, (polls (new host port now) inputs)[k]? = some step →
      ∀ later ∈ (polls (new host port now) inputs).drop k,
        Alternates later.after step.before.attempts.length
          (min (ofFamily .v4 (step.before.pollIpv4 step.input).ips).length
            (newAddrs step.before.ipv6Future step.input.ipv6).length) .v4 .v6 ∧
        Alternates later.after step.before.attempts.length
          (min (ofFamily .v6 step.before.ips).length
            (newAddrs step.before.ipv4Future step.input.ipv4).length) .v6 .v4 := by
  constructor
  · exact (Conserved.new host port now).of_mem_polls
  · intro k step hstep later hlater
    obtain ⟨hs, inputs', hdrop⟩ := drop_polls (.new host port now) hstep
    rw [hdrop] at hlater
    exact hs.alternates later hlater

end HappyEyeballConnector

end Dandelion.Connector
