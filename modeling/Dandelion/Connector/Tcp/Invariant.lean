import Dandelion.Connector.Tcp

/-!
# The invariant of the Happy Eyeballs connector

What every poll that does not return a stream keeps: no address is lost, and every attempt that
has not completed is among the ongoing connections.
-/

namespace Dandelion.Connector

open Itertools Net

variable {S E A : Type*}

/-! ### Lookups -/

/-- The addresses a lookup has returned. -/
def addrsOf (f : Fused (Except E (List A))) : List A :=
  match f.outcome with
  | some (.ok addrs) => addrs
  | _                => []

/-- The addresses a lookup returns when it is polled with the given answer. -/
def newAddrs (f : Fused (Except E (List A))) (answer : Poll (Except E (List A))) : List A :=
  if f.isTerminated then []
  else
    match answer with
    | .ready (.ok addrs) => addrs
    | _                  => []

lemma addrsOf_next (f : Fused (Except E (List A))) (answer : Poll (Except E (List A))) :
    addrsOf (f.next answer) = addrsOf f ++ newAddrs f answer := by
  cases h : f.isTerminated with
  | true => simp [Fused.next_of_isTerminated h, newAddrs, h]
  | false =>
    have hnone : addrsOf f = [] := by
      simp [addrsOf, Fused.isTerminated_eq_false.mp h]
    rw [hnone, Fused.next_of_not_isTerminated h]
    match answer with
    | .pending => simp [newAddrs, hnone]
    | .ready (.error e) => simp [newAddrs, addrsOf]
    | .ready (.ok addrs) => simp [newAddrs, addrsOf, h]

namespace HappyEyeballConnector

variable {s : HappyEyeballConnector S E} {i : PollInput S E}

lemma isResolving_eq_false_iff :
    s.isResolving = false ↔
      s.ipv4Future.isTerminated = true ∧ s.ipv6Future.isTerminated = true := by
  simp [isResolving]

/-- Polling a lookup changes it, the addresses and their count, and nothing else but the registered
wake-ups. -/
lemma pollLookup_eq {B : Type} (set : Fused (Except E (List B)) → HappyEyeballConnector S E)
    (toAddr : B → IpAddr) (source : Source) (future : Fused (Except E (List B)))
    (answer : Poll (Except E (List B))) :
    ∃ registered, pollLookup set toAddr source future answer =
      { set (future.next answer) with
        ipCount := (set (future.next answer)).ipCount + (newAddrs future answer).length
        ips := interleave (set (future.next answer)).ips ((newAddrs future answer).map toAddr)
        registered := registered } := by
  rw [pollLookup]
  cases h : future.isTerminated with
  | true =>
    exact ⟨(set future).registered, by simp [Fused.next_of_isTerminated h, newAddrs, h]⟩
  | false =>
    rw [Fused.next_of_not_isTerminated h]
    match answer with
    | .pending => exact ⟨_, by simp [newAddrs, register]; rfl⟩
    | .ready (.error e) => exact ⟨_, by simp [newAddrs]; rfl⟩
    | .ready (.ok addrs) => exact ⟨_, by simp [newAddrs, h, addAddrs]; rfl⟩

lemma pollLookups_eq (s : HappyEyeballConnector S E) (i : PollInput S E) :
    ∃ registered, s.pollLookups i =
      { s with
        ipv4Future := s.ipv4Future.next i.ipv4
        ipv6Future := s.ipv6Future.next i.ipv6
        ipCount := s.ipCount + (newAddrs s.ipv4Future i.ipv4).length
          + (newAddrs s.ipv6Future i.ipv6).length
        ips := interleave (interleave s.ips ((newAddrs s.ipv4Future i.ipv4).map .v4))
          ((newAddrs s.ipv6Future i.ipv6).map .v6)
        registered := registered } := by
  obtain ⟨r4, h4⟩ :=
    pollLookup_eq (fun f => { s with ipv4Future := f }) .v4 .ipv4Future s.ipv4Future i.ipv4
  obtain ⟨r6, h6⟩ := pollLookup_eq (fun f => { s.pollIpv4 i with ipv6Future := f }) .v6 .ipv6Future
    (s.pollIpv4 i).ipv6Future i.ipv6
  exact ⟨r6, by rw [pollLookups, pollIpv6, h6, pollIpv4, h4]⟩

/-! ### The invariant -/

/-- All addresses the two lookups have returned so far. -/
def returned (s : HappyEyeballConnector S E) : List IpAddr :=
  (addrsOf s.ipv4Future).map .v4 ++ (addrsOf s.ipv6Future).map .v6

/-- What holds before every poll of a run. -/
structure Inv (s : HappyEyeballConnector S E) : Prop where
  count : s.ipCount = s.returned.length
  perm : (s.attempts.map Attempt.addr ++ s.ips).Perm s.returned
  valid : ∀ id ∈ s.connections, id < s.attempts.length
  live : ∀ id a, s.attempts[id]? = some a → a.future.isTerminated = false → id ∈ s.connections
  noStream : ∀ a ∈ s.attempts, ∀ stream, a.future.outcome ≠ some (.ok stream)

lemma Inv.new (host : String) (port : UInt16) (now : ℕ) :
    Inv (new host port now : HappyEyeballConnector S E) := by
  constructor <;> simp [HappyEyeballConnector.new, returned, addrsOf, Fused.running]

lemma Inv.registered (h : Inv s) (registered : List Source) :
    Inv { s with registered := registered } :=
  ⟨h.count, h.perm, h.valid, h.live, h.noStream⟩

/-- The addresses the lookups deliver are added to the ones that wait. -/
lemma Inv.pollLookups (h : Inv s) (i : PollInput S E) : Inv (s.pollLookups i) := by
  obtain ⟨registered, heq⟩ := pollLookups_eq s i
  rw [heq]
  refine ⟨?_, ?_, h.valid, h.live, h.noStream⟩
  · simp only [returned, addrsOf_next, h.count, List.map_append, List.length_append,
      List.length_map]
    omega
  · simp only [returned, addrsOf_next, List.map_append]
    set old4 := (addrsOf s.ipv4Future).map IpAddr.v4
    set old6 := (addrsOf s.ipv6Future).map IpAddr.v6
    set new4 := (newAddrs s.ipv4Future i.ipv4).map IpAddr.v4
    set new6 := (newAddrs s.ipv6Future i.ipv6).map IpAddr.v6
    have hips : (interleave (interleave s.ips new4) new6).Perm (s.ips ++ new4 ++ new6) :=
      (interleave_perm _ _).trans ((interleave_perm _ _).append_right _)
    calc s.attempts.map Attempt.addr ++ interleave (interleave s.ips new4) new6
        |>.Perm (s.attempts.map Attempt.addr ++ (s.ips ++ new4 ++ new6)) := hips.append_left _
      _ |>.Perm (s.attempts.map Attempt.addr ++ s.ips ++ (new4 ++ new6)) := by
        simp only [List.append_assoc, List.Perm.refl]
      _ |>.Perm (old4 ++ old6 ++ (new4 ++ new6)) := h.perm.append_right _
      _ |>.Perm (old4 ++ new4 ++ (old6 ++ new6)) := by
        simp only [List.append_assoc]
        exact List.perm_append_comm_assoc old6 new4 new6 |>.append_left _

/-! ### Ongoing connections -/

/-- The attempt with its future polled, unless it is terminated. -/
def pollOnce (i : PollInput S E) (id : ℕ) (a : Attempt S E) : Attempt S E :=
  { a with future := a.future.next (i.attempt id) }

lemma isTerminated_of_getElem? {id : ℕ} {a : Attempt S E} (h : s.attempts[id]? = some a) :
    s.isTerminated id = a.future.isTerminated := by
  simp [isTerminated, h]

/-- The effect of one step of the scan on the attempts. -/
lemma attempts_pollAttempt {id : ℕ} (hterm : s.isTerminated id = false) (id' : ℕ) :
    (s.pollAttempt id (i.attempt id)).attempts[id']?
      = s.attempts[id']?.map fun a => if id' = id then pollOnce i id' a else a := by
  rw [pollAttempt, List.getElem?_modify]
  cases ha : s.attempts[id']? with
  | none => simp
  | some a =>
    by_cases hid : id = id'
    · subst hid
      have hfut : a.future.isTerminated = false := by
        rw [← isTerminated_of_getElem? ha, hterm]
      simp [pollOnce, Fused.next_of_not_isTerminated hfut]
    · simp [hid, Ne.symm hid]

/-- An ongoing connection of `s` that has not completed. -/
def Unfinished (s : HappyEyeballConnector S E) (ids : List ℕ) (id : ℕ) : Prop :=
  id ∈ ids ∧ s.isTerminated id = false

/-- What the scan over the connections `ids`, started in `acc`, ends with when it finds no
stream. -/
structure ScanSpec (i : PollInput S E) (ids : List ℕ) (acc r : Scan S E) : Prop where
  frame : ∃ attempts registered,
    r.conn = { acc.conn with attempts := attempts, registered := registered }
  attempts : ∀ id, r.conn.attempts[id]?
    = acc.conn.attempts[id]?.map fun a => if id ∈ ids then pollOnce i id a else a
  hasPending : r.hasPending = true ↔
    acc.hasPending = true ∨ ∃ id, Unfinished acc.conn ids id ∧ i.attempt id = .pending
  hasError : r.hasError = true ↔
    acc.hasError = true ∨ ∃ id, Unfinished acc.conn ids id ∧ ∃ e, i.attempt id = .ready (.error e)

lemma ScanSpec.isTerminated_eq {ids : List ℕ} {acc r : Scan S E} (h : ScanSpec i ids acc r)
    {id : ℕ} (hid : id ∉ ids) : r.conn.isTerminated id = acc.conn.isTerminated id := by
  unfold isTerminated
  rw [h.attempts id]
  cases acc.conn.attempts[id]? with
  | none => rfl
  | some a => simp [hid]

lemma ScanSpec.isTerminated_mono {ids : List ℕ} {acc r : Scan S E} (h : ScanSpec i ids acc r)
    {id : ℕ} (hid : r.conn.isTerminated id = false) : acc.conn.isTerminated id = false := by
  by_contra hne
  rw [Bool.not_eq_false] at hne
  unfold isTerminated at hid hne
  rw [h.attempts id] at hid
  cases ha : acc.conn.attempts[id]? with
  | none => simp [ha] at hne
  | some a =>
    simp only [ha] at hne
    by_cases hmem : id ∈ ids
    · simp [ha, hmem, pollOnce, Fused.next_of_isTerminated hne, hne] at hid
    · simp [ha, hmem, hne] at hid

lemma ScanSpec.refl (acc : Scan S E) : ScanSpec i [] acc acc where
  frame := ⟨_, _, rfl⟩
  attempts id := by simp
  hasPending := by simp [Unfinished]
  hasError := by simp [Unfinished]

/-- The first step of a scan and the rest of it poll the unfinished connections between them. -/
lemma ScanSpec.exists_unfinished_cons {id : ℕ} {ids : List ℕ} {acc mid : Scan S E}
    (h : ScanSpec i [id] acc mid) (Q : Poll (Except E S) → Prop) :
    ((∃ x, Unfinished acc.conn [id] x ∧ Q (i.attempt x)) ∨
        ∃ x, Unfinished mid.conn ids x ∧ Q (i.attempt x)) ↔
      ∃ x, Unfinished acc.conn (id :: ids) x ∧ Q (i.attempt x) := by
  constructor
  · rintro (⟨x, ⟨hx, hterm⟩, hans⟩ | ⟨x, ⟨hx, hterm⟩, hans⟩)
    · exact ⟨x, ⟨by simp [List.mem_singleton.mp hx], hterm⟩, hans⟩
    · exact ⟨x, ⟨List.mem_cons_of_mem _ hx, h.isTerminated_mono hterm⟩, hans⟩
  · rintro ⟨x, ⟨hx, hterm⟩, hans⟩
    by_cases hxid : x = id
    · exact .inl ⟨x, ⟨by simp [hxid], hterm⟩, hans⟩
    · have hxs := (List.mem_cons.mp hx).resolve_left hxid
      have hmid : mid.conn.isTerminated x = false := by
        rw [h.isTerminated_eq (by simpa using hxid), hterm]
      exact .inr ⟨x, ⟨hxs, hmid⟩, hans⟩

/-- A scan of `ids` after a scan of `id` is a scan of both. -/
lemma ScanSpec.cons {id : ℕ} {ids : List ℕ} {acc mid r : Scan S E} (h : ScanSpec i [id] acc mid)
    (h' : ScanSpec i ids mid r) : ScanSpec i (id :: ids) acc r where
  frame := by
    obtain ⟨_, _, hmid⟩ := h.frame
    obtain ⟨_, _, hr⟩ := h'.frame
    exact ⟨_, _, by rw [hr, hmid]⟩
  attempts x := by
    rw [h'.attempts x, h.attempts x, Option.map_map]
    congr 1
    funext a
    by_cases hx : x = id <;> by_cases hxs : x ∈ ids <;> simp [hx, hxs, pollOnce]
  hasPending := by
    rw [h'.hasPending, h.hasPending, or_assoc]
    apply or_congr_right
    exact h.exists_unfinished_cons (· = .pending)
  hasError := by
    rw [h'.hasError, h.hasError, or_assoc]
    apply or_congr_right
    exact h.exists_unfinished_cons fun answer => ∃ e, answer = .ready (.error e)

/-- One step of a scan that has found no stream: it finds one now, or it polls one connection. -/
lemma scanStep_cases (i : PollInput S E) {acc : Scan S E} (hacc : acc.maybeStream = none) (id : ℕ) :
    ((scanStep i acc id).maybeStream.isSome = true ∧ acc.conn.isTerminated id = false ∧
        ∃ stream, i.attempt id = .ready (.ok stream)) ∨
      ((scanStep i acc id).maybeStream = none ∧ ScanSpec i [id] acc (scanStep i acc id) ∧
        (acc.conn.isTerminated id = false → ∀ stream, i.attempt id ≠ .ready (.ok stream))) := by
  rw [scanStep]
  rw [if_neg (by simp [hacc])]
  cases hterm : acc.conn.isTerminated id with
  | true =>
    refine .inr ⟨hacc, ⟨⟨_, _, rfl⟩, ?_, ?_, ?_⟩, by simp⟩
    · intro x
      simp only [List.mem_singleton, if_true]
      cases ha : acc.conn.attempts[x]? with
      | none => rfl
      | some a =>
        by_cases hx : x = id
        · subst hx
          rw [isTerminated_of_getElem? ha] at hterm
          simp [pollOnce, Fused.next_of_isTerminated hterm]
        · simp [hx]
    · simp [Unfinished, hterm]
    · simp [Unfinished, hterm]
  | false =>
    simp only [Bool.false_eq_true, if_false]
    match hans : i.attempt id with
    | .ready (.ok stream) => exact .inl ⟨rfl, trivial, stream, rfl⟩
    | .ready (.error e) =>
      refine .inr ⟨hacc, ⟨⟨_, _, rfl⟩, ?_, ?_, ?_⟩, by simp⟩
      · intro x
        have hpoll := attempts_pollAttempt (i := i) hterm x
        rw [hans] at hpoll
        simpa using hpoll
      · simp [Unfinished, hans]
      · simp [Unfinished, hterm, hans]
    | .pending =>
      refine .inr ⟨hacc, ⟨⟨_, _, rfl⟩, ?_, ?_, ?_⟩, by simp⟩
      · intro x
        have hpoll : ∀ a : Attempt S E, (if x = id then pollOnce i x a else a) = a := by
          intro a
          split_ifs with hx
          · simp [pollOnce, hx, hans]
          · rfl
        simp [register, hpoll]
      · simp [Unfinished, hterm, hans]
      · simp [Unfinished, hans]

lemma foldl_scanStep_of_isSome {acc : Scan S E} (h : acc.maybeStream.isSome = true)
    (ids : List ℕ) : ids.foldl (scanStep i) acc = acc := by
  induction ids with
  | nil => rfl
  | cons id ids ih =>
    have hstep : scanStep i acc id = acc := by
      rw [scanStep, if_pos h]
    rw [List.foldl_cons, hstep, ih]

/-- The scan finds a stream exactly when some unfinished connection has one, and otherwise
polls every unfinished connection. -/
lemma foldl_scanStep (i : PollInput S E) (ids : List ℕ) {acc : Scan S E}
    (hacc : acc.maybeStream = none) :
    ((ids.foldl (scanStep i) acc).maybeStream = none ↔
        ∀ id, Unfinished acc.conn ids id → ∀ stream, i.attempt id ≠ .ready (.ok stream)) ∧
      ((ids.foldl (scanStep i) acc).maybeStream = none →
        ScanSpec i ids acc (ids.foldl (scanStep i) acc)) := by
  induction ids generalizing acc with
  | nil => simp [hacc, Unfinished, ScanSpec.refl]
  | cons id ids ih =>
    rw [List.foldl_cons]
    rcases scanStep_cases i hacc id with ⟨hsome, hterm, stream, hans⟩ | ⟨hnone, hspec, hno⟩
    · rw [foldl_scanStep_of_isSome hsome]
      have hne : (scanStep i acc id).maybeStream ≠ none := Option.isSome_iff_ne_none.mp hsome
      refine ⟨⟨fun h => absurd h hne, fun h => ?_⟩, fun h => absurd h hne⟩
      exact absurd hans (h id ⟨List.mem_cons_self, hterm⟩ stream)
    · obtain ⟨hiff, hrest⟩ := ih hnone
      refine ⟨hiff.trans ⟨fun h x hx stream => ?_, fun h x hx stream => ?_⟩,
        fun h => hspec.cons (hrest h)⟩
      · by_cases hxid : x = id
        · subst hxid
          exact hno hx.2 stream
        · have hxs := (List.mem_cons.mp hx.1).resolve_left hxid
          refine h x ⟨hxs, ?_⟩ stream
          rw [hspec.isTerminated_eq (by simpa using hxid), hx.2]
      · exact h x ⟨List.mem_cons_of_mem _ hx.1, hspec.isTerminated_mono hx.2⟩ stream

lemma scan_maybeStream_eq_none_iff (s : HappyEyeballConnector S E) (i : PollInput S E) :
    (s.scan i).maybeStream = none ↔
      ∀ id, Unfinished s s.connections id → ∀ stream, i.attempt id ≠ .ready (.ok stream) :=
  (foldl_scanStep i s.connections rfl).1

lemma scan_spec (h : (s.scan i).maybeStream = none) :
    ScanSpec i s.connections ⟨s, false, false, none⟩ (s.scan i) :=
  (foldl_scanStep i s.connections rfl).2 h

lemma scan_hasPending_iff (h : (s.scan i).maybeStream = none) :
    (s.scan i).hasPending = true ↔
      ∃ id, Unfinished s s.connections id ∧ i.attempt id = .pending := by
  simpa using (scan_spec h).hasPending

lemma scan_hasError_iff (h : (s.scan i).maybeStream = none) :
    (s.scan i).hasError = true ↔
      ∃ id, Unfinished s s.connections id ∧ ∃ e, i.attempt id = .ready (.error e) := by
  simpa using (scan_spec h).hasError

lemma length_attempts_scanStep (i : PollInput S E) (acc : Scan S E) (id : ℕ) :
    (scanStep i acc id).conn.attempts.length = acc.conn.attempts.length := by
  rw [scanStep]
  split_ifs
  · rfl
  · rfl
  · split
    · exact List.length_modify _ _ _
    · exact List.length_modify _ _ _
    · rfl

/-- The number of attempts does not change during a scan. -/
lemma length_attempts_scan (s : HappyEyeballConnector S E) (i : PollInput S E) :
    (s.scan i).conn.attempts.length = s.attempts.length := by
  have hfoldl : ∀ (ids : List ℕ) (acc : Scan S E),
      (ids.foldl (scanStep i) acc).conn.attempts.length = acc.conn.attempts.length := by
    intro ids
    induction ids with
    | nil => exact fun acc => rfl
    | cons id ids ih => exact fun acc => (ih _).trans (length_attempts_scanStep i acc id)
  exact hfoldl s.connections ⟨s, false, false, none⟩

end HappyEyeballConnector

end Dandelion.Connector
