import Dandelion.Connector.Tcp.Invariant

/-!
# When the Happy Eyeballs connector gives up

A poll may return an error only when every address has been tried in vain. The connector does
not keep to this: it also gives up while its last attempts are still under way, as soon as the
timer fires or another attempt fails. `Premature` says exactly when that happens.
-/

namespace Dandelion.Connector.HappyEyeballConnector

open Net

variable {S E : Type*} {s : HappyEyeballConnector S E} {i : PollInput S E}

/-- Some attempt has not completed. -/
def HasLive (s : HappyEyeballConnector S E) : Prop :=
  ∃ a ∈ s.attempts, a.future.isTerminated = false

/-- Both lookups have completed, and each address they returned was attempted once, in vain. -/
structure Exhausted (s : HappyEyeballConnector S E) : Prop where
  ipv4 : s.ipv4Future.isTerminated = true
  ipv6 : s.ipv6Future.isTerminated = true
  attempted : (s.attempts.map Attempt.addr).Perm s.returned
  failed : ∀ a ∈ s.attempts, ∃ e, a.future.outcome = some (.error e)
  connections : ∀ id ∈ s.connections, s.isTerminated id = true

/-- The poll finds both lookups done, some connection pending and none established. It enters
the loop because of the timer or of a failed connection, and no address is left that starts to
connect. -/
structure Premature (s : HappyEyeballConnector S E) (i : PollInput S E) : Prop where
  ipv4 : (s.ipv4Future.next i.ipv4).isTerminated = true
  ipv6 : (s.ipv6Future.next i.ipv6).isTerminated = true
  pending : ∃ id, Unfinished s s.connections id ∧ i.attempt id = .pending
  noStream : ∀ id, Unfinished s s.connections id → ∀ stream, i.attempt id ≠ .ready (.ok stream)
  entered : (∃ id, Unfinished s s.connections id ∧ ∃ e, i.attempt id = .ready (.error e)) ∨
    s.nextConnectionTimer ≤ i.now
  noneLeft : ∀ k < s.ips.length + (newAddrs s.ipv4Future i.ipv4).length
      + (newAddrs s.ipv6Future i.ipv6).length,
    ∃ e, i.attempt (s.attempts.length + k) = .ready (.error e)

/-! ### The scan -/

/-- After a scan that finds no stream, an attempt is live exactly when one was pending. -/
lemma Inv.hasLive_scan_iff (hs : Inv s) (hmaybe : (s.scan i).maybeStream = none) :
    HasLive (s.scan i).conn ↔ (s.scan i).hasPending = true := by
  have h := scan_spec hmaybe
  rw [scan_hasPending_iff hmaybe]
  constructor
  · rintro ⟨b, hb, hterm⟩
    obtain ⟨id, hid⟩ := List.mem_iff_getElem?.mp hb
    have hold : s.isTerminated id = false :=
      h.isTerminated_mono (by rw [isTerminated_of_getElem? hid, hterm])
    rw [h.attempts id, Option.map_eq_some_iff] at hid
    obtain ⟨a, ha, rfl⟩ := hid
    have hmem : id ∈ s.connections := hs.live id a ha (by rw [← isTerminated_of_getElem? ha, hold])
    rw [if_pos hmem] at hterm
    refine ⟨id, ⟨hmem, hold⟩, ?_⟩
    cases hans : i.attempt id with
    | pending => rfl
    | ready r => simp [pollOnce, hans] at hterm
  · rintro ⟨id, ⟨hmem, hold⟩, hans⟩
    obtain ⟨a, ha⟩ : ∃ a, s.attempts[id]? = some a :=
      ⟨_, List.getElem?_eq_getElem (hs.valid id hmem)⟩
    have hnew : (s.scan i).conn.attempts[id]? = some a := by
      rw [h.attempts id, ha]
      simp [hmem, pollOnce, hans]
    refine ⟨a, List.mem_of_getElem? hnew, ?_⟩
    rw [← isTerminated_of_getElem? ha, hold]

/-- A scan that finds no stream keeps the invariant. -/
lemma Inv.scan (hs : Inv s) (hmaybe : (s.scan i).maybeStream = none) : Inv (s.scan i).conn := by
  have hno := (scan_maybeStream_eq_none_iff s i).mp hmaybe
  have hlen := length_attempts_scan s i
  obtain ⟨attempts, registered, hr⟩ := (scan_spec hmaybe).frame
  have hatt := (scan_spec hmaybe).attempts
  rw [hr] at hatt hlen ⊢
  have haddr : attempts.map Attempt.addr = s.attempts.map Attempt.addr := by
    apply List.ext_getElem?
    intro id
    simp only [List.getElem?_map, hatt id, Option.map_map]
    congr 1
    funext a
    simp only [Function.comp_apply]
    split_ifs <;> rfl
  refine ⟨hs.count, ?_, ?_, ?_, ?_⟩
  · rw [haddr]
    exact hs.perm
  · intro id hid
    exact hlen ▸ hs.valid id hid
  · intro id b hb hterm
    rw [hatt id, Option.map_eq_some_iff] at hb
    obtain ⟨a, ha, rfl⟩ := hb
    by_cases hmem : id ∈ s.connections
    · exact hmem
    · rw [if_neg hmem] at hterm
      exact hs.live id a ha hterm
  · intro b hb stream hout
    obtain ⟨id, hid⟩ := List.mem_iff_getElem?.mp hb
    rw [hatt id, Option.map_eq_some_iff] at hid
    obtain ⟨a, ha, rfl⟩ := hid
    have hold := hs.noStream a (List.mem_of_getElem? ha) stream
    split_ifs at hout with hmem
    · cases hterm : a.future.isTerminated with
      | true => simp [pollOnce, Fused.next_of_isTerminated hterm, hold] at hout
      | false =>
        have hunf : Unfinished s s.connections id :=
          ⟨hmem, by rw [isTerminated_of_getElem? ha, hterm]⟩
        cases hans : i.attempt id with
        | pending => simp [pollOnce, hans, hold] at hout
        | ready r =>
          simp only [pollOnce, Fused.next_of_not_isTerminated hterm, hans, Fused.poll_ready,
            Option.some.injEq] at hout
          exact hno id hunf stream (by rw [hans, hout])
    · exact hold hout

/-! ### The loop -/

/-- The attempt made for the next address. -/
def connectNext (s : HappyEyeballConnector S E) (i : PollInput S E) (addr : IpAddr)
    (ips : List IpAddr) : HappyEyeballConnector S E :=
  { s with
    ips := ips
    attempts := s.attempts ++ [⟨addr, Fused.running.poll (i.attempt s.attempts.length)⟩] }

lemma connectLoop_cons (s : HappyEyeballConnector S E) (i : PollInput S E) (addr : IpAddr)
    (ips : List IpAddr) :
    connectLoop i (addr :: ips) s =
      match i.attempt s.attempts.length with
      | .ready (.ok stream) => (connectNext s i addr ips, .ok stream)
      | .ready (.error _)   => connectLoop i ips (connectNext s i addr ips)
      | .pending            =>
        ((connectNext s i addr ips).register (.connection s.attempts.length)).startTimer i
          s.attempts.length := rfl

/-- The restarted timer is pending, so the assertion of the code holds. -/
lemma startTimer_eq (s : HappyEyeballConnector S E) (i : PollInput S E) (id : ℕ) :
    s.startTimer i id =
      ({ s with
         nextConnectionTimer := i.now + connectionAttemptDelay
         registered := .timer :: s.registered
         connections := s.connections ++ [id] }, .pending) := by
  have hdead : ¬ i.now + connectionAttemptDelay ≤ i.now := by
    simp [connectionAttemptDelay]
  simp [startTimer, pollTimer, hdead]

/-- An attempt that does not succeed at once keeps the invariant, if it is pushed while it is
pending. -/
lemma Inv.connectNext (hs : Inv s) {addr : IpAddr} {ips : List IpAddr}
    (hips : s.ips = addr :: ips)
    (hno : ∀ stream, i.attempt s.attempts.length ≠ .ready (.ok stream))
    {connections : List ℕ} (hsub : ∀ id ∈ s.connections, id ∈ connections)
    (hvalid : ∀ id ∈ connections, id ∈ s.connections ∨ id = s.attempts.length)
    (hpush : i.attempt s.attempts.length = .pending → s.attempts.length ∈ connections) :
    Inv { s.connectNext i addr ips with connections := connections } := by
  refine ⟨hs.count, ?_, ?_, ?_, ?_⟩
  · have hperm := hs.perm
    rw [hips] at hperm
    simpa [HappyEyeballConnector.connectNext, returned] using hperm
  · intro id hid
    simp only [HappyEyeballConnector.connectNext, List.length_append, List.length_singleton]
    rcases hvalid id hid with hold | rfl
    · exact Nat.lt_succ_of_lt (hs.valid id hold)
    · exact Nat.lt_succ_self _
  · intro id a ha hterm
    simp only [HappyEyeballConnector.connectNext] at ha
    rw [List.getElem?_append] at ha
    split_ifs at ha with hlt
    · exact hsub id (hs.live id a ha hterm)
    · have hid : id = s.attempts.length := by
        have hone := (List.getElem?_eq_some_iff.mp ha).1
        simp only [List.length_singleton] at hone
        omega
      subst hid
      apply hpush
      simp only [Nat.sub_self, List.getElem?_cons_zero, Option.some.injEq] at ha
      subst ha
      cases hans : i.attempt s.attempts.length with
      | pending => rfl
      | ready r => simp [hans] at hterm
  · intro a ha stream hout
    simp only [HappyEyeballConnector.connectNext, List.mem_append, List.mem_singleton] at ha
    rcases ha with ha | rfl
    · exact hs.noStream a ha stream hout
    · cases hans : i.attempt s.attempts.length with
      | pending => simp [hans, Fused.running] at hout
      | ready r =>
        simp only [hans, Fused.poll_ready, Option.some.injEq] at hout
        exact hno stream (by rw [hans, hout])

/-- The loop keeps the invariant unless it returns a stream. -/
lemma Inv.connectLoop {l : List IpAddr} (hs : Inv s) (hl : s.ips = l)
    (hno : ∀ stream, (connectLoop i l s).2 ≠ .ok stream) : Inv (connectLoop i l s).1 := by
  induction l generalizing s with
  | nil =>
    simp only [HappyEyeballConnector.connectLoop]
    split_ifs
    · exact hs
    · exact hs
  | cons addr ips ih =>
    rw [connectLoop_cons] at hno ⊢
    match hans : i.attempt s.attempts.length with
    | .ready (.ok stream) =>
      simp only [hans] at hno
      exact absurd rfl (hno stream)
    | .ready (.error e) =>
      simp only [hans] at hno ⊢
      refine ih ?_ rfl hno
      exact hs.connectNext hl (by simp [hans]) (fun _ h => h) (fun _ h => .inl h) (by simp [hans])
    | .pending =>
      simp only [startTimer_eq]
      have hpushed : Inv { s.connectNext i addr ips with
          connections := s.connections ++ [s.attempts.length] } := by
        refine hs.connectNext hl (by simp [hans]) (fun _ h => List.mem_append_left _ h) ?_ (by simp)
        intro id hid
        simpa using hid
      exact ⟨hpushed.count, hpushed.perm, hpushed.valid, hpushed.live, hpushed.noStream⟩

/-- The loop returns an error exactly when no lookup is under way and every address that was
left fails at once. -/
lemma connectLoop_err_iff {l : List IpAddr} :
    (∃ m, (connectLoop i l s).2 = .err m) ↔ s.isResolving = false ∧
      ∀ k < l.length, ∃ e, i.attempt (s.attempts.length + k) = .ready (.error e) := by
  induction l generalizing s with
  | nil => cases h : s.isResolving <;> simp [connectLoop, h]
  | cons addr ips ih =>
    rw [connectLoop_cons]
    have hzero : (∀ k < (addr :: ips).length,
        ∃ e, i.attempt (s.attempts.length + k) = .ready (.error e)) →
        ∃ e, i.attempt s.attempts.length = .ready (.error e) := by
      intro h
      exact h 0 (by simp)
    match hans : i.attempt s.attempts.length with
    | .ready (.ok stream) =>
      simp only [reduceCtorEq, exists_false, false_iff, not_and]
      intro _ h
      obtain ⟨e, he⟩ := hzero h
      rw [hans] at he
      cases he
    | .pending =>
      simp only [startTimer_eq, reduceCtorEq, exists_false, false_iff, not_and]
      intro _ h
      obtain ⟨e, he⟩ := hzero h
      rw [hans] at he
      cases he
    | .ready (.error e) =>
      simp only [ih]
      apply and_congr_right
      intro _
      constructor
      · intro h k hk
        cases k with
        | zero => exact ⟨e, hans⟩
        | succ k =>
          have hk' := h k (by simpa using hk)
          simpa [connectNext, Nat.add_assoc, Nat.add_comm 1] using hk'
      · intro h k hk
        have hk' := h (k + 1) (by simpa using hk)
        simpa [connectNext, Nat.add_assoc, Nat.add_comm 1] using hk'

/-- A loop that returns an error has used up the addresses and left the old attempts alone. -/
lemma connectLoop_of_err {l : List IpAddr} {m : String} (hl : s.ips = l)
    (herr : (connectLoop i l s).2 = .err m) :
    (connectLoop i l s).1.ips = [] ∧ (connectLoop i l s).1.ipv4Future = s.ipv4Future ∧
      (connectLoop i l s).1.ipv6Future = s.ipv6Future ∧
      (HasLive (connectLoop i l s).1 ↔ HasLive s) := by
  induction l generalizing s with
  | nil =>
    simp only [connectLoop]
    split_ifs
    · exact ⟨hl, rfl, rfl, Iff.rfl⟩
    · exact ⟨hl, rfl, rfl, Iff.rfl⟩
  | cons addr ips ih =>
    rw [connectLoop_cons] at herr ⊢
    match hans : i.attempt s.attempts.length with
    | .ready (.ok stream) => simp [hans] at herr
    | .pending => simp [hans, startTimer_eq] at herr
    | .ready (.error e) =>
      simp only [hans] at herr ⊢
      obtain ⟨hips, h4, h6, hlive⟩ := ih (s := s.connectNext i addr ips) rfl herr
      refine ⟨hips, h4, h6, hlive.trans ?_⟩
      simp [HasLive, connectNext, hans, or_and_right, exists_or]

/-! ### One poll -/

lemma Exhausted.of_inv (hs : Inv s) (hips : s.ips = []) (h4 : s.ipv4Future.isTerminated = true)
    (h6 : s.ipv6Future.isTerminated = true) (hlive : ¬ HasLive s) : Exhausted s := by
  have hterm : ∀ a ∈ s.attempts, a.future.isTerminated = true := by
    intro a ha
    by_contra hne
    exact hlive ⟨a, ha, by simpa using hne⟩
  refine ⟨h4, h6, by simpa [hips] using hs.perm, ?_, ?_⟩
  · intro a ha
    obtain ⟨r, hr⟩ := Option.isSome_iff_exists.mp (hterm a ha)
    cases r with
    | ok stream => exact absurd hr (hs.noStream a ha stream)
    | error e => exact ⟨e, hr⟩
  · intro id hid
    have hget := List.getElem?_eq_getElem (hs.valid id hid)
    rw [isTerminated_of_getElem? hget]
    exact hterm _ (List.mem_of_getElem? hget)

lemma Exhausted.not_hasLive (h : Exhausted s) : ¬ HasLive s := by
  rintro ⟨a, ha, hterm⟩
  obtain ⟨e, he⟩ := h.failed a ha
  simp [Fused.isTerminated, he] at hterm

/-- The state in which a poll scans its connections. -/
def resolved (s : HappyEyeballConnector S E) (i : PollInput S E) : HappyEyeballConnector S E :=
  ({ s with registered := [] } : HappyEyeballConnector S E).pollLookups i

/-- Whether a poll goes on to make a new connection. -/
def entersLoop (r : Scan S E) (i : PollInput S E) : Bool :=
  !r.hasPending || r.hasError || decide (r.conn.nextConnectionTimer ≤ i.now)

lemma poll_eq (s : HappyEyeballConnector S E) (i : PollInput S E) :
    s.poll i =
      if !(s.resolved i).isResolving && (s.resolved i).ipCount == 0 then
        (s.resolved i, .err ("Failed to resolve domain " ++ (s.resolved i).host))
      else
        match ((s.resolved i).scan i).maybeStream with
        | some stream => (((s.resolved i).scan i).conn, .ok stream)
        | none =>
          if entersLoop ((s.resolved i).scan i) i then
            connectLoop i ((s.resolved i).scan i).conn.ips ((s.resolved i).scan i).conn
          else (((s.resolved i).scan i).conn.register .timer, .pending) := by
  generalize hs : s.resolved i = t
  rw [resolved] at hs
  simp only [poll, hs]
  by_cases hzero : (!t.isResolving && t.ipCount == 0) = true
  · rw [if_pos hzero, if_pos hzero]
  · rw [if_neg hzero, if_neg hzero]
    generalize t.scan i = r
    cases r.maybeStream with
    | some stream => rfl
    | none =>
      by_cases hnow : (!r.hasPending || r.hasError) = true
      · simp [entersLoop, hnow]
      · by_cases htimer : r.conn.nextConnectionTimer ≤ i.now
        · simp [entersLoop, pollTimer, htimer]
        · simp [entersLoop, pollTimer, htimer, hnow]

/-- What the state to be scanned keeps of the state before the poll. -/
lemma resolved_spec (s : HappyEyeballConnector S E) (i : PollInput S E) :
    (s.resolved i).attempts = s.attempts ∧ (s.resolved i).connections = s.connections ∧
      (s.resolved i).nextConnectionTimer = s.nextConnectionTimer ∧
      (s.resolved i).ipv4Future = s.ipv4Future.next i.ipv4 ∧
      (s.resolved i).ipv6Future = s.ipv6Future.next i.ipv6 ∧
      (s.resolved i).ips.length = s.ips.length + (newAddrs s.ipv4Future i.ipv4).length
        + (newAddrs s.ipv6Future i.ipv6).length := by
  obtain ⟨registered, heq⟩ :=
    pollLookups_eq ({ s with registered := [] } : HappyEyeballConnector S E) i
  rw [resolved, heq]
  refine ⟨rfl, rfl, rfl, rfl, rfl, ?_⟩
  simp only [Itertools.length_interleave, List.length_map]

lemma unfinished_resolved_iff {id : ℕ} :
    Unfinished (s.resolved i) (s.resolved i).connections id ↔ Unfinished s s.connections id := by
  obtain ⟨hatt, hconn, -⟩ := resolved_spec s i
  simp only [Unfinished, isTerminated, hatt, hconn]

lemma Inv.resolved (hs : Inv s) (i : PollInput S E) : Inv (s.resolved i) :=
  (hs.registered []).pollLookups i

/-- A poll that fails to resolve the host had no address to try. -/
lemma Exhausted.of_ipCount_eq_zero (hs : Inv s) (hres : s.isResolving = false)
    (hzero : s.ipCount = 0) : Exhausted s ∧ s.attempts = [] := by
  have hret : s.returned = [] := by
    rw [← List.length_eq_zero_iff, ← hs.count, hzero]
  have hempty := hs.perm
  rw [hret, List.perm_nil, List.append_eq_nil_iff, List.map_eq_nil_iff] at hempty
  have hlookups := isResolving_eq_false_iff.mp hres
  refine ⟨.of_inv hs hempty.2 hlookups.1 hlookups.2 ?_, hempty.1⟩
  rintro ⟨a, ha, -⟩
  simp [hempty.1] at ha

/-- The loop gives up too early exactly when it gives up while an attempt is pending. -/
lemma connectLoop_exhausted_iff (hs : Inv s) :
    ((∃ m, (connectLoop i s.ips s).2 = .err m) → Exhausted (connectLoop i s.ips s).1) ↔
      ¬ ((∃ m, (connectLoop i s.ips s).2 = .err m) ∧ HasLive s) := by
  rw [not_and]
  apply forall_congr'
  rintro ⟨m, herr⟩
  obtain ⟨hips, h4, h6, hlive⟩ := connectLoop_of_err rfl herr
  have hinv := hs.connectLoop rfl (i := i) (by simp [herr])
  have hres : s.isResolving = false := (connectLoop_err_iff.mp ⟨m, herr⟩).1
  have hlookups := isResolving_eq_false_iff.mp hres
  rw [← hlive]
  constructor
  · exact Exhausted.not_hasLive
  · exact .of_inv hinv hips (by rw [h4, hlookups.1]) (by rw [h6, hlookups.2])

/-- After the scan, the loop fails exactly when both lookups are done and no address is left
that starts to connect. -/
lemma connectLoop_scan_err_iff (hmaybe : ((s.resolved i).scan i).maybeStream = none) :
    (∃ m, (connectLoop i ((s.resolved i).scan i).conn.ips
        ((s.resolved i).scan i).conn).2 = .err m) ↔
      ((s.ipv4Future.next i.ipv4).isTerminated = true ∧
        (s.ipv6Future.next i.ipv6).isTerminated = true) ∧
      ∀ k < s.ips.length + (newAddrs s.ipv4Future i.ipv4).length
          + (newAddrs s.ipv6Future i.ipv6).length,
        ∃ e, i.attempt (s.attempts.length + k) = .ready (.error e) := by
  obtain ⟨hatt, -, -, h4, h6, hlen⟩ := resolved_spec s i
  obtain ⟨attempts, registered, hframe⟩ := (scan_spec hmaybe).frame
  rw [connectLoop_err_iff, isResolving_eq_false_iff, length_attempts_scan, hatt, ← h4, ← h6,
    ← hlen, hframe]

/-- One poll gives up only when it should, unless it is premature. -/
lemma poll_exhausted_iff (hs : Inv s) (i : PollInput S E) :
    ((∃ m, (s.poll i).2 = .err m) → Exhausted (s.poll i).1) ↔ ¬ Premature s i := by
  have hinv := hs.resolved i
  rw [poll_eq]
  by_cases hzero : (!(s.resolved i).isResolving && (s.resolved i).ipCount == 0) = true
  · -- no address was returned, so there is no pending connection either
    rw [if_pos hzero]
    simp only [Bool.and_eq_true, Bool.not_eq_true', beq_iff_eq] at hzero
    obtain ⟨hexh, hnil⟩ := Exhausted.of_ipCount_eq_zero hinv hzero.1 hzero.2
    refine ⟨fun _ hprem => ?_, fun _ _ => hexh⟩
    obtain ⟨id, hid, -⟩ := hprem.pending
    have hlt := hs.valid id hid.1
    rw [← (resolved_spec s i).1, hnil] at hlt
    simp at hlt
  rw [if_neg hzero]
  cases hmaybe : ((s.resolved i).scan i).maybeStream with
  | some stream =>
    simp only [reduceCtorEq, exists_false, false_implies, true_iff]
    intro hprem
    have hnone := (scan_maybeStream_eq_none_iff (s.resolved i) i).mpr fun id hid =>
      hprem.noStream id (unfinished_resolved_iff.mp hid)
    rw [hnone] at hmaybe
    cases hmaybe
  | none =>
    have hno := (scan_maybeStream_eq_none_iff _ i).mp hmaybe
    have hpend := scan_hasPending_iff hmaybe
    have herror := scan_hasError_iff hmaybe
    simp only [unfinished_resolved_iff] at hno hpend herror
    have htimer : ((s.resolved i).scan i).conn.nextConnectionTimer = s.nextConnectionTimer := by
      obtain ⟨attempts, registered, hframe⟩ := (scan_spec hmaybe).frame
      rw [hframe]
      exact (resolved_spec s i).2.2.1
    by_cases henter : entersLoop ((s.resolved i).scan i) i = true
    · simp only [henter, if_true]
      rw [connectLoop_exhausted_iff (hinv.scan hmaybe), hinv.hasLive_scan_iff hmaybe,
        connectLoop_scan_err_iff hmaybe]
      apply not_congr
      constructor
      · rintro ⟨⟨⟨h4, h6⟩, hleft⟩, hlive⟩
        refine ⟨h4, h6, hpend.mp hlive, hno, ?_, hleft⟩
        simpa [entersLoop, hlive, herror, htimer] using henter
      · intro hprem
        exact ⟨⟨⟨hprem.ipv4, hprem.ipv6⟩, hprem.noneLeft⟩, hpend.mpr hprem.pending⟩
    · simp only [henter, if_false, reduceCtorEq, exists_false, false_implies, true_iff,
        Bool.false_eq_true]
      intro hprem
      apply henter
      have hentered := hprem.entered
      rw [← herror, ← htimer] at hentered
      simp only [entersLoop, Bool.or_eq_true, decide_eq_true_eq]
      rcases hentered with h | h
      · exact .inl (.inr h)
      · exact .inr h

/-! ### Runs -/

lemma Inv.poll (hs : Inv s) (hpend : (s.poll i).2 = .pending) : Inv (s.poll i).1 := by
  have hinv := hs.resolved i
  rw [poll_eq] at hpend ⊢
  by_cases hzero : (!(s.resolved i).isResolving && (s.resolved i).ipCount == 0) = true
  · simp [hzero] at hpend
  rw [if_neg hzero] at hpend ⊢
  cases hmaybe : ((s.resolved i).scan i).maybeStream with
  | some stream => simp [hmaybe] at hpend
  | none =>
    have hscan := hinv.scan hmaybe
    simp only [hmaybe] at hpend ⊢
    split_ifs at hpend ⊢ with henter
    · exact hscan.connectLoop rfl (by simp [hpend])
    · exact hscan.registered _

/-- What holds at the start, and is kept by every poll that is pending, holds before each poll of
a run. -/
lemma forall_mem_polls {P : HappyEyeballConnector S E → Prop}
    (hkeep : ∀ s i, P s → (s.poll i).2 = .pending → P (s.poll i).1)
    {inputs : List (PollInput S E)} (hs : P s) :
    ∀ step ∈ polls s inputs, P step.before ∧ step.after = (step.before.poll step.input).1 ∧
      step.result = (step.before.poll step.input).2 := by
  induction inputs generalizing s with
  | nil => simp [polls]
  | cons i inputs ih =>
    intro step hstep
    rw [polls, List.mem_cons] at hstep
    rcases hstep with rfl | hstep
    · exact ⟨hs, rfl, rfl⟩
    · cases hpend : (s.poll i).2 with
      | pending =>
        rw [hpend] at hstep
        exact ih (hkeep s i hs hpend) step hstep
      | ok stream | err m | panic => simp [hpend] at hstep

/-- In every run, the polls all give up only when every address has been tried in vain if and
only if no poll of the run is premature. -/
theorem giveUp_iff_not_premature (host : String) (port : UInt16) (now : ℕ)
    (inputs : List (PollInput S E)) :
    (∀ step ∈ polls (new host port now) inputs,
        (∃ m, step.result = .err m) → Exhausted step.after) ↔
      ∀ step ∈ polls (new host port now) inputs, ¬ Premature step.before step.input := by
  apply forall₂_congr
  intro step hstep
  obtain ⟨hinv, hafter, hresult⟩ :=
    forall_mem_polls (fun s i => Inv.poll) (.new host port now) step hstep
  rw [hafter, hresult]
  exact poll_exhausted_iff hinv step.input

/-- The IPv4 lookup returns one address whose attempt takes longer than the timer. -/
def slowAttempt (now : ℕ) : PollInput Unit Unit where
  now := now
  ipv4 := .ready (.ok [⟨10, 0, 0, 1⟩])
  ipv6 := .ready (.error ())
  attempt := fun _ => .pending

/-- The second poll of this run gives up on the only address while its attempt is pending. -/
theorem not_giveUp_only_exhausted :
    ¬ ∀ (host : String) (port : UInt16) (now : ℕ) (inputs : List (PollInput Unit Unit)),
      ∀ step ∈ polls (new host port now) inputs,
        (∃ m, step.result = .err m) → Exhausted step.after := by
  intro h
  have hexh := h "example.com" 80 0 [slowAttempt 0, slowAttempt 250]
    ⟨_, slowAttempt 250, _, .err "Failed to connect to domain example.com"⟩
    (List.mem_cons_of_mem _ List.mem_cons_self) ⟨_, rfl⟩
  obtain ⟨e, he⟩ := hexh.failed ⟨.v4 ⟨10, 0, 0, 1⟩, .running⟩ List.mem_cons_self
  cases he

end Dandelion.Connector.HappyEyeballConnector
