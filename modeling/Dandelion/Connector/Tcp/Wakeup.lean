import Dandelion.Connector.Tcp.GiveUp

/-!
# Wake-ups of the Happy Eyeballs connector

A poll that is pending must be woken up again. Whatever way it takes, it has polled everything it
waits for.
-/

namespace Dandelion.Connector.HappyEyeballConnector

open Net

variable {S E : Type*} {s t : HappyEyeballConnector S E} {i : PollInput S E}

/-- Everything that is under way will wake the connector up, and something is. -/
structure Awaited (s : HappyEyeballConnector S E) : Prop where
  ipv4 : s.ipv4Future.isTerminated = false → .ipv4Future ∈ s.registered
  ipv6 : s.ipv6Future.isTerminated = false → .ipv6Future ∈ s.registered
  connections : ∀ id ∈ s.connections, s.isTerminated id = false → .connection id ∈ s.registered
  timer : s.ips ≠ [] → .timer ∈ s.registered
  something : (s.ipv4Future.isTerminated = false ∧ .ipv4Future ∈ s.registered) ∨
    (s.ipv6Future.isTerminated = false ∧ .ipv6Future ∈ s.registered) ∨
    ∃ id ∈ s.connections, s.isTerminated id = false ∧ .connection id ∈ s.registered

/-! ### Lookups -/

lemma registered_pollLookup {A : Type} (set : Fused (Except E (List A)) → HappyEyeballConnector S E)
    {registered : List Source} (hset : ∀ f, (set f).registered = registered) (toAddr : A → IpAddr)
    (source : Source) (future : Fused (Except E (List A))) (answer : Poll (Except E (List A))) :
    registered ⊆ (pollLookup set toAddr source future answer).registered ∧
    ((future.next answer).isTerminated = false →
      source ∈ (pollLookup set toAddr source future answer).registered) := by
  rw [pollLookup]
  split_ifs with hterm
  · rw [hset, Fused.next_of_isTerminated hterm, hterm]
    exact ⟨List.Subset.refl _, by simp⟩
  · cases answer with
    | pending =>
      rw [← hset (future.poll .pending)]
      exact ⟨List.subset_cons_self .., fun _ => List.mem_cons_self⟩
    | ready result =>
      rw [Fused.isTerminated_next_ready]
      cases result with
      | ok addrs => exact ⟨by simp [addAddrs, hset], by simp⟩
      | error e => exact ⟨by simp [hset], by simp⟩

/-- Every lookup that is under way. -/
def LookupsAwaited (s : HappyEyeballConnector S E) : Prop :=
  (s.ipv4Future.isTerminated = false → .ipv4Future ∈ s.registered) ∧
  (s.ipv6Future.isTerminated = false → .ipv6Future ∈ s.registered)

lemma LookupsAwaited.mono (hs : LookupsAwaited s) (h4 : t.ipv4Future = s.ipv4Future)
    (h6 : t.ipv6Future = s.ipv6Future) (hsub : s.registered ⊆ t.registered) :
    LookupsAwaited t := by
  rw [LookupsAwaited, h4, h6]
  exact ⟨fun h => hsub (hs.1 h), fun h => hsub (hs.2 h)⟩

lemma lookupsAwaited_resolved (s : HappyEyeballConnector S E) (i : PollInput S E) :
    LookupsAwaited (s.resolved i) := by
  set cleared : HappyEyeballConnector S E := { s with registered := [] }
  obtain ⟨-, h4⟩ := registered_pollLookup (fun f => { cleared with ipv4Future := f })
    (fun _ => rfl) .v4 .ipv4Future s.ipv4Future i.ipv4
  obtain ⟨hsub, h6⟩ := registered_pollLookup
    (fun f => { cleared.pollIpv4 i with ipv6Future := f }) (fun _ => rfl) .v6 .ipv6Future
    (cleared.pollIpv4 i).ipv6Future i.ipv6
  obtain ⟨registered, heq⟩ := pollLookup_eq (fun f => { cleared with ipv4Future := f }) .v4
    .ipv4Future s.ipv4Future i.ipv4
  have hkeep : (cleared.pollIpv4 i).ipv6Future = s.ipv6Future := by
    rw [pollIpv4, heq]
  obtain ⟨-, -, -, hnext4, hnext6, -⟩ := resolved_spec s i
  rw [LookupsAwaited, hnext4, hnext6, ← hkeep]
  exact ⟨fun h => hsub (h4 h), h6⟩

/-! ### Ongoing connections -/

lemma registered_scanStep (acc : Scan S E) (id : ℕ) :
    acc.conn.registered ⊆ (scanStep i acc id).conn.registered := by
  rw [scanStep]
  split_ifs
  · exact List.Subset.refl _
  · exact List.Subset.refl _
  · split
    · exact List.Subset.refl _
    · exact List.Subset.refl _
    · exact List.subset_cons_self ..

lemma registered_foldl_scanStep (ids : List ℕ) (acc : Scan S E) :
    acc.conn.registered ⊆ (ids.foldl (scanStep i) acc).conn.registered := by
  induction ids generalizing acc with
  | nil => exact List.Subset.refl _
  | cons id ids ih => exact List.Subset.trans (registered_scanStep acc id) (ih _)

/-- A scan that finds no stream registers every connection that is pending. -/
lemma connection_mem_foldl_scanStep {ids : List ℕ} {acc : Scan S E} (hacc : acc.maybeStream = none)
    (hnone : (ids.foldl (scanStep i) acc).maybeStream = none) {id : ℕ}
    (hid : Unfinished acc.conn ids id) (hans : i.attempt id = .pending) :
    .connection id ∈ (ids.foldl (scanStep i) acc).conn.registered := by
  induction ids generalizing acc with
  | nil => simp [Unfinished] at hid
  | cons x ids ih =>
    rw [List.foldl_cons] at hnone ⊢
    by_cases hx : id = x
    · subst hx
      apply registered_foldl_scanStep
      simp [scanStep, hacc, hid.2, hans, register]
    · rcases scanStep_cases i hacc x with ⟨hsome, -, -⟩ | ⟨hmid, hspec, -⟩
      · rw [foldl_scanStep_of_isSome hsome] at hnone
        rw [hnone] at hsome
        cases hsome
      · refine ih hmid hnone ⟨(List.mem_cons.mp hid.1).resolve_left hx, ?_⟩
        rw [hspec.isTerminated_eq (by simpa using hx), hid.2]

/-- Every connection that is still under way after the scan is registered. -/
lemma connection_mem_scan (hs : Inv s) (hmaybe : (s.scan i).maybeStream = none) {id : ℕ}
    (hid : id ∈ s.connections) (hterm : (s.scan i).conn.isTerminated id = false) :
    .connection id ∈ (s.scan i).conn.registered := by
  have hspec := scan_spec hmaybe
  have hold : s.isTerminated id = false := hspec.isTerminated_mono hterm
  apply connection_mem_foldl_scanStep rfl hmaybe ⟨hid, hold⟩
  cases hans : i.attempt id with
  | pending => rfl
  | ready r =>
    have hget := List.getElem?_eq_getElem (hs.valid id hid)
    have hpolled := hspec.attempts id
    rw [hget, Option.map_some, if_pos hid] at hpolled
    rw [isTerminated_of_getElem? hpolled] at hterm
    simp [pollOnce, hans] at hterm

/-! ### The loop -/

/-- What a loop that ends pending leaves behind. -/
structure LoopAwaited (s t : HappyEyeballConnector S E) : Prop where
  ipv4Future : t.ipv4Future = s.ipv4Future
  ipv6Future : t.ipv6Future = s.ipv6Future
  registered : s.registered ⊆ t.registered
  connections : ∀ id ∈ t.connections, id ∈ s.connections ∨ .connection id ∈ t.registered
  attempts : ∀ id < s.attempts.length, t.isTerminated id = s.isTerminated id
  timer : t.ips ≠ [] → .timer ∈ t.registered
  something : t.isResolving = true ∨
    ∃ id ∈ t.connections, t.isTerminated id = false ∧ .connection id ∈ t.registered

lemma isTerminated_connectNext {addr : IpAddr} {ips : List IpAddr} {id : ℕ}
    (hid : id < s.attempts.length) :
    (s.connectNext i addr ips).isTerminated id = s.isTerminated id := by
  unfold isTerminated connectNext
  rw [List.getElem?_append_left hid]

lemma connectLoop_awaited {l : List IpAddr} (hl : s.ips = l)
    (hpend : (connectLoop i l s).2 = .pending) : LoopAwaited s (connectLoop i l s).1 := by
  induction l generalizing s with
  | nil =>
    rw [connectLoop] at hpend ⊢
    split_ifs at hpend ⊢ with hres
    exact ⟨rfl, rfl, List.Subset.refl _, fun _ h => .inl h, fun _ _ => rfl,
      fun h => absurd hl h, .inl hres⟩
  | cons addr ips ih =>
    rw [connectLoop_cons] at hpend ⊢
    cases hans : i.attempt s.attempts.length with
    | ready answer =>
      cases answer with
      | ok stream => simp [hans] at hpend
      | error e =>
        simp only [hans] at hpend ⊢
        have hrest := ih (s := s.connectNext i addr ips) rfl hpend
        refine ⟨hrest.ipv4Future, hrest.ipv6Future, hrest.registered, hrest.connections, ?_,
          hrest.timer, hrest.something⟩
        intro id hid
        have hlt : id < (s.connectNext i addr ips).attempts.length := by
          simp only [connectNext, List.length_append]
          omega
        rw [hrest.attempts id hlt, isTerminated_connectNext hid]
    | pending =>
      simp only [startTimer_eq]
      have hnew : (s.connectNext i addr ips).isTerminated s.attempts.length = false := by
        simp [isTerminated, connectNext, hans, Fused.running, Fused.isTerminated]
      refine ⟨rfl, rfl, ?_, ?_, ?_, fun _ => List.mem_cons_self, .inr ?_⟩
      · intro source hsource
        exact List.mem_cons_of_mem _ (List.mem_cons_of_mem _ hsource)
      · intro id hid
        rcases List.mem_append.mp hid with hold | hid
        · exact .inl hold
        · rw [List.mem_singleton.mp hid]
          exact .inr (List.mem_cons_of_mem _ List.mem_cons_self)
      · intro id hid
        change (s.connectNext i addr ips).isTerminated id = _
        exact isTerminated_connectNext hid
      · exact ⟨s.attempts.length, List.mem_append_right _ (List.mem_singleton_self _), hnew,
          List.mem_cons_of_mem _ List.mem_cons_self⟩

/-! ### One poll and runs -/

lemma exists_lookup_of_isResolving (hs : LookupsAwaited s) (h : s.isResolving = true) :
    (s.ipv4Future.isTerminated = false ∧ .ipv4Future ∈ s.registered) ∨
    (s.ipv6Future.isTerminated = false ∧ .ipv6Future ∈ s.registered) := by
  cases h4 : s.ipv4Future.isTerminated with
  | false => exact .inl ⟨rfl, hs.1 h4⟩
  | true =>
    cases h6 : s.ipv6Future.isTerminated with
    | false => exact .inr ⟨rfl, hs.2 h6⟩
    | true => simp [isResolving, h4, h6] at h

/-- The scan of a poll that finds no stream keeps the lookups awaited. -/
lemma lookupsAwaited_scan (hs : LookupsAwaited s) (hmaybe : (s.scan i).maybeStream = none) :
    LookupsAwaited (s.scan i).conn := by
  obtain ⟨attempts, registered, hframe⟩ := (scan_spec hmaybe).frame
  exact hs.mono (by rw [hframe]) (by rw [hframe])
    (registered_foldl_scanStep (i := i) s.connections ⟨s, false, false, none⟩)

lemma connections_scan (hmaybe : (s.scan i).maybeStream = none) :
    (s.scan i).conn.connections = s.connections := by
  obtain ⟨attempts, registered, hframe⟩ := (scan_spec hmaybe).frame
  rw [hframe]

/-- A poll that has entered the loop. -/
lemma awaited_connectLoop (hs : Inv s) (hlookups : LookupsAwaited s)
    (hmaybe : (s.scan i).maybeStream = none)
    (hpend : (connectLoop i (s.scan i).conn.ips (s.scan i).conn).2 = .pending) :
    Awaited (connectLoop i (s.scan i).conn.ips (s.scan i).conn).1 := by
  have hloop := connectLoop_awaited rfl hpend
  have hafter := (lookupsAwaited_scan hlookups hmaybe).mono hloop.ipv4Future hloop.ipv6Future
    hloop.registered
  refine ⟨hafter.1, hafter.2, ?_, hloop.timer, ?_⟩
  · intro id hid hterm
    rcases hloop.connections id hid with hold | hnew
    · apply hloop.registered
      rw [hloop.attempts id ((hs.scan hmaybe).valid id hold)] at hterm
      rw [connections_scan hmaybe] at hold
      exact connection_mem_scan hs hmaybe hold hterm
    · exact hnew
  · rcases hloop.something with hres | hnew
    · rcases exists_lookup_of_isResolving hafter hres with h4 | h6
      · exact .inl h4
      · exact .inr (.inl h6)
    · exact .inr (.inr hnew)

/-- A poll that waits for the timer, which it does only while a connection is pending. -/
lemma awaited_register_timer (hs : Inv s) (hlookups : LookupsAwaited s)
    (hmaybe : (s.scan i).maybeStream = none) (hpending : (s.scan i).hasPending = true) :
    Awaited ((s.scan i).conn.register .timer) := by
  have hregister : ∀ source ∈ (s.scan i).conn.registered,
      source ∈ ((s.scan i).conn.register .timer).registered :=
    fun source h => List.mem_cons_of_mem _ h
  have hscan := lookupsAwaited_scan hlookups hmaybe
  have hconnections : ∀ id ∈ (s.scan i).conn.connections,
      (s.scan i).conn.isTerminated id = false →
      .connection id ∈ ((s.scan i).conn.register .timer).registered := by
    intro id hid hterm
    rw [connections_scan hmaybe] at hid
    exact hregister _ (connection_mem_scan hs hmaybe hid hterm)
  refine ⟨fun h => hregister _ (hscan.1 h), fun h => hregister _ (hscan.2 h), hconnections,
    fun _ => List.mem_cons_self, .inr (.inr ?_)⟩
  obtain ⟨a, ha, hterm⟩ := (hs.hasLive_scan_iff hmaybe).mpr hpending
  obtain ⟨id, hid⟩ := List.mem_iff_getElem?.mp ha
  have hmem := (hs.scan hmaybe).live id a hid hterm
  have hlive : (s.scan i).conn.isTerminated id = false := by
    rw [isTerminated_of_getElem? hid, hterm]
  exact ⟨id, hmem, hlive, hconnections id hmem hlive⟩

lemma awaited_poll (hs : Inv s) (hpend : (s.poll i).2 = .pending) : Awaited (s.poll i).1 := by
  have hinv := hs.resolved i
  have hlookups := lookupsAwaited_resolved s i
  rw [poll_eq] at hpend ⊢
  by_cases hzero : (!(s.resolved i).isResolving && (s.resolved i).ipCount == 0) = true
  · simp [hzero] at hpend
  rw [if_neg hzero] at hpend ⊢
  cases hmaybe : ((s.resolved i).scan i).maybeStream with
  | some stream => simp [hmaybe] at hpend
  | none =>
    simp only [hmaybe] at hpend ⊢
    split_ifs at hpend ⊢ with henter
    · exact awaited_connectLoop hinv hlookups hmaybe hpend
    · apply awaited_register_timer hinv hlookups hmaybe
      simp only [entersLoop, Bool.or_eq_true, not_or] at henter
      simpa using henter.1.1

/-- In every run, a poll that is pending has polled every unfinished lookup and attempt, at least
one of them, and the timer if there are addresses left. -/
theorem pending_awaited (host : String) (port : UInt16) (now : ℕ)
    (inputs : List (PollInput S E)) :
    ∀ step ∈ polls (new host port now) inputs, step.result = .pending → Awaited step.after := by
  intro step hstep hpend
  obtain ⟨hinv, hafter, hresult⟩ :=
    forall_mem_polls (fun s i => Inv.poll) (.new host port now) step hstep
  rw [hresult] at hpend
  rw [hafter]
  exact awaited_poll hinv hpend

/-- The only attempt is pending, and no address is left. -/
theorem slowAttempt_awaited :
    ∃ step ∈ polls (new "example.com" 80 0) [slowAttempt 0],
      step.result = .pending ∧ Awaited step.after :=
  ⟨_, List.mem_cons_self, rfl,
    pending_awaited "example.com" 80 0 [slowAttempt 0] _ List.mem_cons_self rfl⟩

end Dandelion.Connector.HappyEyeballConnector
