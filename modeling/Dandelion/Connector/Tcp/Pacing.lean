import Dandelion.Connector.Tcp.GiveUp

/-!
# The pace of the Happy Eyeballs connector

As long as an attempt is under way and none fails, the next one is started a fixed time after the
last one: not earlier, and not later either as long as there are addresses.
-/

namespace Dandelion.Connector.HappyEyeballConnector

open Net

variable {S E : Type*} {s : HappyEyeballConnector S E} {i : PollInput S E}

/-! ### The scan -/

/-- The connections and the timer are the same. -/
structure SameTimer (s t : HappyEyeballConnector S E) : Prop where
  connections : t.connections = s.connections
  timer : t.nextConnectionTimer = s.nextConnectionTimer

lemma sameTimer_resolved (s : HappyEyeballConnector S E) (i : PollInput S E) :
    SameTimer s (s.resolved i) := by
  obtain ⟨-, hconnections, htimer, -⟩ := resolved_spec s i
  exact ⟨hconnections, htimer⟩

lemma sameTimer_scanStep (acc : Scan S E) (id : ℕ) :
    SameTimer acc.conn (scanStep i acc id).conn := by
  rw [scanStep]
  split_ifs
  · exact ⟨rfl, rfl⟩
  · exact ⟨rfl, rfl⟩
  · split
    · exact ⟨rfl, rfl⟩
    · exact ⟨rfl, rfl⟩
    · exact ⟨rfl, rfl⟩

lemma SameTimer.trans {t u : HappyEyeballConnector S E} (h : SameTimer s t) (h' : SameTimer t u) :
    SameTimer s u :=
  ⟨h'.connections.trans h.connections, h'.timer.trans h.timer⟩

lemma sameTimer_scan (s : HappyEyeballConnector S E) (i : PollInput S E) :
    SameTimer s (s.scan i).conn := by
  have hfoldl : ∀ (ids : List ℕ) (acc : Scan S E),
      SameTimer acc.conn (ids.foldl (scanStep i) acc).conn := by
    intro ids
    induction ids with
    | nil => exact fun acc => ⟨rfl, rfl⟩
    | cons id ids ih => exact fun acc => (sameTimer_scanStep acc id).trans (ih _)
  exact hfoldl s.connections ⟨s, false, false, none⟩

/-! ### The loop -/

/-- The loop has started an attempt that is under way, and the timer with it. -/
structure Started (i : PollInput S E) (s t : HappyEyeballConnector S E) : Prop where
  connections : ∃ id, t.connections = s.connections ++ [id]
  timer : t.nextConnectionTimer = i.now + connectionAttemptDelay
  live : HasLive t

lemma connectLoop_cases {l : List IpAddr} (hl : s.ips = l) :
    (SameTimer s (connectLoop i l s).1 ∧
      ((connectLoop i l s).2 = .pending → (connectLoop i l s).1.ips = []) ∧
      (connectLoop i l s).2 ≠ .panic) ∨
    (connectLoop i l s).2 = .pending ∧ Started i s (connectLoop i l s).1 := by
  induction l generalizing s with
  | nil =>
    left
    rw [connectLoop]
    split_ifs
    · exact ⟨⟨rfl, rfl⟩, fun _ => hl, by simp⟩
    · exact ⟨⟨rfl, rfl⟩, by simp, by simp⟩
  | cons addr ips ih =>
    rw [connectLoop_cons]
    rcases hans : i.attempt s.attempts.length with (e | stream) | _
    · rcases ih (s := s.connectNext i addr ips) rfl with ⟨hsame, hrest⟩ | ⟨hpend, hstarted⟩
      · exact .inl ⟨⟨hsame.connections, hsame.timer⟩, hrest⟩
      · exact .inr ⟨hpend, hstarted.connections, hstarted.timer, hstarted.live⟩
    · exact .inl ⟨⟨rfl, rfl⟩, by simp, by simp⟩
    · simp only [startTimer_eq]
      refine .inr ⟨trivial, ⟨_, rfl⟩, rfl, ?_⟩
      refine ⟨⟨addr, Fused.running.poll (i.attempt s.attempts.length)⟩, ?_, ?_⟩
      · exact List.mem_append_right _ (List.mem_singleton_self _)
      · rw [hans]
        rfl

/-! ### One poll -/

/-- An attempt may be started: none is under way, one has failed, or the timer has run out. -/
def MayStart (s : HappyEyeballConnector S E) (i : PollInput S E) : Prop :=
  (∀ id, Unfinished s s.connections id → i.attempt id ≠ .pending) ∨
  (∃ id, Unfinished s s.connections id ∧ ∃ e, i.attempt id = .ready (.error e)) ∨
  s.nextConnectionTimer ≤ i.now

lemma mayStart_of_entersLoop (hmaybe : ((s.resolved i).scan i).maybeStream = none)
    (henter : entersLoop ((s.resolved i).scan i) i = true) : MayStart s i := by
  have hpend := scan_hasPending_iff hmaybe
  have herror := scan_hasError_iff hmaybe
  have hscan := (sameTimer_resolved s i).trans (sameTimer_scan (s.resolved i) i)
  simp only [unfinished_resolved_iff] at hpend herror
  simp only [entersLoop, Bool.or_eq_true, Bool.not_eq_true', decide_eq_true_eq] at henter
  rcases henter with (hnone | hfailed) | htimer
  · left
    intro id hid hanswer
    have hyes := hpend.mpr ⟨id, hid, hanswer⟩
    rw [hnone] at hyes
    cases hyes
  · exact .inr (.inl (herror.mp hfailed))
  · rw [hscan.timer] at htimer
    exact .inr (.inr htimer)

/-- No poll makes an attempt before its time, also not one that fails at once. -/
lemma mayStart_of_attempts (i : PollInput S E)
    (h : s.attempts.length < (s.poll i).1.attempts.length) : MayStart s i := by
  have hresolved : (s.resolved i).attempts.length = s.attempts.length :=
    congrArg List.length (resolved_spec s i).1
  have hscan := (length_attempts_scan (s.resolved i) i).trans hresolved
  rw [poll_eq] at h
  by_cases hzero : (!(s.resolved i).isResolving && (s.resolved i).ipCount == 0) = true
  · rw [if_pos hzero] at h
    exact absurd hresolved (Nat.ne_of_gt h)
  rw [if_neg hzero] at h
  cases hmaybe : ((s.resolved i).scan i).maybeStream with
  | some stream =>
    simp only [hmaybe] at h
    exact absurd hscan (Nat.ne_of_gt h)
  | none =>
    simp only [hmaybe] at h
    by_cases henter : entersLoop ((s.resolved i).scan i) i = true
    · exact mayStart_of_entersLoop hmaybe henter
    · rw [if_neg henter] at h
      exact absurd hscan (Nat.ne_of_gt h)

/-- A poll that does not get to the loop waits for the timer, with an attempt under way. -/
lemma of_not_entersLoop (hs : Inv s) (hmaybe : ((s.resolved i).scan i).maybeStream = none)
    (henter : ¬entersLoop ((s.resolved i).scan i) i = true) :
    i.now < s.nextConnectionTimer ∧ s.connections ≠ [] ∧ HasLive ((s.resolved i).scan i).conn := by
  have hpend := scan_hasPending_iff hmaybe
  have hscan := (sameTimer_resolved s i).trans (sameTimer_scan (s.resolved i) i)
  simp only [unfinished_resolved_iff] at hpend
  simp only [entersLoop, Bool.or_eq_true, Bool.not_eq_true', decide_eq_true_eq, not_or,
    Bool.not_eq_false, Nat.not_le] at henter
  obtain ⟨⟨hpending, -⟩, htimer⟩ := henter
  refine ⟨?_, ?_, ((hs.resolved i).hasLive_scan_iff hmaybe).mpr hpending⟩
  · rwa [hscan.timer] at htimer
  · obtain ⟨id, ⟨hmem, -⟩, -⟩ := hpend.mp hpending
    exact List.ne_nil_of_mem hmem

/-- A poll either leaves connections and timer alone, and then waits for the timer if there are
addresses left, or starts one attempt. -/
lemma poll_cases (hs : Inv s) (i : PollInput S E) :
    (SameTimer s (s.poll i).1 ∧ (s.poll i).2 ≠ .panic ∧
      ((s.poll i).2 = .pending → (s.poll i).1.ips ≠ [] →
        i.now < s.nextConnectionTimer ∧ s.connections ≠ [] ∧ HasLive (s.poll i).1)) ∨
    (s.poll i).2 = .pending ∧ Started i s (s.poll i).1 := by
  have hresolved := sameTimer_resolved s i
  have hscan := hresolved.trans (sameTimer_scan (s.resolved i) i)
  rw [poll_eq]
  by_cases hzero : (!(s.resolved i).isResolving && (s.resolved i).ipCount == 0) = true
  · rw [if_pos hzero]
    exact .inl ⟨hresolved, nofun, nofun⟩
  rw [if_neg hzero]
  cases hmaybe : ((s.resolved i).scan i).maybeStream with
  | some stream => exact .inl ⟨hscan, nofun, nofun⟩
  | none =>
    simp only
    by_cases henter : entersLoop ((s.resolved i).scan i) i = true
    · rw [if_pos henter]
      rcases connectLoop_cases (i := i) (s := ((s.resolved i).scan i).conn) rfl with
        ⟨hsame, hips, hpanic⟩ | ⟨hloop, hstarted⟩
      · exact .inl ⟨hscan.trans hsame, hpanic, fun hpending hne => absurd (hips hpending) hne⟩
      · refine .inr ⟨hloop, ?_, hstarted.timer, hstarted.live⟩
        rw [← hscan.connections]
        exact hstarted.connections
    · rw [if_neg henter]
      exact .inl ⟨⟨hscan.connections, hscan.timer⟩, nofun,
        fun _ _ => of_not_entersLoop hs hmaybe henter⟩

/-! ### Runs -/

/-- Whether a poll has started an attempt that is under way. -/
def Step.starts (step : Step S E) : Bool :=
  step.before.connections.length < step.after.connections.length

/-- When the last attempt was started, if it was not one of these polls then at the given time. -/
def lastStart (time : Option ℕ) (steps : List (Step S E)) : Option ℕ :=
  steps.foldl (fun time step => if step.starts then some step.input.now else time) time

/-- The timer runs out when the delay has passed since the last attempt was started. -/
def Timed (s : HappyEyeballConnector S E) : Option ℕ → Prop
  | none      => s.connections = []
  | some time => s.nextConnectionTimer = time + connectionAttemptDelay

/-- What is known of a poll when the last attempt before it was started at the given time. -/
structure Paced (time : Option ℕ) (step : Step S E) : Prop where
  noPanic : step.result ≠ .panic
  /-- Only one attempt is left under way. -/
  oneStart : step.starts = true → ∃ id, step.after.connections = step.before.connections ++ [id]
  /-- No attempt is made before its time, also not one that completes at once. -/
  notEarly : step.before.attempts.length < step.after.attempts.length →
    ∀ t, time = some t → t + connectionAttemptDelay ≤ step.input.now ∨
      (∀ id, Unfinished step.before step.before.connections id → step.input.attempt id ≠ .pending) ∨
      ∃ id, Unfinished step.before step.before.connections id ∧
        ∃ e, step.input.attempt id = .ready (.error e)
  /-- As long as there are addresses left, the time for the next attempt has not come, and the last
  one is under way. -/
  notLate : step.result = .pending → step.after.ips ≠ [] → HasLive step.after ∧
    ∃ t, lastStart time [step] = some t ∧ step.input.now < t + connectionAttemptDelay

lemma SameTimer.not_starts {step : Step S E} (h : SameTimer step.before step.after) :
    step.starts = false := by
  simp [Step.starts, h.connections]

lemma Started.starts {step : Step S E} (h : Started step.input step.before step.after) :
    step.starts = true := by
  obtain ⟨id, hid⟩ := h.connections
  simp [Step.starts, hid]

lemma paced_poll (hs : Inv s) {time : Option ℕ} (htime : Timed s time) (i : PollInput S E) :
    Paced time ⟨s, i, (s.poll i).1, (s.poll i).2⟩ ∧
    Timed (s.poll i).1 (lastStart time [⟨s, i, (s.poll i).1, (s.poll i).2⟩]) := by
  have hearly : s.attempts.length < (s.poll i).1.attempts.length →
      ∀ t, time = some t → t + connectionAttemptDelay ≤ i.now ∨
        (∀ id, Unfinished s s.connections id → i.attempt id ≠ .pending) ∨
        ∃ id, Unfinished s s.connections id ∧ ∃ e, i.attempt id = .ready (.error e) := by
    rintro hlt t rfl
    rcases mayStart_of_attempts i hlt with hnone | hfailed | htimer
    · exact .inr (.inl hnone)
    · exact .inr (.inr hfailed)
    · rw [show s.nextConnectionTimer = t + connectionAttemptDelay from htime] at htimer
      exact .inl htimer
  rcases poll_cases hs i with ⟨hsame, hpanic, hwait⟩ | ⟨hpend, hstarted⟩
  · have hstarts : Step.starts ⟨s, i, (s.poll i).1, (s.poll i).2⟩ = false := hsame.not_starts
    have hlast : lastStart time [⟨s, i, (s.poll i).1, (s.poll i).2⟩] = time := by
      simp [lastStart, hstarts]
    rw [hlast]
    refine ⟨⟨hpanic, ?_, hearly, ?_⟩, ?_⟩
    · intro h
      rw [hstarts] at h
      cases h
    · intro hpend hips
      obtain ⟨hnow, hne, hlive⟩ := hwait hpend hips
      refine ⟨hlive, ?_⟩
      rw [hlast]
      cases time with
      | none => exact absurd htime hne
      | some t => exact ⟨t, rfl, htime ▸ hnow⟩
    · cases time with
      | none => exact hsame.connections.trans htime
      | some t => exact hsame.timer.trans htime
  · have hstarts : Step.starts ⟨s, i, (s.poll i).1, (s.poll i).2⟩ = true := hstarted.starts
    have hlast : lastStart time [⟨s, i, (s.poll i).1, (s.poll i).2⟩] = some i.now := by
      simp [lastStart, hstarts]
    rw [hlast]
    refine ⟨⟨by simp [hpend], fun _ => hstarted.connections, hearly, ?_⟩, hstarted.timer⟩
    · intro _ _
      refine ⟨hstarted.live, i.now, hlast, ?_⟩
      simp [connectionAttemptDelay]

lemma paced_polls {inputs : List (PollInput S E)} (hs : Inv s) {time : Option ℕ}
    (htime : Timed s time) {before after : List (Step S E)} {step : Step S E}
    (h : polls s inputs = before ++ step :: after) : Paced (lastStart time before) step := by
  induction inputs generalizing s time before with
  | nil => simp [polls] at h
  | cons i inputs ih =>
    obtain ⟨hpaced, hnext⟩ := paced_poll hs htime i
    rw [polls] at h
    cases before with
    | nil =>
      cases h
      exact hpaced
    | cons first before =>
      simp only [List.cons_append, List.cons.injEq] at h
      obtain ⟨rfl, hrest⟩ := h
      cases hpend : (s.poll i).2 with
      | pending =>
        rw [hpend] at hrest hnext
        exact ih (hs.poll hpend) hnext hrest
      | ok stream | err m | panic => simp [hpend] at hrest

/-- In every run, after an attempt was started, no other one is made before the delay has passed,
unless none is under way any more or one has failed; and as long as there are addresses left, every
poll after the delay starts one. The assertion that the timer is pending never fails. -/
theorem attempts_paced (host : String) (port : UInt16) (now : ℕ) (inputs : List (PollInput S E))
    {before after : List (Step S E)} {step : Step S E}
    (h : polls (new host port now) inputs = before ++ step :: after) :
    Paced (lastStart none before) step := by
  have htime : Timed (new host port now : HappyEyeballConnector S E) none := rfl
  exact paced_polls (.new host port now) htime h

/-- Two addresses whose attempts do not complete. -/
def silentAddrs (now : ℕ) : PollInput Unit Unit where
  now := now
  ipv4 := .ready (.ok [⟨10, 0, 0, 1⟩, ⟨10, 0, 0, 2⟩])
  ipv6 := .ready (.error ())
  attempt := fun _ => .pending

/-- The second address is tried as soon as the delay has passed. -/
theorem attempts_paced_silentAddrs :
    ∃ first second : Step Unit Unit,
      polls (new "example.com" 80 0) [silentAddrs 0, silentAddrs 250] = [first, second] ∧
      second.starts = true ∧ lastStart none [first] = some 0 ∧
      Paced (lastStart none [first]) second := by
  refine ⟨_, _, rfl, rfl, rfl, ?_⟩
  exact attempts_paced "example.com" 80 0 [silentAddrs 0, silentAddrs 250]
    (rfl : _ = [_] ++ _ :: [])

end Dandelion.Connector.HappyEyeballConnector
