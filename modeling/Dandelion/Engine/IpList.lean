import Dandelion.Endpoint

/-!
# IP lists of a script

A script builds a list of networks from their texts and asks whether the host of a request, or what
a resolver has returned for it, is in one of them. Everything passes through texts.
-/

namespace Dandelion.Engine

open Net

/-- A value of the script, as far as a list of texts is concerned. -/
inductive Value where
  | string (s : String)
  | other
deriving DecidableEq

/-- The texts that a lookup gives to the script. -/
def lookup (addrs : Except String (List IpAddr)) : Except String (List Value) :=
  addrs.map fun addrs => addrs.map fun addr => .string (String.ofList addr.display)

/-- A list of networks. -/
structure IpNetworkSet (N : Type) where
  networks : List N

namespace IpNetworkSet

variable {N : Type} (parse : String → Except String N) (contains : N → IpAddr → Bool)
  (typeError : String)

/-- The text of a value. -/
def fromValue : Value → Except String String
  | .string s => .ok s
  | .other    => .error typeError

/-- Add the network of a text. -/
def pushNetwork (networks : List N) (ip : Value) : Except String (List N) := do
  let network ← parse (← fromValue typeError ip)
  return networks ++ [network]

def newIplist (ips : List Value) : Except String (IpNetworkSet N) := do
  let networks ← ips.foldlM (pushNetwork parse typeError) []
  return ⟨networks⟩

def containsImpl (set : IpNetworkSet N) (ip : String) : Except String Bool :=
  match IpAddr.parse ip with
  | none    => .error "invalid IP address syntax"
  | some ip => .ok (set.networks.any fun network => contains network ip)

/-- The first text that decides. -/
def containsAny (set : IpNetworkSet N) : List Value → Except String Bool
  | []        => .ok false
  | ip :: ips => do
    if ← set.containsImpl contains (← fromValue typeError ip) then return true
    set.containsAny ips

/-! ### Lists that are built -/

variable {parse contains typeError}

/-- The texts of a list and its networks, in the same order. -/
inductive Parsed (parse : String → Except String N) : List Value → List N → Prop
  | nil : Parsed parse [] []
  | cons {s : String} {network : N} {ips : List Value} {networks : List N}
      (h : parse s = .ok network) (hs : Parsed parse ips networks) :
      Parsed parse (.string s :: ips) (network :: networks)

lemma pushNetwork_eq_ok_iff (networks networks' : List N) (ip : Value) :
    pushNetwork parse typeError networks ip = .ok networks' ↔
      ∃ s network, ip = .string s ∧ parse s = .ok network ∧ networks' = networks ++ [network] := by
  cases ip with
  | other => simp [pushNetwork, fromValue, Bind.bind, Except.bind]
  | string s =>
    cases hparse : parse s with
    | error message => simp [pushNetwork, fromValue, hparse, Bind.bind, Except.bind]
    | ok network =>
      simp [pushNetwork, fromValue, hparse, Bind.bind, Except.bind, Pure.pure, Except.pure, eq_comm]

lemma foldlM_pushNetwork_iff (ips : List Value) (before networks : List N) :
    ips.foldlM (pushNetwork parse typeError) before = .ok networks ↔
      ∃ after, networks = before ++ after ∧ Parsed parse ips after := by
  induction ips generalizing before with
  | nil =>
    rw [List.foldlM_nil]
    constructor
    · intro h
      cases h
      exact ⟨[], by simp, .nil⟩
    · rintro ⟨_, rfl, ⟨⟩⟩
      simp [Pure.pure, Except.pure]
  | cons ip ips ih =>
    rw [List.foldlM_cons]
    constructor
    · intro h
      cases hpush : pushNetwork parse typeError before ip with
      | error message =>
        rw [hpush] at h
        cases h
      | ok next =>
        rw [hpush] at h
        obtain ⟨s, network, rfl, hparse, rfl⟩ := (pushNetwork_eq_ok_iff _ _ _).mp hpush
        obtain ⟨after, rfl, hafter⟩ := (ih _).mp h
        exact ⟨network :: after, by simp, .cons hparse hafter⟩
    · rintro ⟨_, rfl, hparsed⟩
      cases hparsed with
      | @cons s network _ after hparse hafter =>
        have hpush : pushNetwork parse typeError before (.string s) = .ok (before ++ [network]) :=
          (pushNetwork_eq_ok_iff _ _ _).mpr ⟨s, network, rfl, hparse, rfl⟩
        rw [hpush]
        exact (ih _).mpr ⟨after, by simp, hafter⟩

/-- A list is built exactly if all its values are texts of networks. -/
lemma newIplist_eq_ok_iff (ips : List Value) (set : IpNetworkSet N) :
    newIplist parse typeError ips = .ok set ↔ Parsed parse ips set.networks := by
  have hfold : ips.foldlM (pushNetwork parse typeError) [] = .ok set.networks ↔
      Parsed parse ips set.networks := by
    simp [foldlM_pushNetwork_iff]
  rw [← hfold, newIplist]
  cases ips.foldlM (pushNetwork parse typeError) [] with
  | error message => simp [Bind.bind, Except.bind]
  | ok networks =>
    obtain ⟨networks'⟩ := set
    simp [Bind.bind, Except.bind, Pure.pure, Except.pure]

/-! ### What is in a list -/

/-- An address in one of the networks. -/
def Inside (contains : N → IpAddr → Bool) (set : IpNetworkSet N) (ip : IpAddr) : Prop :=
  ∃ network ∈ set.networks, contains network ip = true

instance (set : IpNetworkSet N) (ip : IpAddr) : Decidable (Inside contains set ip) :=
  inferInstanceAs (Decidable (∃ network ∈ set.networks, contains network ip = true))

variable {set : IpNetworkSet N}

lemma containsImpl_of_parse {s : String} {ip : IpAddr} (h : IpAddr.parse s = some ip) :
    set.containsImpl contains s = .ok (decide (Inside contains set ip)) := by
  have hany : (set.networks.any fun network => contains network ip)
      = decide (Inside contains set ip) := by
    rw [Bool.eq_iff_iff, List.any_eq_true, decide_eq_true_eq, Inside]
  simp only [containsImpl, h, hany]

lemma containsImpl_of_parse_none {s : String} (h : IpAddr.parse s = none) :
    set.containsImpl contains s = .error "invalid IP address syntax" := by
  rw [containsImpl, h]

/-- The text of an address decides if the address is in the list. -/
lemma containsAny_cons_of_parse {s : String} {ip : IpAddr} (h : IpAddr.parse s = some ip)
    (ips : List Value) :
    set.containsAny contains typeError (.string s :: ips)
      = if Inside contains set ip then .ok true else set.containsAny contains typeError ips := by
  rw [containsAny]
  simp only [fromValue, containsImpl_of_parse h, Bind.bind, Except.bind, Pure.pure, Except.pure,
    decide_eq_true_eq]

/-- A value that is no text of an address. -/
lemma containsAny_cons_of_not_parse {v : Value} (ips : List Value)
    (h : ∀ s ip, v = .string s → IpAddr.parse s ≠ some ip) :
    ∃ message, set.containsAny contains typeError (v :: ips) = .error message := by
  cases v with
  | other => exact ⟨typeError, rfl⟩
  | string s =>
    have hnone : IpAddr.parse s = none := Option.eq_none_iff_forall_ne_some.mpr fun ip => h s ip rfl
    refine ⟨"invalid IP address syntax", ?_⟩
    rw [containsAny]
    simp only [fromValue, containsImpl_of_parse_none hnone, Bind.bind, Except.bind]

/-- The text of an address that is not in the list. -/
def Outside (contains : N → IpAddr → Bool) (set : IpNetworkSet N) (v : Value) : Prop :=
  ∃ s ip, v = .string s ∧ IpAddr.parse s = some ip ∧ ¬Inside contains set ip

/-- The first value that is not outside of the list is inside. -/
def Found (contains : N → IpAddr → Bool) (set : IpNetworkSet N) (values : List Value) : Prop :=
  ∃ before s ip after, values = before ++ .string s :: after ∧
    (∀ v ∈ before, Outside contains set v) ∧ IpAddr.parse s = some ip ∧ Inside contains set ip

lemma Found.cons {v : Value} {values : List Value} (hv : Outside contains set v)
    (h : Found contains set values) : Found contains set (v :: values) := by
  obtain ⟨before, s, ip, after, rfl, hbefore, hparse, hinside⟩ := h
  exact ⟨v :: before, s, ip, after, rfl, List.forall_mem_cons.mpr ⟨hv, hbefore⟩, hparse, hinside⟩

lemma Found.of_cons {v : Value} {values : List Value} (hv : Outside contains set v)
    (h : Found contains set (v :: values)) : Found contains set values := by
  obtain ⟨before, s, ip, after, heq, hbefore, hparse, hinside⟩ := h
  cases before with
  | nil =>
    cases heq
    obtain ⟨s', ip', heq', hparse', houtside⟩ := hv
    cases heq'
    rw [hparse] at hparse'
    cases hparse'
    exact absurd hinside houtside
  | cons b before =>
    cases heq
    exact ⟨before, s, ip, after, rfl, (List.forall_mem_cons.mp hbefore).2, hparse, hinside⟩

/-- The first value that is no text of an address outside of the list decides. -/
lemma containsAny_spec (values : List Value) :
    (set.containsAny contains typeError values = .ok true ↔ Found contains set values) ∧
      (set.containsAny contains typeError values = .ok false ↔
        ∀ v ∈ values, Outside contains set v) := by
  induction values with
  | nil =>
    refine ⟨⟨nofun, ?_⟩, by simp [containsAny]⟩
    rintro ⟨before, s, ip, after, heq, -⟩
    simp at heq
  | cons v values ih =>
    by_cases hv : ∃ s ip, v = .string s ∧ IpAddr.parse s = some ip
    · obtain ⟨s, ip, rfl, hparse⟩ := hv
      rw [containsAny_cons_of_parse hparse, List.forall_mem_cons]
      by_cases hinside : Inside contains set ip
      · have hfound : Found contains set (.string s :: values) :=
          ⟨[], s, ip, values, rfl, by simp, hparse, hinside⟩
        rw [if_pos hinside]
        refine ⟨by simpa using hfound, ⟨nofun, ?_⟩⟩
        rintro ⟨⟨s', ip', heq, hparse', houtside⟩, -⟩
        cases heq
        rw [hparse] at hparse'
        cases hparse'
        exact absurd hinside houtside
      · have houtside : Outside contains set (.string s) := ⟨s, ip, rfl, hparse, hinside⟩
        rw [if_neg hinside, ih.1, ih.2]
        exact ⟨⟨.cons houtside, .of_cons houtside⟩, by simp [houtside]⟩
    · have hbad : ∀ s ip, v = .string s → IpAddr.parse s ≠ some ip := by
        intro s ip heq hparse
        exact hv ⟨s, ip, heq, hparse⟩
      obtain ⟨message, hmessage⟩ :
          ∃ message, set.containsAny contains typeError (v :: values) = .error message :=
        containsAny_cons_of_not_parse values hbad
      have hout : ¬Outside contains set v := by
        rintro ⟨s, ip, heq, hparse, -⟩
        exact hv ⟨s, ip, heq, hparse⟩
      rw [hmessage]
      refine ⟨⟨nofun, ?_⟩, ⟨nofun, fun h => absurd (h v List.mem_cons_self) hout⟩⟩
      rintro ⟨_ | ⟨b, before⟩, s, ip, after, heq, hbefore, hparse, -⟩
      · cases heq
        exact absurd ⟨s, ip, rfl, hparse⟩ hv
      · cases heq
        exact absurd (hbefore v List.mem_cons_self) hout

/-- What a lookup returns never fails to be an address. -/
lemma containsAny_lookup (addrs : List IpAddr) :
    set.containsAny contains typeError
        (addrs.map fun addr => .string (String.ofList addr.display))
      = .ok (decide (∃ addr ∈ addrs, Inside contains set addr)) := by
  induction addrs with
  | nil => simp [containsAny]
  | cons addr addrs ih =>
    rw [List.map_cons, containsAny_cons_of_parse (IpAddr.parse_display addr), ih]
    by_cases hinside : Inside contains set addr
    · simp [hinside]
    · simp [hinside]

lemma Parsed.inside_iff {ips : List Value} (h : Parsed parse ips set.networks) (ip : IpAddr) :
    Inside contains set ip ↔ ∃ s network, .string s ∈ ips ∧ parse s = .ok network ∧
      contains network ip = true := by
  rw [Inside]
  generalize set.networks = networks at h
  induction h with
  | nil => simp
  | @cons s network ips networks hparse _ ih =>
    simp only [List.mem_cons, exists_eq_or_imp, ih, Value.string.injEq]
    constructor
    · rintro (hcontains | ⟨s', network', hmem, hparse', hcontains⟩)
      · exact ⟨s, network, .inl rfl, hparse, hcontains⟩
      · exact ⟨s', network', .inr hmem, hparse', hcontains⟩
    · rintro ⟨s', network', rfl | hmem, hparse', hcontains⟩
      · rw [hparse] at hparse'
        cases hparse'
        exact .inl hcontains
      · exact .inr ⟨s', network', hmem, hparse', hcontains⟩

/-- A list that was built from texts holds the addresses of their networks. For the addresses that a
lookup returns the answer is never an error; for the host of a request it is one exactly if the host
is no address; and for other values the first one that is no address outside of the list decides. -/
theorem iplist_exact (contains : N → IpAddr → Bool) {ips : List Value}
    (h : newIplist parse typeError ips = .ok set) :
    (∀ ip, Inside contains set ip ↔ ∃ s network, .string s ∈ ips ∧ parse s = .ok network ∧
      contains network ip = true) ∧
    (∀ addrs values, lookup (.ok addrs) = .ok values →
      set.containsAny contains typeError values
        = .ok (decide (∃ addr ∈ addrs, Inside contains set addr))) ∧
    (∀ request : ConnectRequest,
      ((∃ b, set.containsImpl contains request.endpoint.hostname = .ok b) ↔
        request.hostnameIsIp = true) ∧
      ∀ ip, IpAddr.parse request.endpoint.hostname = some ip →
        set.containsImpl contains request.endpoint.hostname
          = .ok (decide (Inside contains set ip))) ∧
    ∀ values,
      (set.containsAny contains typeError values = .ok true ↔ Found contains set values) ∧
      (set.containsAny contains typeError values = .ok false ↔
        ∀ v ∈ values, Outside contains set v) := by
  refine ⟨((newIplist_eq_ok_iff ips set).mp h).inside_iff, ?_, ?_, containsAny_spec⟩
  · intro addrs values hlookup
    cases hlookup
    exact containsAny_lookup addrs
  · intro request
    refine ⟨?_, fun ip => containsImpl_of_parse⟩
    rw [ConnectRequest.hostnameIsIp_eq]
    cases hparse : IpAddr.parse request.endpoint.hostname with
    | none => simp [containsImpl_of_parse_none hparse]
    | some ip => simp [containsImpl_of_parse hparse]

/-- One address is a network. -/
theorem iplist_exact_singleton :
    ∃ set : IpNetworkSet IpAddr,
      newIplist (fun s => (IpAddr.parse s).elim (.error "invalid address") .ok) "no string"
        [.string "10.0.0.1"] = .ok set ∧
      set.containsAny (fun network ip => network = ip) "no string"
        [.string "::1", .string "10.0.0.1", .other] = .ok true := by
  have hset : newIplist (fun s => (IpAddr.parse s).elim (.error "invalid address") .ok) "no string"
      [.string "10.0.0.1"] = .ok ⟨[IpAddr.v4 ⟨10, 0, 0, 1⟩]⟩ := rfl
  obtain ⟨-, -, -, hvalues⟩ := iplist_exact (fun network ip => network = ip) hset
  refine ⟨_, hset, (hvalues _).1.mpr ⟨[.string "::1"], "10.0.0.1", _, [.other], rfl, ?_, rfl, ?_⟩⟩
  · rw [List.forall_mem_singleton]
    exact ⟨"::1", .v6 ⟨[0, 0, 0, 0, 0, 0, 0, 1], rfl⟩, rfl, rfl, by decide⟩
  · exact ⟨_, List.mem_singleton_self _, by decide⟩

end IpNetworkSet

end Dandelion.Engine
