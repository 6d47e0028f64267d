import Dandelion.Net.Text
import Dandelion.Tun.Invariant

/-!
# The fake DNS resolver

`FakeDnsResolver` has one pool for each address family. A name that is the text of an IP address
is answered from the text alone. Each family is a component of the resolver that only its own
calls drive.
-/

namespace Dandelion.Tun

open Net

inductive IpType where
  | ipv4
  | ipv6
deriving DecidableEq

structure FakeDnsResolver where
  ipv4Mapping : PoolWithBidirectionalMapping String Ipv4Addr
  ipv6Mapping : PoolWithBidirectionalMapping String Ipv6Addr

namespace FakeDnsResolver

def new (ipv4Pool : List Ipv4Addr) (ipv6Pool : List Ipv6Addr) : FakeDnsResolver where
  ipv4Mapping := .new ipv4Pool
  ipv6Mapping := .new ipv6Pool

def lookup (s : FakeDnsResolver) (name : String) (queryType : IpType) :
    FakeDnsResolver × Option IpAddr :=
  -- a name that is an IP address is returned directly
  match IpAddr.parse name with
  | some ip => (s, some ip)
  | none =>
    match queryType with
    | .ipv4 =>
      ({ s with ipv4Mapping := (s.ipv4Mapping.get name).1 }, (s.ipv4Mapping.get name).2.map .v4)
    | .ipv6 =>
      ({ s with ipv6Mapping := (s.ipv6Mapping.get name).1 }, (s.ipv6Mapping.get name).2.map .v6)

def lookupIpv4 (s : FakeDnsResolver) (name : String) : FakeDnsResolver × Option Ipv4Addr :=
  ((s.lookup name .ipv4).1, (s.lookup name .ipv4).2.bind fun
    | .v4 ipv4 => some ipv4
    | _        => none)

def lookupIpv6 (s : FakeDnsResolver) (name : String) : FakeDnsResolver × Option Ipv6Addr :=
  ((s.lookup name .ipv6).1, (s.lookup name .ipv6).2.bind fun
    | .v6 ipv6 => some ipv6
    | _        => none)

def lookupPtr (s : FakeDnsResolver) : IpAddr → FakeDnsResolver × Option String
  | .v4 addr =>
    ({ s with ipv4Mapping := (s.ipv4Mapping.getReverse addr).1 },
      (s.ipv4Mapping.getReverse addr).2)
  | .v6 addr =>
    ({ s with ipv6Mapping := (s.ipv6Mapping.getReverse addr).1 },
      (s.ipv6Mapping.getReverse addr).2)

/-- The calls a client of the resolver makes. -/
inductive Call where
  | lookupIpv4 (name : String)
  | lookupIpv6 (name : String)
  | lookupPtr (addr : IpAddr)

/-- What a call returns. -/
inductive Answer where
  | ipv4 (ip : Option Ipv4Addr)
  | ipv6 (ip : Option Ipv6Addr)
  | name (name : Option String)
deriving DecidableEq

/-- The resolver as a machine that is driven by calls. -/
def machine : Machine FakeDnsResolver Call Answer where
  step
    | s, .lookupIpv4 name => ((s.lookupIpv4 name).1, .ipv4 (s.lookupIpv4 name).2)
    | s, .lookupIpv6 name => ((s.lookupIpv6 name).1, .ipv6 (s.lookupIpv6 name).2)
    | s, .lookupPtr addr  => ((s.lookupPtr addr).1, .name (s.lookupPtr addr).2)

/-! ### The two families

What is said of a family of addresses is said of both at once. -/

end FakeDnsResolver

/-- The addresses of a family. -/
abbrev IpType.Addr : IpType → Type
  | .ipv4 => Ipv4Addr
  | .ipv6 => Ipv6Addr

instance : (family : IpType) → DecidableEq family.Addr
  | .ipv4 => inferInstanceAs (DecidableEq Ipv4Addr)
  | .ipv6 => inferInstanceAs (DecidableEq Ipv6Addr)

def IpType.toIp : (family : IpType) → family.Addr → IpAddr
  | .ipv4, addr => .v4 addr
  | .ipv6, addr => .v6 addr

namespace FakeDnsResolver

variable {s : FakeDnsResolver} {name : String} {family other : IpType}

/-- The pool of a family. -/
def mapping (s : FakeDnsResolver) :
    (family : IpType) → PoolWithBidirectionalMapping String family.Addr
  | .ipv4 => s.ipv4Mapping
  | .ipv6 => s.ipv6Mapping

def setMapping (s : FakeDnsResolver) :
    (family : IpType) → PoolWithBidirectionalMapping String family.Addr → FakeDnsResolver
  | .ipv4, pool => { s with ipv4Mapping := pool }
  | .ipv6, pool => { s with ipv6Mapping := pool }

@[simp] lemma mapping_setMapping (pool : PoolWithBidirectionalMapping String family.Addr) :
    (s.setMapping family pool).mapping family = pool := by cases family <;> rfl

lemma setMapping_mapping : s.setMapping family (s.mapping family) = s := by cases family <;> rfl

lemma mapping_setMapping_of_ne (h : other ≠ family)
    (pool : PoolWithBidirectionalMapping String other.Addr) :
    (s.setMapping other pool).mapping family = s.mapping family := by
  cases other <;> cases family <;> first | rfl | exact absurd rfl h

/-- `lookupIpv4` or `lookupIpv6`. -/
def lookupIp (s : FakeDnsResolver) (name : String) :
    (family : IpType) → FakeDnsResolver × Option family.Addr
  | .ipv4 => s.lookupIpv4 name
  | .ipv6 => s.lookupIpv6 name

lemma lookupPtr_toIp (addr : family.Addr) :
    s.lookupPtr (family.toIp addr)
      = (s.setMapping family ((s.mapping family).getReverse addr).1,
          ((s.mapping family).getReverse addr).2) := by cases family <;> rfl

/-! ### Names that are addresses -/

/-- A name that is an address changes nothing. -/
lemma lookup_of_literal {ip : IpAddr} (h : IpAddr.parse name = some ip) (queryType : IpType) :
    s.lookup name queryType = (s, some ip) := by
  unfold lookup
  rw [h]

lemma lookupIp_of_literal {ip : IpAddr} (h : IpAddr.parse name = some ip) :
    (s.lookupIp name family).1 = s := by
  cases family <;> simp only [lookupIp, lookupIpv4, lookupIpv6, lookup_of_literal h]

/-- Such a name is only answered if it is an address of the family. -/
lemma lookupIp_eq_some_iff_of_literal {ip : IpAddr} (h : IpAddr.parse name = some ip)
    (addr : family.Addr) : (s.lookupIp name family).2 = some addr ↔ ip = family.toIp addr := by
  cases family <;> cases ip <;>
    simp only [lookupIp, lookupIpv4, lookupIpv6, lookup_of_literal h, Option.bind_some,
      IpType.toIp, Option.some.injEq, IpAddr.v4.injEq, IpAddr.v6.injEq, reduceCtorEq]

lemma lookupIp_of_name (h : IpAddr.parse name = none) :
    s.lookupIp name family
      = (s.setMapping family ((s.mapping family).get name).1,
          ((s.mapping family).get name).2) := by
  cases family with
  | ipv4 =>
    unfold lookupIp lookupIpv4 lookup mapping
    rw [h]
    cases (s.ipv4Mapping.get name).2 <;> rfl
  | ipv6 =>
    unfold lookupIp lookupIpv6 lookup mapping
    rw [h]
    cases (s.ipv6Mapping.get name).2 <;> rfl

lemma mapping_lookupIp_of_ne (h : other ≠ family) :
    (s.lookupIp name other).1.mapping family = s.mapping family := by
  cases hname : IpAddr.parse name with
  | none => rw [lookupIp_of_name hname, mapping_setMapping_of_ne h]
  | some ip => rw [lookupIp_of_literal hname]

/-! ### The calls for a family -/

/-- An IPv4 lookup of a name that is no address, or the reverse lookup of an IPv4 address. -/
def Call.isIpv4 : Call → Bool
  | .lookupIpv4 name   => (IpAddr.parse name).isNone
  | .lookupIpv6 _      => false
  | .lookupPtr (.v4 _) => true
  | .lookupPtr (.v6 _) => false

/-- An IPv6 lookup of a name that is no address, or the reverse lookup of an IPv6 address. -/
def Call.isIpv6 : Call → Bool
  | .lookupIpv4 _      => false
  | .lookupIpv6 name   => (IpAddr.parse name).isNone
  | .lookupPtr (.v4 _) => false
  | .lookupPtr (.v6 _) => true

def Call.isFor : IpType → Call → Bool
  | .ipv4 => isIpv4
  | .ipv6 => isIpv6

def Call.lookupIp : IpType → String → Call
  | .ipv4 => .lookupIpv4
  | .ipv6 => .lookupIpv6

lemma Call.isFor_lookupIp :
    (Call.lookupIp family name).isFor family = (IpAddr.parse name).isNone := by cases family <;> rfl

lemma Call.isFor_lookupIp_of_ne (h : other ≠ family) :
    (Call.lookupIp other name).isFor family = false := by
  cases other <;> cases family <;> first | rfl | exact absurd rfl h

/-- Every call is for one of the families. -/
lemma Call.cases_family {P : Call → Prop} (lookup : ∀ family name, P (.lookupIp family name))
    (ptr : ∀ (family : IpType) (addr : family.Addr), P (.lookupPtr (family.toIp addr))) :
    ∀ call, P call
  | .lookupIpv4 name      => lookup .ipv4 name
  | .lookupIpv6 name      => lookup .ipv6 name
  | .lookupPtr (.v4 addr) => ptr .ipv4 addr
  | .lookupPtr (.v6 addr) => ptr .ipv6 addr

/-- The call of the pool of a family that a call stands for. -/
def Call.toPool : (family : IpType) → Call →
    Option (PoolWithBidirectionalMapping.Call String family.Addr)
  | .ipv4, .lookupIpv4 name      => if (IpAddr.parse name).isNone then some (.get name) else none
  | .ipv6, .lookupIpv6 name      => if (IpAddr.parse name).isNone then some (.get name) else none
  | .ipv4, .lookupPtr (.v4 addr) => some (.getReverse addr)
  | .ipv6, .lookupPtr (.v6 addr) => some (.getReverse addr)
  | _, _                         => none

lemma Call.toPool_lookupIp :
    (Call.lookupIp family name).toPool family
      = if (IpAddr.parse name).isNone then some (.get name) else none := by cases family <;> rfl

lemma Call.toPool_lookupIp_of_ne (h : other ≠ family) :
    (Call.lookupIp other name).toPool family = none := by
  cases other <;> cases family <;> first | rfl | exact absurd rfl h

lemma Call.toPool_lookupPtr (addr : family.Addr) :
    (Call.lookupPtr (family.toIp addr)).toPool family = some (.getReverse addr) := by
  cases family <;> rfl

lemma Call.toPool_lookupPtr_of_ne (h : other ≠ family) (addr : other.Addr) :
    (Call.lookupPtr (other.toIp addr)).toPool family = none := by
  cases other <;> cases family <;> first | rfl | exact absurd rfl h

/-- A call for the pool of a family is a lookup of a name that is no address or a reverse lookup. -/
lemma Call.of_toPool {call : Call} {poolCall : PoolWithBidirectionalMapping.Call String family.Addr}
    (h : call.toPool family = some poolCall) :
    (∃ name, IpAddr.parse name = none ∧ call = .lookupIp family name ∧ poolCall = .get name) ∨
    ∃ addr, call = .lookupPtr (family.toIp addr) ∧ poolCall = .getReverse addr := by
  induction call using Call.cases_family with
  | lookup other name =>
    rcases eq_or_ne other family with rfl | hother
    · rw [toPool_lookupIp, Option.ite_none_right_eq_some] at h
      obtain ⟨hname, heq⟩ := h
      exact .inl ⟨name, Option.isNone_iff_eq_none.mp hname, rfl, (Option.some.inj heq).symm⟩
    · rw [toPool_lookupIp_of_ne hother] at h
      cases h
  | ptr other addr =>
    rcases eq_or_ne other family with rfl | hother
    · rw [toPool_lookupPtr] at h
      exact .inr ⟨addr, rfl, (Option.some.inj h).symm⟩
    · rw [toPool_lookupPtr_of_ne hother] at h
      cases h

lemma Call.isFor_eq (family : IpType) (call : Call) :
    call.isFor family = (call.toPool family).isSome := by
  induction call using Call.cases_family with
  | lookup other name =>
    rcases eq_or_ne other family with rfl | hother
    · rw [isFor_lookupIp, toPool_lookupIp]
      cases IpAddr.parse name <;> rfl
    · rw [isFor_lookupIp_of_ne hother, toPool_lookupIp_of_ne hother]
      rfl
  | ptr other addr => cases family <;> cases other <;> rfl

/-- What the lookup of a family returns. -/
def Answer.ip : (family : IpType) → Option family.Addr → Answer
  | .ipv4 => .ipv4
  | .ipv6 => .ipv6

/-- The answer of the pool of a family as one of the resolver. -/
def Answer.ofPool (family : IpType) :
    PoolWithBidirectionalMapping.Answer String family.Addr → Answer
  | .value ip   => .ip family ip
  | .owner name => .name name

lemma step_lookupIp :
    machine.step s (.lookupIp family name)
      = ((s.lookupIp name family).1, .ip family (s.lookupIp name family).2) := by
  cases family <;> rfl

lemma step_lookupPtr (addr : family.Addr) :
    machine.step s (.lookupPtr (family.toIp addr))
      = (s.setMapping family ((s.mapping family).getReverse addr).1,
          .name ((s.mapping family).getReverse addr).2) := by cases family <;> rfl

/-- The pool of a family is a component of the resolver. -/
lemma component (family : IpType) :
    machine.Component PoolWithBidirectionalMapping.machine (mapping · family)
      (Call.toPool family) (Answer.ofPool family) where
  hidden := by
    intro s call hcall
    induction call using Call.cases_family with
    | lookup other name =>
      rw [step_lookupIp]
      rcases eq_or_ne other family with rfl | hother
      · rw [Call.toPool_lookupIp] at hcall
        cases hname : IpAddr.parse name with
        | none => simp [hname] at hcall
        | some ip => rw [lookupIp_of_literal hname]
      · exact mapping_lookupIp_of_ne hother
    | ptr other addr =>
      rw [step_lookupPtr]
      rcases eq_or_ne other family with rfl | hother
      · rw [Call.toPool_lookupPtr] at hcall
        cases hcall
      · exact mapping_setMapping_of_ne hother _
  seen := by
    intro s call poolCall hcall
    rcases Call.of_toPool hcall with ⟨name, hname, rfl, rfl⟩ | ⟨addr, rfl, rfl⟩
    · rw [step_lookupIp, lookupIp_of_name hname]
      exact ⟨mapping_setMapping _, rfl⟩
    · rw [step_lookupPtr]
      exact ⟨mapping_setMapping _, rfl⟩

/-- Only names that are no address reach a pool. -/
lemma Call.parse_eq_none_of_toPool {call : Call} (h : call.toPool family = some (.get name)) :
    IpAddr.parse name = none := by
  rcases of_toPool h with ⟨name', hname, -, heq⟩ | ⟨addr, -, heq⟩
  · cases heq
    exact hname
  · cases heq

variable {ipv4Pool : List Ipv4Addr} {ipv6Pool : List Ipv6Addr} {calls : List Call}

/-- No owner of an address is the text of an address. -/
lemma parse_eq_none_of_lookupPtr (family : IpType) {pool : List family.Addr}
    (hnew : (new ipv4Pool ipv6Pool).mapping family = .new pool) {addr : family.Addr}
    (h : ((machine.run (new ipv4Pool ipv6Pool) calls).lookupPtr (family.toIp addr)).2
      = some name) : IpAddr.parse name = none := by
  simp only [lookupPtr_toIp, PoolWithBidirectionalMapping.getReverse, LruCache.get_fst,
    (component family).run, hnew] at h
  obtain ⟨call, -, hcall⟩ :=
    List.mem_filterMap.mp (PoolWithBidirectionalMapping.get_mem_of_owner h)
  exact Call.parse_eq_none_of_toPool hcall

lemma consistent_run {pool : List family.Addr}
    (hnew : (new ipv4Pool ipv6Pool).mapping family = .new pool) (hpool : pool.Nodup) :
    PoolWithBidirectionalMapping.Consistent pool
      ((machine.run (new ipv4Pool ipv6Pool) calls).mapping family) := by
  rw [(component family).run, hnew]
  exact .run hpool _

/-- The name that was just looked up is the owner of its address. -/
lemma lookupPtr_of_lookupIp (family : IpType) {pool : List family.Addr}
    (hnew : (new ipv4Pool ipv6Pool).mapping family = .new pool) (hpool : pool.Nodup)
    (hname : IpAddr.parse name = none) {addr : family.Addr}
    (h : ((machine.run (new ipv4Pool ipv6Pool) calls).lookupIp name family).2 = some addr) :
    (((machine.run (new ipv4Pool ipv6Pool) calls).lookupIp name family).1.lookupPtr
      (family.toIp addr)).2 = some name := by
  rw [lookupIp_of_name hname] at h ⊢
  rw [lookupPtr_toIp, mapping_setMapping]
  exact (consistent_run hnew hpool).getReverse_of_get hpool (Prod.ext rfl h)

/-- Neither family sees the other or the names that are addresses, no address is ever the name
of another one, and with pools without duplicates the name just looked up is found in reverse. -/
theorem families_and_literals_separated (ipv4Pool : List Ipv4Addr) (ipv6Pool : List Ipv6Addr)
    (calls : List Call) :
    let start := new ipv4Pool ipv6Pool
    let s := machine.run start calls
    ((machine.transitions start calls).filter fun t => t.input.isIpv4).map
        Machine.Transition.answer = machine.answers start (calls.filter Call.isIpv4) ∧
      ((machine.transitions start calls).filter fun t => t.input.isIpv6).map
        Machine.Transition.answer = machine.answers start (calls.filter Call.isIpv6) ∧
      (∀ addr name, (s.lookupPtr addr).2 = some name → IpAddr.parse name = none) ∧
      (ipv4Pool.Nodup → ipv6Pool.Nodup → ∀ name, IpAddr.parse name = none →
        (∀ addr, (s.lookupIpv4 name).2 = some addr →
          ((s.lookupIpv4 name).1.lookupPtr (.v4 addr)).2 = some name) ∧
        (∀ addr, (s.lookupIpv6 name).2 = some addr →
          ((s.lookupIpv6 name).1.lookupPtr (.v6 addr)).2 = some name)) := by
  intro start s
  refine ⟨?_, ?_, ?_, ?_⟩
  · exact (component .ipv4).answers_filter (Call.isFor_eq .ipv4) rfl calls
  · exact (component .ipv6).answers_filter (Call.isFor_eq .ipv6) rfl calls
  · intro addr name h
    cases addr with
    | v4 addr => exact parse_eq_none_of_lookupPtr .ipv4 rfl h
    | v6 addr => exact parse_eq_none_of_lookupPtr .ipv6 rfl h
  · intro hpool4 hpool6 name hname
    constructor
    · intro addr h
      exact lookupPtr_of_lookupIp .ipv4 rfl hpool4 hname h
    · intro addr h
      exact lookupPtr_of_lookupIp .ipv6 rfl hpool6 hname h

/-- One address of each family: both names of the IPv4 one are found in reverse in turn, and the
lookups of an address and of an IPv6 name in between change nothing. -/
theorem families_and_literals_separated_one_each :
    let start := new [⟨10, 0, 0, 1⟩] [⟨[0, 0, 0, 0, 0, 0, 0, 1], rfl⟩]
    let s := machine.run start [.lookupIpv4 "a", .lookupIpv6 "10.0.0.2", .lookupIpv6 "b"]
    (s.lookupPtr (.v4 ⟨10, 0, 0, 1⟩)).2 = some "a" ∧
      (s.lookupIpv4 "b").2 = some ⟨10, 0, 0, 1⟩ ∧
      ((s.lookupIpv4 "b").1.lookupPtr (.v4 ⟨10, 0, 0, 1⟩)).2 = some "b" := by
  intro start s
  have h := families_and_literals_separated [⟨10, 0, 0, 1⟩]
    [⟨[0, 0, 0, 0, 0, 0, 0, 1], rfl⟩]
    [.lookupIpv4 "a", .lookupIpv6 "10.0.0.2", .lookupIpv6 "b"]
  have hb : (s.lookupIpv4 "b").2 = some ⟨10, 0, 0, 1⟩ := by decide
  exact ⟨by decide, hb, (h.2.2.2 (by decide) (by decide) "b" (by decide)).1 _ hb⟩

end FakeDnsResolver

end Dandelion.Tun
