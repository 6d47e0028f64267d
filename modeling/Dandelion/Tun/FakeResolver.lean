import Dandelion.Net.RoundTrip
import Dandelion.Tun.FakeDns

/-!
# The fake resolver of a DNS handler

`FakeResolver` gives a script the answers of the fake DNS resolver as texts. The resolver is shared
with the code that translates addresses back to names.
-/

namespace Dandelion.Tun.FakeResolver

open Net FakeDnsResolver

/-- The text of an address, or the error if there is none. -/
def answer (family name : String) : Option IpAddr → Except String String
  | some ip => .ok (String.ofList ip.display)
  | none    => .error ("No fake " ++ family ++ " assigned for " ++ name ++
      ", possibly due to fake DNS doesn't have an " ++ family ++ " pool.")

def lookupIpv4 (inner : FakeDnsResolver) (name : String) :
    FakeDnsResolver × Except String String :=
  ((inner.lookupIpv4 name).1, answer "IPv4" name ((inner.lookupIpv4 name).2.map .v4))

def lookupIpv6 (inner : FakeDnsResolver) (name : String) :
    FakeDnsResolver × Except String String :=
  ((inner.lookupIpv6 name).1, answer "IPv6" name ((inner.lookupIpv6 name).2.map .v6))

/-- What a lookup of one family, with addresses `inj` and the given pool, does. -/
structure Sound {ν : Type} (inj : ν → IpAddr) (pool : List ν) (inner : FakeDnsResolver)
    (name : String) (r : FakeDnsResolver × Except String String) : Prop where
  /-- It fails for the addresses of the other family, and for names if there never was a pool. -/
  error_iff : (∃ message, r.2 = .error message) ↔
    (∃ ip, IpAddr.parse name = some ip ∧ ∀ v, ip ≠ inj v) ∨ (IpAddr.parse name = none ∧ pool = [])
  unchanged : ∀ message, r.2 = .error message → r.1 = inner
  /-- The text is that of an address of the family: the name itself, or one that is translated back
  to the name. -/
  text : ∀ text, r.2 = .ok text → ∃ v, IpAddr.parse text = some (inj v) ∧
    (IpAddr.parse name = some (inj v) ∨
      IpAddr.parse name = none ∧ (r.1.lookupPtr (inj v)).2 = some name)

variable {inner : FakeDnsResolver} {name : String}

lemma answer_eq_error_iff (family name : String) (ip? : Option IpAddr) :
    (∃ message, answer family name ip? = .error message) ↔ ip? = none := by
  cases ip? <;> simp [answer]

lemma of_answer_eq_ok {family text : String} {ip? : Option IpAddr}
    (h : answer family name ip? = .ok text) :
    ∃ ip, ip? = some ip ∧ IpAddr.parse text = some ip := by
  cases ip? with
  | none => cases h
  | some ip =>
    cases h
    exact ⟨ip, rfl, IpAddr.parse_display ip⟩

/-- A pool that has no value to give out stays as it is. -/
lemma get_of_none {κ ν : Type} [DecidableEq κ] [DecidableEq ν]
    {s : PoolWithBidirectionalMapping κ ν} {key : κ} (h : (s.get key).2 = none) :
    (s.get key).1 = s := by
  have hget : s.get key = ((s.get key).1, none) := Prod.ext rfl h
  generalize (s.get key).1 = s' at hget ⊢
  cases PoolWithBidirectionalMapping.GetRule.of_get hget
  rfl

section

variable {family : IpType} {pool : List family.Addr} {label : String}

/-- The name of an address. -/
lemma sound_of_literal {ip : IpAddr} (hname : IpAddr.parse name = some ip) :
    Sound family.toIp pool inner name
      ((inner.lookupIp name family).1,
        answer label name ((inner.lookupIp name family).2.map family.toIp)) where
  error_iff := by
    rw [answer_eq_error_iff, Option.map_eq_none_iff]
    simp only [hname, Option.some.injEq, exists_eq_left', reduceCtorEq, false_and, or_false]
    rw [Option.eq_none_iff_forall_ne_some]
    exact forall_congr' fun v => not_congr (lookupIp_eq_some_iff_of_literal hname v)
  unchanged _ _ := lookupIp_of_literal hname
  text text h := by
    obtain ⟨_, hsome, htext⟩ := of_answer_eq_ok h
    obtain ⟨v, hv, rfl⟩ := Option.map_eq_some_iff.mp hsome
    refine ⟨v, htext, .inl ?_⟩
    rw [hname, (lookupIp_eq_some_iff_of_literal hname v).mp hv]

variable {ipv4Pool : List Ipv4Addr} {ipv6Pool : List Ipv6Addr} {calls : List Call}

/-- A name that is no address. -/
lemma sound_of_name (hnew : (new ipv4Pool ipv6Pool).mapping family = .new pool)
    (hpool : pool.Nodup) (hname : IpAddr.parse name = none)
    (hinner : inner = machine.run (new ipv4Pool ipv6Pool) calls) :
    Sound family.toIp pool inner name
      ((inner.lookupIp name family).1,
        answer label name ((inner.lookupIp name family).2.map family.toIp)) where
  error_iff := by
    have hconsistent : PoolWithBidirectionalMapping.Consistent pool (inner.mapping family) := by
      rw [hinner]
      exact consistent_run hnew hpool
    rw [answer_eq_error_iff, Option.map_eq_none_iff, lookupIp_of_name hname,
      hconsistent.get_eq_none_iff]
    simp [hname]
  unchanged message h := by
    have herror := (answer_eq_error_iff _ _ _).mp ⟨message, h⟩
    rw [Option.map_eq_none_iff, lookupIp_of_name hname] at herror
    rw [lookupIp_of_name hname, get_of_none herror, setMapping_mapping]
  text text h := by
    obtain ⟨_, hsome, htext⟩ := of_answer_eq_ok h
    obtain ⟨v, hv, rfl⟩ := Option.map_eq_some_iff.mp hsome
    subst hinner
    exact ⟨v, htext, .inr ⟨hname, lookupPtr_of_lookupIp family hnew hpool hname hv⟩⟩

/-- The lookup of either family. -/
lemma sound_lookupIp (family : IpType) {pool : List family.Addr}
    (hnew : (new ipv4Pool ipv6Pool).mapping family = .new pool) (hpool : pool.Nodup)
    (hinner : inner = machine.run (new ipv4Pool ipv6Pool) calls) :
    Sound family.toIp pool inner name
      ((inner.lookupIp name family).1,
        answer label name ((inner.lookupIp name family).2.map family.toIp)) := by
  cases hname : IpAddr.parse name with
  | some ip => exact sound_of_literal hname
  | none => exact sound_of_name hnew hpool hname hinner

end

/-- Whatever was looked up before, in both directions: a lookup of the script fails exactly for an
address of the other family and, if the pool of the family was empty from the start, for a name. It
then changes nothing. Otherwise the text can be parsed, and the address is translated back to the
name. -/
theorem lookups_sound {ipv4Pool : List Ipv4Addr} {ipv6Pool : List Ipv6Addr}
    (hpool4 : ipv4Pool.Nodup) (hpool6 : ipv6Pool.Nodup) (calls : List Call) (name : String) :
    let inner := machine.run (new ipv4Pool ipv6Pool) calls
    Sound .v4 ipv4Pool inner name (lookupIpv4 inner name) ∧
      Sound .v6 ipv6Pool inner name (lookupIpv6 inner name) := by
  intro inner
  exact ⟨sound_lookupIp .ipv4 rfl hpool4 rfl, sound_lookupIp .ipv6 rfl hpool6 rfl⟩

/-- There are addresses of one family only, and an address is in use. -/
theorem lookups_sound_ipv4_only :
    let inner := machine.run (new [⟨10, 0, 0, 1⟩] []) [.lookupIpv4 "a"]
    (lookupIpv4 inner "b").2 = .ok "10.0.0.1" ∧
      ((lookupIpv4 inner "b").1.lookupPtr (.v4 ⟨10, 0, 0, 1⟩)).2 = some "b" ∧
      (∃ message, (lookupIpv6 inner "b").2 = .error message) := by
  intro inner
  have hpool : [(⟨10, 0, 0, 1⟩ : Ipv4Addr)].Nodup := by decide
  obtain ⟨hipv4, hipv6⟩ := lookups_sound hpool List.nodup_nil [.lookupIpv4 "a"] "b"
  have htext : (lookupIpv4 inner "b").2 = .ok "10.0.0.1" := by decide
  have hname : IpAddr.parse "b" = none := by decide
  have hparse : IpAddr.parse "10.0.0.1" = some (.v4 ⟨10, 0, 0, 1⟩) := by decide
  refine ⟨htext, ?_, hipv6.error_iff.mpr (.inr ⟨hname, rfl⟩)⟩
  obtain ⟨v, hv, hliteral | ⟨-, hptr⟩⟩ := hipv4.text _ htext
  · rw [hname] at hliteral
    cases hliteral
  · rw [hparse] at hv
    cases hv
    exact hptr

end Dandelion.Tun.FakeResolver
