import Framecast.Cli.Daemon
import Mathlib

set_option autoImplicit false

namespace Framecast

namespace Endpoint

def host : Endpoint → IPv4 ⊕ IPv6
  | .v4 ip _ => .inl ip
  | .v6 ip _ _ => .inr ip

def scope : Endpoint → UInt32
  | .v4 .. => 0
  | .v6 _ _ scope => scope

/-- The two differ in their ports at most. -/
structure SameAddress (e f : Endpoint) : Prop where
  host : e.host = f.host
  scope : e.scope = f.scope

variable {e f : Endpoint} {p : UInt16}

theorem eq_iff : e = f ↔ e.SameAddress f ∧ e.port = f.port := by
  constructor
  · rintro rfl
    exact ⟨⟨rfl, rfl⟩, rfl⟩
  · rintro ⟨⟨host, scope⟩, port⟩
    cases e <;> cases f <;> simp_all [Endpoint.host, Endpoint.scope, Endpoint.port]

@[simp] theorem host_withPort (e : Endpoint) (p : UInt16) : (e.withPort p).host = e.host := by
  cases e <;> rfl

@[simp] theorem scope_withPort (e : Endpoint) (p : UInt16) : (e.withPort p).scope = 0 := by
  cases e <;> rfl

theorem sameAddress_withPort_iff : (e.withPort p).SameAddress e ↔ e.scope = 0 := by
  constructor
  · intro same
    rw [← same.scope, scope_withPort]
  · intro unscoped
    exact ⟨host_withPort e p, by rw [scope_withPort, unscoped]⟩

theorem withPort_eq_self_iff : e.withPort e.port = e ↔ e.scope = 0 := by
  rw [eq_iff, sameAddress_withPort_iff, port_withPort, and_iff_left rfl]

end Endpoint

namespace Cli.Options

variable {o : Options} {p : UInt16}

theorem bind_apply_of_none (unported : o.port = none) (c : Config) :
    (o.apply c).relay.bind = o.bind.getD c.relay.bind := by
  simp only [apply, applyRelay, applyBind, unported]

theorem bind_apply_of_some (ported : o.port = some p) (c : Config) :
    (o.apply c).relay.bind = (o.bind.getD c.relay.bind).withPort p := by
  simp only [apply, applyRelay, applyBind, ported]

end Cli.Options

namespace Endpoint

/--
Replacing the port keeps the IP address, and of two new ports the second counts. The address stays
what it was but for its port, and is not changed at all by its own port, if and only if it has no
scope. The flag for the port replaces that of the address that is given or configured and changes
nothing else, so it too keeps an address if and only if that has no scope.
-/
theorem withPort_exact (e : Endpoint) (p q : UInt16) :
    (e.withPort p).port = p ∧ (e.withPort p).host = e.host ∧
    ((e.withPort p).SameAddress e ↔ e.scope = 0) ∧ (e.withPort e.port = e ↔ e.scope = 0) ∧
    (e.withPort p).withPort q = e.withPort q ∧
    ∀ (o : Cli.Options) (c : Config),
      let given := ({ o with port := none }).apply c
      let ported := ({ o with port := some p }).apply c
      ported = { given with relay := { given.relay with bind := ported.relay.bind } } ∧
        ported.relay.bind.port = p ∧ ported.relay.bind.host = given.relay.bind.host ∧
        (ported.relay.bind.SameAddress given.relay.bind ↔ given.relay.bind.scope = 0) := by
  refine ⟨port_withPort e p, host_withPort e p, sameAddress_withPort_iff, withPort_eq_self_iff,
    withPort_withPort e p q, fun o c => ?_⟩
  intro given ported
  have bind : ported.relay.bind = given.relay.bind.withPort p := by
    rw [Cli.Options.bind_apply_of_some rfl, Cli.Options.bind_apply_of_none rfl]
  refine ⟨rfl, ?_, ?_, ?_⟩
  · rw [bind, port_withPort]
  · rw [bind, host_withPort]
  · rw [bind, sameAddress_withPort_iff]

def linkLocal : Endpoint := .v6 ⟨[0xfe80, 0, 0, 0, 0, 0, 0, 1], rfl⟩ 8080 3

-- the address has a scope, and its own port takes it away
theorem linkLocal_changed_by_own_port :
    parse? "[fe80::1%3]:8080" = some linkLocal ∧ linkLocal.withPort linkLocal.port ≠ linkLocal ∧
      (linkLocal.withPort 8080).display = "[fe80::1]:8080" ∧
      ¬(linkLocal.withPort 9000).SameAddress linkLocal ∧
      ∀ c, (({ bind := some linkLocal, port := some 9000 } : Cli.Options).apply c).relay.bind.scope ≠
        linkLocal.scope := by
  have read : parse? "[fe80::1%3]:8080" = some linkLocal := by cbv
  have own : (linkLocal.withPort 8080).display = "[fe80::1]:8080" := by cbv
  refine ⟨read, by decide, own, ?_, fun c => ?_⟩
  · rw [sameAddress_withPort_iff]
    decide
  · rw [Cli.Options.bind_apply_of_some rfl, scope_withPort]
    decide

end Endpoint

end Framecast
