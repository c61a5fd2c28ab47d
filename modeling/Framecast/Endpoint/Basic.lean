set_option autoImplicit false

namespace Framecast

structure IPv4 where
  a : UInt8
  b : UInt8
  c : UInt8
  d : UInt8
  deriving DecidableEq, Repr

structure IPv6 where
  groups : List UInt16
  length_groups : groups.length = 8
  deriving DecidableEq, Repr

namespace IPv6

def ofGroups? (gs : List UInt16) : Option IPv6 :=
  if h : gs.length = 8 then some ⟨gs, h⟩ else none

@[simp] theorem ofGroups?_groups (ip : IPv6) : ofGroups? ip.groups = some ip := by
  simp [ofGroups?, ip.length_groups]

end IPv6

namespace IPv4

def toGroups (ip : IPv4) : List UInt16 :=
  [ip.a.toUInt16 * 256 + ip.b.toUInt16, ip.c.toUInt16 * 256 + ip.d.toUInt16]

def ofGroups (high low : UInt16) : IPv4 :=
  ⟨(high / 256).toUInt8, high.toUInt8, (low / 256).toUInt8, low.toUInt8⟩

end IPv4

inductive Endpoint where
  | v4 (ip : IPv4) (port : UInt16)
  | v6 (ip : IPv6) (port : UInt16) (scope : UInt32)
  deriving DecidableEq, Repr

namespace Endpoint

def defaultPort : UInt16 := 8080

def any (port : UInt16) : Endpoint := .v4 ⟨0, 0, 0, 0⟩ port

def localhost (port : UInt16) : Endpoint := .v4 ⟨127, 0, 0, 1⟩ port

def default : Endpoint := any defaultPort

def port : Endpoint → UInt16
  | .v4 _ p => p
  | .v6 _ p _ => p

def isV6 : Endpoint → Bool
  | .v4 .. => false
  | .v6 .. => true

def atPort : Endpoint → UInt16 → Endpoint
  | .v4 ip _, p => .v4 ip p
  | .v6 ip _ scope, p => .v6 ip p scope

/-- Keeps the IP address and replaces the port; a scope is not kept. -/
def withPort : Endpoint → UInt16 → Endpoint
  | .v4 ip _, p => .v4 ip p
  | .v6 ip _ _, p => .v6 ip p 0

@[simp] theorem port_withPort (e : Endpoint) (p : UInt16) : (e.withPort p).port = p := by
  cases e <;> rfl

@[simp] theorem withPort_withPort (e : Endpoint) (p q : UInt16) :
    (e.withPort p).withPort q = e.withPort q := by
  cases e <;> rfl

end Endpoint

end Framecast
