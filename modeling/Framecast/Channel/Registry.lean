import Framecast.Channel.Basic

set_option autoImplicit false

namespace Framecast

namespace Registry

inductive Call (ω : Type) where
  | register (waker : ω)
  | deregister (id : UInt64)
  | notifyAll
  deriving DecidableEq, Repr

def Call.registers {ω : Type} : Call ω → Bool
  | .register _ => true
  | .deregister _ | .notifyAll => false

end Registry

structure Registry (ω : Type) where
  channel : Channel ω := {}
  -- how many registrations were asked for, the refused ones among them
  attempts : Nat := 0
  -- the newest first
  members : List (Registration ω) := []
  deriving DecidableEq, Repr

namespace Registry

variable {ω : Type}

def perform (s : Registry ω) : Call ω → Registry ω
  | .register w =>
    let (answer, c) := s.channel.register w
    { channel := c
      attempts := s.attempts + 1
      members :=
        match answer with
        | .ok id => ⟨id, w⟩ :: s.members
        | .error _ => s.members }
  | .deregister id =>
    { s with
      channel := (s.channel.deregister id).2
      members := s.members.filter (·.id ≠ id) }
  | .notifyAll => { s with channel := s.channel.notifyAll }

def run (s : Registry ω) (calls : List (Call ω)) : Registry ω := calls.foldl perform s

end Registry

end Framecast
