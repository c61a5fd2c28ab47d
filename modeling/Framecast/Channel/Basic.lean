set_option autoImplicit false

namespace Framecast

structure Registration (ω : Type) where
  id : UInt64
  waker : ω
  deriving DecidableEq, Repr

abbrev WakerTable (ω : Type) := List (Option (Registration ω))

namespace WakerTable

variable {ω : Type}

def capacity : Nat := 16

def empty : WakerTable ω := List.replicate capacity none

def attach? (r : Registration ω) : WakerTable ω → Option (WakerTable ω)
  | [] => none
  | none :: cells => some (some r :: cells)
  | some s :: cells => (attach? r cells).map (some s :: ·)

def detach? (id : UInt64) : WakerTable ω → Option (WakerTable ω)
  | [] => none
  | none :: cells => (detach? id cells).map (none :: ·)
  | some s :: cells =>
    if s.id = id then some (none :: cells) else (detach? id cells).map (some s :: ·)

def attached (t : WakerTable ω) : List (Registration ω) := t.filterMap id

end WakerTable

structure WakerSlotsFull where
  deriving DecidableEq, Repr

def WakerSlotsFull.message (_ : WakerSlotsFull) : String :=
  "all external waker slots are in use"

structure Channel (ω : Type) where
  epoch : UInt32 := 0
  nextId : UInt64 := 0
  wakers : WakerTable ω := WakerTable.empty
  -- the wakers rung since they were last collected
  rung : List ω := []
  deriving DecidableEq, Repr

namespace Channel

variable {ω : Type}

def notifyAll (c : Channel ω) : Channel ω :=
  { c with
    epoch := c.epoch + 1
    rung := c.rung ++ c.wakers.attached.map (·.waker) }

/-- Attaches a waker. An attempt uses up an identifier even if there is no room. -/
def register (c : Channel ω) (w : ω) : Except WakerSlotsFull UInt64 × Channel ω :=
  let c' := { c with nextId := c.nextId + 1 }
  match c.wakers.attach? ⟨c.nextId, w⟩ with
  | some t => (.ok c.nextId, { c' with wakers := t })
  | none => (.error ⟨⟩, c')

def deregister (c : Channel ω) (id : UInt64) : Bool × Channel ω :=
  match c.wakers.detach? id with
  | some t => (true, { c with wakers := t })
  | none => (false, c)

def wakerCount (c : Channel ω) : Nat := c.wakers.attached.length

def collect (c : Channel ω) : List ω × Channel ω := (c.rung, { c with rung := [] })

end Channel

inductive WaitResult where
  | woken
  | timedOut
  | interrupted
  deriving DecidableEq, Repr

def WaitResult.name : WaitResult → String
  | .woken => "Woken"
  | .timedOut => "TimedOut"
  | .interrupted => "Interrupted"

end Framecast
