import Framecast.Text.Record

/-!
A lock that serves its callers in the order in which they drew tickets. Tickets are 32-bit words
and wrap.
-/

set_option autoImplicit false

namespace Framecast

structure TicketLock (α : Type) where
  next : UInt32 := 0
  serving : UInt32 := 0
  value : α
  deriving Repr

namespace TicketLock

variable {α : Type}

def new (value : α) : TicketLock α := { value := value }

def draw (l : TicketLock α) : UInt32 × TicketLock α := (l.next, { l with next := l.next + 1 })

def serves (l : TicketLock α) (ticket : UInt32) : Bool := l.serving == ticket

def update (l : TicketLock α) (f : α → α) : TicketLock α := { l with value := f l.value }

def release (l : TicketLock α) : TicketLock α := { l with serving := l.serving + 1 }

def locked (l : TicketLock α) : Bool := l.serving != l.next

def modify (l : TicketLock α) (f : α → α) : TicketLock α := (l.draw.2.update f).release

def describe (l : TicketLock α) : String :=
  Record.openText "SpinLock" [("locked", Record.flag l.locked)]

inductive Stage (α : Type) where
  | away
  | waiting (ticket : UInt32)
  -- with the value it has seen and may now replace
  | inside (ticket : UInt32) (seen : Option α)
  deriving DecidableEq, Repr

namespace Stage

def ticket? : Stage α → Option UInt32
  | .away => none
  | .waiting t | .inside t _ => some t

def isInside : Stage α → Bool
  | .away | .waiting _ => false
  | .inside .. => true

end Stage

structure Crowd (α : Type) where
  lock : TicketLock α
  stage : Nat → Stage α := fun _ => .away

/-- An update is two moves: the value is loaded, and what is made of it is stored. -/
inductive Move (α : Type) where
  | draw (caller : Nat)
  | enter (caller : Nat)
  | load (caller : Nat)
  | store (caller : Nat) (f : α → α)
  | release (caller : Nat)

namespace Crowd

-- nobody calls, and the tickets have come to `first`; a new lock begins with zero
def free (first : UInt32) (value : α) : Crowd α :=
  { lock := { next := first, serving := first, value := value } }

example (value : α) : (free 0 value).lock = new value := rfl

def put (c : Crowd α) (caller : Nat) (s : Stage α) : Crowd α :=
  { c with stage := fun i => if i = caller then s else c.stage i }

def step (c : Crowd α) : Move α → Option (Crowd α)
  | .draw i =>
    match c.stage i with
    | .away => some ({ c with lock := c.lock.draw.2 }.put i (.waiting c.lock.draw.1))
    | _ => none
  | .enter i =>
    match c.stage i with
    | .waiting t => if c.lock.serves t then some (c.put i (.inside t none)) else none
    | _ => none
  | .load i =>
    match c.stage i with
    | .inside t _ => some (c.put i (.inside t (some c.lock.value)))
    | _ => none
  | .store i f =>
    match c.stage i with
    | .inside t (some v) =>
      some ({ c with lock := c.lock.update fun _ => f v }.put i (.inside t none))
    | _ => none
  | .release i =>
    match c.stage i with
    | .inside .. => some ({ c with lock := c.lock.release }.put i .away)
    | _ => none

def run (c : Crowd α) : List (Move α) → Option (Crowd α)
  | [] => some c
  | m :: ms => (c.step m).bind fun d => d.run ms

end Crowd

end TicketLock

end Framecast
