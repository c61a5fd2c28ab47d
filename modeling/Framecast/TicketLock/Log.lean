import Framecast.TicketLock

set_option autoImplicit false

namespace Framecast.TicketLock

variable {α : Type}

structure Log (α : Type) where
  -- callers
  drawn : List Nat := []
  entered : List Nat := []
  left : List Nat := []
  -- updates
  stores : List (α → α) := []
  -- which ticket a caller drew last
  turn : Nat → Nat := fun _ => 0
  -- the updates made under each ticket
  sections : List (List (α → α)) := []

namespace Log

def note (g : Log α) : Move α → Log α
  | .draw i =>
    { g with
      drawn := g.drawn ++ [i]
      turn := fun j => if j = i then g.drawn.length else g.turn j
      sections := g.sections ++ [[]] }
  | .enter i => { g with entered := g.entered ++ [i] }
  | .load _ => g
  | .store i f =>
    { g with
      stores := g.stores ++ [f]
      sections := g.sections.modify (g.turn i) (· ++ [f]) }
  | .release i => { g with left := g.left ++ [i] }

def outstanding (g : Log α) : Nat := g.drawn.length - g.left.length

end Log

def log (ms : List (Move α)) : Log α := ms.foldl Log.note {}

def perform (fs : List (α → α)) (v : α) : α := fs.foldl (fun v f => f v) v

end Framecast.TicketLock
