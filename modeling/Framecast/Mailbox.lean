import Framecast.Frame.Basic

/-!
A mailbox for one frame. A newer frame displaces an older one, each frame is taken by one taker,
and a closed mailbox takes nothing in.
-/

set_option autoImplicit false

namespace Framecast

def noSeq : UInt64 := 0xFFFFFFFFFFFFFFFF

structure Mailbox where
  frame : Option Frame := none
  -- tells takers that a frame is stored without their opening the mailbox
  ready : Bool := false
  closed : Bool := false
  -- the number of the last frame let in
  lastSeq : UInt64 := noSeq
  deriving DecidableEq, Repr

namespace Mailbox

structure Refused where
  frame : Frame
  deriving DecidableEq, Repr

def Refused.message (_ : Refused) : String := "slot is closed"

/-- Stores `f` and gives the frame it displaced. -/
def publish (m : Mailbox) (f : Frame) : Except Refused (Option Frame) × Mailbox :=
  if m.closed then (.error ⟨f⟩, m)
  else (.ok m.frame, { m with frame := some f, ready := true, lastSeq := f.seq })

def swapOut (m : Mailbox) : Option Frame × Mailbox :=
  (m.frame, { m with frame := none, ready := false })

/-- Looks at the sign first, and opens the mailbox only if it says that a frame is there. -/
def tryTake (m : Mailbox) : Option Frame × Mailbox :=
  if m.ready then m.swapOut else (none, m)

-- closes for good; gives the frame that nobody took
def close (m : Mailbox) : Option Frame × Mailbox :=
  (m.frame, { m with frame := none, ready := false, closed := true })

def describe (m : Mailbox) : String :=
  Record.text "SharedFrameSlot"
    [("ready", Record.flag m.ready),
     ("closed", Record.flag m.closed),
     ("last_seq", Numeral.decimal m.lastSeq.toNat)]

theorem publish_closed {m : Mailbox} (h : m.closed = true) (f : Frame) :
    m.publish f = (.error ⟨f⟩, m) := by
  simp [publish, h]

theorem publish_open {m : Mailbox} (h : m.closed = false) (f : Frame) :
    m.publish f =
      (.ok m.frame, { m with frame := some f, ready := true, lastSeq := f.seq }) := by
  simp [publish, h]

/-- The sign tells the truth. -/
def Honest (m : Mailbox) : Prop := m.ready = m.frame.isSome

end Mailbox

end Framecast
