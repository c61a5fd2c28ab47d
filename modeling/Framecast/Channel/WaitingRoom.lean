import Framecast.Channel.Basic
import Framecast.Text.Numeral
import Framecast.Text.Record

set_option autoImplicit false

namespace Framecast

structure WaitingRoom (ω : Type) where
  channel : Channel ω := {}
  -- how many callers are suspended; a word, so it would wrap
  sleepers : UInt32 := 0
  -- the epoch each suspended caller observed
  waiting : List UInt32 := []
  deriving DecidableEq, Repr

namespace WaitingRoom

variable {ω : Type}

-- what a caller that observed `epoch` meets: a moved epoch before a passed deadline
inductive Entry where
  | done (result : WaitResult)
  | suspended
  deriving DecidableEq, Repr

def entry (c : Channel ω) (observed : UInt32) (timed : Bool) : Entry :=
  if c.epoch ≠ observed then .done .woken
  else if timed then .done .timedOut
  else .suspended

def wait (r : WaitingRoom ω) (observed : UInt32) (timed : Bool) : Entry × WaitingRoom ω :=
  match entry r.channel observed timed with
  | .done w => (.done w, r)
  | .suspended =>
    (.suspended,
      { r with
        sleepers := r.sleepers + 1
        waiting := r.waiting ++ [observed] })

def notifyAll (r : WaitingRoom ω) : List WaitResult × WaitingRoom ω :=
  (r.waiting.map fun _ => .woken,
    { channel := r.channel.notifyAll, sleepers := 0, waiting := [] })

def notifyTimes : Nat → WaitingRoom ω → List WaitResult × WaitingRoom ω
  | 0, r => ([], r)
  | n + 1, r =>
    let (first, r) := r.notifyAll
    let (rest, r) := notifyTimes n r
    (first ++ rest, r)

def interrupt (r : WaitingRoom ω) : Option WaitResult × WaitingRoom ω :=
  match r.waiting with
  | [] => (none, r)
  | _ :: rest =>
    (some .interrupted,
      { r with sleepers := r.sleepers - 1, waiting := rest })

def describe (r : WaitingRoom ω) : String :=
  Record.openText "NotificationChannel"
    [("epoch", Numeral.decimal r.channel.epoch.toNat),
     ("sleepers", Numeral.decimal r.sleepers.toNat)]

end WaitingRoom

end Framecast
