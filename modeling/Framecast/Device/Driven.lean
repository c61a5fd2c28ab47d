import Framecast.Device.Crowd
import Framecast.Device.Timed

/-!
A device among its callers, and the timer that makes its ticks. Whoever closes the device tells the
timer to stop and waits until it has; only then is the mailbox shut.
-/

set_option autoImplicit false

namespace Framecast.Device

structure Driven (ω : Type) where
  crowd : Crowd ω
  timer : Option Timer
  -- the call that the timer is in
  tick : Option Nat := none

namespace Driven

inductive Move (ω : Type) where
  | caller (m : Crowd.Move ω)
  -- the timer wakes up and makes no tick; it may be late to see that it is to stop
  | wake (stop : Bool) (now : Nat)
  | tick (now : Nat)
  -- the timer's tick is over
  | ticked (now : Nat)

variable {ω : Type}

def start (d : Device ω) (readers : Nat) : Driven ω :=
  { crowd := Crowd.start d readers, timer := (Timed.ofDevice d).timer }

def halted (p : Driven ω) : Bool := p.timer.all fun t => t.phase = .stopped

/-- Ticks are made by the timer alone, and the mailbox is not shut before the timer is done. -/
def allows (p : Driven ω) : Crowd.Move ω → Bool
  | .order .tick => false
  | .errand i =>
    match p.crowd.errands[i]? with
    | some .shutting => p.halted
    | _ => true
  | _ => true

def step (p : Driven ω) : Move ω → Option (Driven ω)
  | .caller m =>
    if p.allows m then (p.crowd.step m).map fun c => { p with crowd := c } else none
  | .wake stop now =>
    match p.timer with
    | none => none
    | some t =>
      if stop && !p.crowd.device.closing then none
      else
        let t := t.step (.wake stop now)
        if t.phase = .ticking then none else some { p with timer := some t }
  | .tick now =>
    match p.timer with
    | none => none
    | some t =>
      let t' := t.step (.wake false now)
      if t.phase = .asleep ∧ t'.phase = .ticking then
        (p.crowd.step (.order .tick)).map fun c =>
          { crowd := c, timer := some t', tick := some p.crowd.errands.length }
      else none
  | .ticked now =>
    match p.timer, p.tick.bind fun i => p.crowd.errands[i]? with
    | some t, some (.done result) =>
      some { p with timer := some (t.step (.ticked (!result.isOk) now)), tick := none }
    | _, _ => none

def run (p : Driven ω) : List (Move ω) → Option (Driven ω)
  | [] => some p
  | m :: ms => (p.step m).bind fun q => q.run ms

def Move.crowd? : Move ω → Option (Crowd.Move ω)
  | .caller m => some m
  | .tick _ => some (.order .tick)
  | _ => none

def crowdMoves (ms : List (Move ω)) : List (Crowd.Move ω) := ms.filterMap Move.crowd?

end Driven

end Framecast.Device
