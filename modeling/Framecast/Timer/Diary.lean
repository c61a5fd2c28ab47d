import Framecast.Timer

set_option autoImplicit false

namespace Framecast.Timer

def Event.now : Event → Nat
  | .wake _ now => now
  | .ticked _ now => now

structure Diary where
  timer : Timer
  -- every deadline the timer was set to, the one it is set to last
  deadlines : List Nat
  begun : List Nat := []
  -- the ticks after which the timer was set again
  ended : List Nat := []
  deriving DecidableEq, Repr

namespace Diary

def start (period now : Nat) : Diary :=
  { timer := Timer.start period now, deadlines := [now + period] }

def step (d : Diary) (e : Event) : Diary :=
  let t := d.timer.step e
  if d.timer.phase = .asleep ∧ t.phase = .ticking then
    { d with timer := t, begun := d.begun ++ [e.now] }
  else if d.timer.phase = .ticking ∧ t.phase = .asleep then
    { d with timer := t, ended := d.ended ++ [e.now], deadlines := d.deadlines ++ [t.deadline] }
  else { d with timer := t }

def run (d : Diary) (es : List Event) : Diary := es.foldl step d

end Diary

end Framecast.Timer
