set_option autoImplicit false

namespace Framecast

def producerName : String := "simcam-producer"

namespace Timer

inductive Phase where
  -- waiting for the deadline, or for somebody to wake the timer
  | asleep
  | ticking
  -- no tick follows any more
  | stopped
  deriving DecidableEq, Repr

inductive Event where
  -- the timer wakes up, looks at its stop flag and then at the clock
  | wake (stop : Bool) (now : Nat)
  -- the tick is over; `closed` tells that the device was closed under it
  | ticked (closed : Bool) (now : Nat)
  deriving DecidableEq, Repr

end Timer

structure Timer where
  period : Nat
  deadline : Nat
  phase : Timer.Phase := .asleep
  deriving DecidableEq, Repr

namespace Timer

def start (period now : Nat) : Timer := { period := period, deadline := now + period }

/-- The deadline after one at which a tick was made that was over at `now`. -/
def following (period deadline now : Nat) : Nat :=
  if deadline + period ≤ now then now + period else deadline + period

theorem now_lt_following {period deadline now : Nat} (h : 0 < period) :
    now < following period deadline now := by
  unfold following
  split <;> omega

theorem add_le_following (period deadline now : Nat) :
    deadline + period ≤ following period deadline now := by
  unfold following
  split <;> omega

def step (t : Timer) : Event → Timer
  | .wake stop now =>
    match t.phase with
    | .asleep =>
      if stop then { t with phase := .stopped }
      else if t.deadline ≤ now then { t with phase := .ticking }
      else t
    | _ => t
  | .ticked closed now =>
    match t.phase with
    | .ticking =>
      if closed then { t with phase := .stopped }
      else { t with phase := .asleep, deadline := following t.period t.deadline now }
    | _ => t

def run (t : Timer) (es : List Event) : Timer := es.foldl step t

end Timer

end Framecast
