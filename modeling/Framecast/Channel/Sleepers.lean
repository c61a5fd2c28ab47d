/-!
How callers go to sleep on a word and are woken. A caller is counted before it sleeps and sleeps
only while the word is still the one it observed; a notifier moves the word on, and then wakes the
sleepers if the count is not zero.
-/

set_option autoImplicit false

namespace Framecast

namespace Sleepers

inductive Waiter where
  | awake
  -- found the epoch it had observed; about to be counted
  | agreed (observed : UInt32)
  -- about to sleep unless the epoch has moved
  | counted (observed : UInt32)
  | asleep (observed : UInt32)
  -- woken, timed out or interrupted; about to be taken off the count
  | roused
  deriving DecidableEq, Repr

inductive Notifier where
  | idle
  -- moved the epoch on; about to look at the count
  | moved
  -- about to wake all who sleep
  | waking
  deriving DecidableEq, Repr

inductive Move where
  | compare (waiter : Nat) (observed : UInt32)
  | count (waiter : Nat)
  | sleep (waiter : Nat)
  -- a timeout or a signal
  | rouse (waiter : Nat)
  | uncount (waiter : Nat)
  | advance (notifier : Nat)
  | load (notifier : Nat)
  | wake (notifier : Nat)
  deriving DecidableEq, Repr

def Waiter.isCounted : Waiter → Bool
  | .counted _ | .asleep _ | .roused => true
  | .awake | .agreed _ => false

def Waiter.woken : Waiter → Waiter
  | .asleep _ => .roused
  | w => w

end Sleepers

structure Sleepers where
  epoch : UInt32 := 0
  count : UInt32 := 0
  waiters : List Sleepers.Waiter
  notifiers : List Sleepers.Notifier
  deriving DecidableEq, Repr

namespace Sleepers

def start (waiters notifiers : Nat) : Sleepers :=
  { waiters := List.replicate waiters .awake, notifiers := List.replicate notifiers .idle }

def setWaiter (s : Sleepers) (i : Nat) (w : Waiter) : Sleepers :=
  { s with waiters := s.waiters.set i w }

def setNotifier (s : Sleepers) (i : Nat) (n : Notifier) : Sleepers :=
  { s with notifiers := s.notifiers.set i n }

/-- One step of one caller; `none` if the caller cannot make it now. -/
def step (s : Sleepers) : Move → Option Sleepers
  | .compare i observed =>
    match s.waiters[i]? with
    | some .awake => some (if s.epoch = observed then s.setWaiter i (.agreed observed) else s)
    | _ => none
  | .count i =>
    match s.waiters[i]? with
    | some (.agreed observed) =>
      some ({ s with count := s.count + 1 }.setWaiter i (.counted observed))
    | _ => none
  | .sleep i =>
    match s.waiters[i]? with
    | some (.counted observed) =>
      some (s.setWaiter i (if s.epoch = observed then .asleep observed else .roused))
    | _ => none
  | .rouse i =>
    match s.waiters[i]? with
    | some (.asleep _) => some (s.setWaiter i .roused)
    | _ => none
  | .uncount i =>
    match s.waiters[i]? with
    | some .roused => some ({ s with count := s.count - 1 }.setWaiter i .awake)
    | _ => none
  | .advance j =>
    match s.notifiers[j]? with
    | some .idle => some ({ s with epoch := s.epoch + 1 }.setNotifier j .moved)
    | _ => none
  | .load j =>
    match s.notifiers[j]? with
    | some .moved => some (s.setNotifier j (if 0 < s.count then .waking else .idle))
    | _ => none
  | .wake j =>
    match s.notifiers[j]? with
    | some .waking =>
      some ({ s with waiters := s.waiters.map Waiter.woken }.setNotifier j .idle)
    | _ => none

def run (s : Sleepers) : List Move → Option Sleepers
  | [] => some s
  | m :: ms => (s.step m).bind fun t => t.run ms

end Sleepers

end Framecast
