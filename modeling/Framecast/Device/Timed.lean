import Framecast.Device.Reader
import Framecast.Frame.Picture
import Framecast.Timer

set_option autoImplicit false

namespace Framecast

namespace Device

def Kind.depicts (kind : Kind) (f : Frame) : Bool :=
  match kind with
  | .simple _ => true
  | .frames g p _ => p.picture g f.seq == some f.data

structure Timed (ω : Type) where
  device : Device ω
  timer : Option Timer
  now : Nat := 0
  deriving DecidableEq, Repr

namespace Timed

variable {ω : Type}

def ofDevice (d : Device ω) : Timed ω :=
  { device := d
    timer :=
      match d.kind with
      | .frames _ _ (some period) => some (Timer.start period.count.toNat 0)
      | _ => none }

def due? (t : Timed ω) (limit : Nat) : Option Nat :=
  t.timer.bind fun timer =>
    if timer.phase = .asleep ∧ timer.deadline ≤ limit then some timer.deadline else none

def tickAt (t : Timed ω) (time : Nat) : Timed ω :=
  let (r, d) := t.device.fire
  let closed := match r with
    | .ok _ => false
    | .error _ => true
  { device := d
    timer := t.timer.map fun timer => timer.run [.wake false time, .ticked closed time]
    now := time }

/-- A blocking call that ends at `limit` at the latest; each tick on the way takes some fuel. -/
def takeBy (limit : Nat) :
    Nat → Reader → Timed ω → Except ReadError Taken × Reader × Timed ω
  | 0, r, t =>
    let (result, d) := Reader.expire t.device
    (result, r, { t with device := d, now := limit })
  | fuel + 1, r, t =>
    match t.device.take r (.blocking none) with
    | (.done result, r, d) => (result, r, { t with device := d })
    | (.suspended _, r, d) =>
      let t := { t with device := d }
      match t.due? limit with
      | some time => takeBy limit fuel r (t.tickAt time)
      | none =>
        let (result, d) := Reader.expire t.device
        (result, r, { t with device := d, now := limit })

-- takes a frame within `timeout`; there is at most one tick in each millisecond
def take (t : Timed ω) (r : Reader) (timeout : Nat) :
    Except ReadError Taken × Reader × Timed ω :=
  takeBy (t.now + timeout) (timeout + 2) r t

def takes (timeout : Nat) : Nat → Reader → Timed ω → List (Except ReadError Taken) × Timed ω
  | 0, _, t => ([], t)
  | n + 1, r, t =>
    let (result, r, t) := t.take r timeout
    let d := match result with
      | .ok (.frame f) => t.device.drop f
      | _ => t.device
    let (results, t) := takes timeout n r { t with device := d }
    (result :: results, t)

def close (t : Timed ω) : Timed ω :=
  { t with
    timer := t.timer.map fun timer => timer.step (.wake true t.now)
    device := t.device.close }

end Timed

structure Showing where
  takes : List (Except ReadError Taken)
  -- the numbers of the frames that were taken rise
  increasing : Bool
  -- each frame that was taken shows the picture of its number
  intact : Bool
  producedAny : Bool
  failedAny : Bool
  -- nothing is counted any more once the device is closed
  stopped : Bool
  blockingTake : Progress Taken
  nonblockingTake : Progress Taken
  poll : PollEvents
  fire : Except Error Fired

def rising : List UInt64 → Bool
  | a :: b :: rest => decide (a < b) && rising (b :: rest)
  | _ => true

def framesOf (results : List (Except ReadError Taken)) : List Frame :=
  results.filterMap fun
    | .ok (.frame f) => some f
    | _ => none

/-- Lets the device run while `takes` frames are taken, then closes it twice. -/
def observe {ω : Type} (d : Device ω) (takes timeout : Nat) : Showing :=
  let (results, t) := Timed.takes timeout takes {} (Timed.ofDevice d)
  let frames := framesOf results
  let closed := t.close
  let after := closed.close
  let (first, r, d₁) := after.device.take {} (.blocking none)
  let (second, _, d₂) := d₁.take r .nonblocking
  { takes := results
    increasing := rising (frames.map (·.seq))
    intact := frames.all d.kind.depicts
    producedAny := decide (closed.device.produced ≠ 0)
    failedAny := decide (closed.device.failures ≠ 0)
    stopped := closed.device.produced == after.device.produced &&
      closed.device.failures == after.device.failures
    blockingTake := first
    nonblockingTake := second
    poll := d₂.poll (PollEvents.readable.union .writable)
    fire := d₂.fire.1 }

end Device

end Framecast
