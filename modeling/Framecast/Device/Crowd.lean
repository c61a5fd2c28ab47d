import Framecast.Device.Errand
import Framecast.Device.Reader

/-!
A device among many callers: calls that publish, close or cancel, and readers in their calls, each
of which makes its steps when it will. A step that notifies lets every suspended reader look again.
A step that the pool is not ready for is tried again later.
-/

set_option autoImplicit false

namespace Framecast.Device

inductive Order where
  -- of the device's own timer
  | tick
  | fire
  | write (memory : Nat) (data : Bytes)
  | close
  | cancel (reader : Nat)
  deriving DecidableEq, Repr

def Order.errand : Order → Errand
  | .tick => .popping
  | .fire => .firing
  | .write memory data => .offering memory data
  | .close => .closing
  | .cancel _ => .alerting

/-- A reader in a call. -/
structure Visit where
  reader : Nat
  mode : Mode
  -- the buffer of a read; a call that takes the frame itself has none
  buffer : Option Bytes := none
  phase : Reader.Phase := .looking
  -- how many notifications there were since it read the epoch
  notices : Nat := 0

-- what a read brought: the number of the frame, how much of it was copied, and the buffer
structure Reading where
  seq : UInt64
  count : Nat
  buffer : Bytes
  deriving DecidableEq, Repr

structure Crowd (ω : Type) where
  device : Device ω
  readers : List Reader := []
  errands : List Errand := []
  visits : List Visit := []
  -- frames in the hands of readers
  held : List Frame := []
  -- payloads that were taken out of their frames for good
  detached : List Bytes := []
  -- what was read so far
  readings : List Reading := []
  -- the numbers that writes were given, each with all that was to be written
  numbered : List (UInt64 × Bytes) := []

namespace Visit

def start (reader : Nat) (mode : Mode) (buffer : Option Bytes) : Visit :=
  { reader := reader
    mode := mode
    buffer := buffer
    phase := if buffer = some [] then .done (.error .fault) else .looking }

def moveTo (v : Visit) (p : Reader.Phase) : Visit :=
  { v with
    phase := p
    notices := match v.phase with
      | .looking => 0
      | _ => v.notices }

def roused (v : Visit) : Visit := { v with phase := v.phase.roused, notices := v.notices + 1 }

end Visit

namespace Crowd

def start {ω : Type} (d : Device ω) (readers : Nat) : Crowd ω :=
  { device := d, readers := List.replicate readers {} }

inductive Move (ω : Type) where
  | order (o : Order)
  | errand (i : Nat)
  -- a reader begins to take a frame, or to read one into a buffer
  | visit (reader : Nat) (mode : Mode) (buffer : Option Bytes)
  | advance (i : Nat)
  -- a signal hits a suspended reader
  | signal (i : Nat)
  -- the time of a suspended reader is up
  | expire (i : Nat)
  | leave (i : Nat)
  | drop (k : Nat)
  | detach (k : Nat)
  | reset (reader : Nat)
  | register (waker : ω)
  | deregister (id : UInt64)

variable {ω : Type}

def rouse (c : Crowd ω) : Crowd ω :=
  { c with visits := c.visits.map Visit.roused }

def addErrand (c : Crowd ω) (e : Errand) : Crowd ω := { c with errands := c.errands ++ [e] }

def undertake (c : Crowd ω) : Order → Option (Crowd ω)
  | .cancel r =>
    match c.readers[r]? with
    | none => none
    | some reader =>
      some ({ c with readers := c.readers.set r { reader with cancelled := true } }.addErrand
        (Order.cancel r).errand)
  | o => some (c.addErrand o.errand)

/-- Call `i`, which is at `e`, makes its next step. -/
def perform (c : Crowd ω) (i : Nat) (e : Errand) : Crowd ω :=
  let (e', d) := Errand.step (e, c.device)
  let c :=
    { c with
      errands := c.errands.set i e'
      device := d
      numbered := c.numbered ++ e.label c.device }
  if e.notifies then c.rouse else c

def stepErrand (c : Crowd ω) (i : Nat) : Option (Crowd ω) :=
  match c.errands[i]? with
  | none => none
  | some e => if e.stalls c.device then none else some (c.perform i e)

-- readers that were not there before have not been asked to give up
def reader (c : Crowd ω) (r : Nat) : Reader := c.readers[r]?.getD {}

def setPhase (c : Crowd ω) (i : Nat) (v : Visit) (p : Reader.Phase) : Crowd ω :=
  { c with visits := c.visits.set i (v.moveTo p) }

def stepVisit (c : Crowd ω) (i : Nat) : Option (Crowd ω) :=
  match c.visits[i]? with
  | none => none
  | some v =>
    let (p, r, d) := Reader.advance v.mode (v.phase, c.reader v.reader, c.device)
    some { c.setPhase i v p with readers := c.readers.set v.reader r, device := d }

def signal (c : Crowd ω) (i : Nat) : Option (Crowd ω) :=
  match c.visits[i]? with
  | some v =>
    match v.phase with
    | .suspended _ => some (c.setPhase i v (.done (.error .interrupted)))
    | _ => none
  | none => none

def expire (c : Crowd ω) (i : Nat) : Option (Crowd ω) :=
  match c.visits[i]? with
  | some v =>
    match v.phase, v.mode with
    | .suspended _, .blocking (some _) =>
      let (r, d) := Reader.expire c.device
      some { c.setPhase i v (.done r) with device := d }
    | _, _ => none
  | none => none

-- a read copies its frame, which it has yet to drop
def copyOut (c : Crowd ω) (f : Frame) (buffer : Bytes) : Crowd ω :=
  { c with
    readings := c.readings ++ [⟨f.seq, (f.copyTo buffer).1, (f.copyTo buffer).2⟩]
    errands := c.errands ++ [.releasing f] }

/-- A reader leaves with what it got: the frame, or what it copied of it. -/
def leave (c : Crowd ω) (i : Nat) : Option (Crowd ω) :=
  match c.visits[i]? with
  | some v =>
    match v.phase with
    | .done (.ok (.frame f)) =>
      let c := { c with visits := c.visits.eraseIdx i }
      match v.buffer with
      | none => some { c with held := c.held ++ [f] }
      | some buffer => some (c.copyOut f buffer)
    | .done _ => some { c with visits := c.visits.eraseIdx i }
    | _ => none
  | none => none

def step (c : Crowd ω) : Move ω → Option (Crowd ω)
  | .order o => c.undertake o
  | .errand i => c.stepErrand i
  | .visit r mode buffer =>
    if r < c.readers.length then
      some { c with visits := c.visits ++ [Visit.start r mode buffer] }
    else none
  | .advance i => c.stepVisit i
  | .signal i => c.signal i
  | .expire i => c.expire i
  | .leave i => c.leave i
  | .drop k =>
    match c.held[k]? with
    | some f =>
      if f.loan.any c.device.stalls then none
      else some { c with held := c.held.eraseIdx k, device := c.device.drop f }
    | none => none
  | .detach k =>
    match c.held[k]? with
    | some f =>
      some
        { c with
          held := c.held.eraseIdx k
          detached := c.detached ++ f.loan }
    | none => none
  | .reset r => some { c with readers := c.readers.set r (c.reader r).reset }
  | .register w =>
    some { c with device := { c.device with channel := (c.device.channel.register w).2 } }
  | .deregister id =>
    some { c with device := { c.device with channel := (c.device.channel.deregister id).2 } }

def run (c : Crowd ω) : List (Move ω) → Option (Crowd ω)
  | [] => some c
  | m :: ms => (c.step m).bind fun d => d.run ms

end Crowd

end Framecast.Device
