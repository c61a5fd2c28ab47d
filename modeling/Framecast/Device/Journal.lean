import Framecast.Device.Reader

/-!
A journal of a device. Calls are made on it one after the other, by its timer, by those who publish
or close and by its readers, and each call is written down when it comes to its end. A reader that
has to wait goes on with its call after a notification.
-/

set_option autoImplicit false

namespace Framecast.Device

structure Sleeper where
  reader : Nat
  mode : Mode
  -- the buffer of a read; a call that takes the frame itself has none
  buffer : Option Bytes
  epoch : UInt32
  deriving DecidableEq, Repr

/-- A call that is over; `before` is the number of the frame that it found in the mailbox. -/
inductive Entry where
  | fired (result : Except Error Fired) (before : Option UInt64)
  -- `seq` is the number of the frame if there is one
  | wrote (result : Except Error Nat) (seq : UInt64) (before : Option UInt64)
  -- a reader took a frame, or read it into its buffer, or got none
  | took (result : Except ReadError Taken)
  | polled (events : PollEvents)
  | cancelled
  | reset
  | closed (before : Option UInt64)

structure Journal (ω : Type) where
  device : Device ω
  readers : List Reader := []
  sleepers : List Sleeper := []
  -- frames in the hands of readers
  held : List Frame := []
  -- the oldest first
  entries : List Entry := []

def slot? {ω : Type} (d : Device ω) : Option UInt64 := d.mailbox.frame.map Frame.seq

namespace Journal

inductive Call where
  -- of the device's own timer
  | tick
  | fire
  | write (memory : Nat) (data : Bytes)
  -- a reader begins to take a frame, or to read one into a buffer
  | take (reader : Nat) (mode : Mode) (buffer : Option Bytes)
  -- a reader that waits is woken by a notification
  | wake (i : Nat)
  -- the time of a reader that waits is up
  | expire (i : Nat)
  -- a signal hits a reader that waits
  | signal (i : Nat)
  | poll (interest : PollEvents)
  | cancel (reader : Nat)
  | reset (reader : Nat)
  | close
  | drop (k : Nat)
  -- the payload of a frame is kept for good
  | detach (k : Nat)
  deriving DecidableEq, Repr

variable {ω : Type}

def start (d : Device ω) (readers : Nat) : Journal ω :=
  { device := d, readers := List.replicate readers {} }

def note (j : Journal ω) (e : Entry) (d : Device ω) : Journal ω :=
  { j with device := d, entries := j.entries ++ [e] }

-- a call of a reader is over; a frame that was read is dropped, one that was taken is held
def bring (j : Journal ω) (buffer : Option Bytes) (result : Except ReadError Taken)
    (d : Device ω) : Journal ω :=
  let j := j.note (.took result) d
  match result, buffer with
  | .ok (.frame f), none => { j with held := j.held ++ [f] }
  | .ok taken, some buffer => { j with device := (d.unload buffer taken).2 }
  | _, _ => j

def reader (j : Journal ω) (r : Nat) : Reader := j.readers[r]?.getD {}

def setReader (j : Journal ω) (r : Nat) (reader : Reader) : Journal ω :=
  { j with readers := j.readers.set r reader }

-- a reader looks for a frame until it has its answer or has to wait
def attempt (j : Journal ω) (r : Nat) (mode : Mode) (buffer : Option Bytes) : Journal ω :=
  match Reader.attempt mode (j.reader r) j.device with
  | (.done result, reader, d) => (j.setReader r reader).bring buffer result d
  | (.suspended epoch, reader, d) =>
    let j := j.setReader r reader
    { j with device := d, sleepers := j.sleepers ++ [⟨r, mode, buffer, epoch⟩] }
  | _ => j

def withoutSleeper (j : Journal ω) (i : Nat) : Journal ω :=
  { j with sleepers := j.sleepers.eraseIdx i }

/-- The timer is there as long as nobody has begun to close the device. -/
def tick (j : Journal ω) : Option (Journal ω) :=
  match j.device.kind with
  | .frames g p (some _) =>
    if j.device.closing then none
    else
      let (r, d) := j.device.tick g p
      some (j.note (.fired r j.device.slot?) d)
  | _ => none

def resume (j : Journal ω) (i : Nat) (event : WaitResult) : Option (Journal ω) :=
  match j.sleepers[i]? with
  | none => none
  | some w =>
    let k := j.withoutSleeper i
    match event, w.mode with
    | .woken, _ =>
      if j.device.channel.epoch = w.epoch then none else some (k.attempt w.reader w.mode w.buffer)
    | .timedOut, .blocking (some _) =>
      let (result, d) := Reader.expire j.device
      some (k.bring w.buffer result d)
    | .timedOut, _ => none
    | .interrupted, _ => some (k.bring w.buffer (.error .interrupted) j.device)

def perform (j : Journal ω) : Call → Option (Journal ω)
  | .tick => j.tick
  | .fire =>
    let (r, d) := j.device.fire
    some (j.note (.fired r j.device.slot?) d)
  | .write memory data =>
    let (r, d) := j.device.write memory data
    some (j.note (.wrote r j.device.nextSeq j.device.slot?) d)
  | .take r mode buffer =>
    if buffer = some [] then some (j.note (.took (.error .fault)) j.device)
    else some (j.attempt r mode buffer)
  | .wake i => j.resume i .woken
  | .expire i => j.resume i .timedOut
  | .signal i => j.resume i .interrupted
  | .poll interest => some (j.note (.polled (j.device.poll interest)) j.device)
  | .cancel r =>
    let (reader, d) := j.device.cancel (j.reader r)
    some ((j.setReader r reader).note .cancelled d)
  | .reset r => some ((j.setReader r (j.reader r).reset).note .reset j.device)
  | .close => some (j.note (.closed j.device.slot?) j.device.close)
  | .drop k =>
    match j.held[k]? with
    | some f => some { j with held := j.held.eraseIdx k, device := j.device.drop f }
    | none => none
  | .detach k => if k < j.held.length then some { j with held := j.held.eraseIdx k } else none

def run (j : Journal ω) : List Call → Option (Journal ω)
  | [] => some j
  | c :: cs => (j.perform c).bind fun k => k.run cs

end Journal

end Framecast.Device
