import Framecast.Device.Basic
import Framecast.Device.PollEvents

set_option autoImplicit false

namespace Framecast

namespace Device

structure Reader where
  -- asked to give up the call it is in, or its next one
  cancelled : Bool := false
  deriving DecidableEq, Repr

inductive Mode where
  | nonblocking
  | blocking (timeout : Option Millis)
  deriving DecidableEq, Repr

inductive ReadError where
  | wouldBlock
  | interrupted
  | timedOut
  -- the buffer to read into is empty
  | fault
  deriving DecidableEq, Repr

def ReadError.message : ReadError → String
  | .wouldBlock => "no frame ready"
  | .interrupted => "read interrupted"
  | .timedOut => "timed out waiting for a frame"
  | .fault => "destination buffer is empty"

inductive Taken where
  | frame (f : Frame)
  -- the device is closed, and no frame is left
  | endOfStream
  deriving DecidableEq, Repr

namespace Reader

inductive Phase where
  -- about to read the epoch
  | looking
  -- about to try the mailbox
  | observed (epoch : UInt32)
  -- found no frame; about to ask whether the device is closed
  | missed (epoch : UInt32)
  -- about to look at its cancellation
  | undeterred (epoch : UInt32)
  -- about to suspend unless the epoch has moved
  | resigned (epoch : UInt32)
  | suspended (epoch : UInt32)
  | done (result : Except ReadError Taken)

def Phase.roused : Phase → Phase
  | .suspended _ => .looking
  | p => p

variable {ω : Type}

/-- The next step of a reader; one that is suspended or done makes none. -/
def advance (mode : Mode) : Phase × Reader × Device ω → Phase × Reader × Device ω
  | (.looking, r, d) => (.observed d.channel.epoch, r, d)
  | (.observed e, r, d) =>
    match d.collect, mode with
    | (some f, d), _ => (.done (.ok (.frame f)), r, d)
    | (none, d), .nonblocking => (.done (.error .wouldBlock), r, d)
    | (none, d), .blocking _ => (.missed e, r, d)
  | (.missed e, r, d) =>
    if d.mailbox.closed then (.done (.ok .endOfStream), r, d) else (.undeterred e, r, d)
  | (.undeterred e, r, d) =>
    if r.cancelled then (.done (.error .interrupted), { r with cancelled := false }, d)
    else (.resigned e, r, d)
  | (.resigned e, r, d) =>
    if d.channel.epoch = e then (.suspended e, r, d) else (.looking, r, d)
  | (.suspended e, r, d) => (.suspended e, r, d)
  | (.done result, r, d) => (.done result, r, d)

/-- The steps of a reader that is not disturbed: in the end it is suspended or done. -/
def attempt (mode : Mode) (r : Reader) (d : Device ω) : Phase × Reader × Device ω :=
  advance mode (advance mode (advance mode (advance mode (advance mode (.looking, r, d)))))

theorem channel_collect (d : Device ω) : d.collect.2.channel = d.channel := rfl

theorem attempt_eq (mode : Mode) (r : Reader) (d : Device ω) :
    attempt mode r d =
      match d.collect, mode with
      | (some f, d), _ => (.done (.ok (.frame f)), r, d)
      | (none, d), .nonblocking => (.done (.error .wouldBlock), r, d)
      | (none, d), .blocking _ =>
        if d.mailbox.closed then (.done (.ok .endOfStream), r, d)
        else if r.cancelled then (.done (.error .interrupted), { r with cancelled := false }, d)
        else (.suspended d.channel.epoch, r, d) := by
  have epoch := channel_collect d
  cases hd : d.collect with
  | mk found after =>
    rw [hd] at epoch
    cases found with
    | some f => simp [attempt, advance, hd]
    | none =>
      cases mode with
      | nonblocking => simp [attempt, advance, hd]
      | blocking timeout =>
        simp only [attempt, advance, hd]
        cases after.mailbox.closed with
        | true => simp
        | false => cases hr : r.cancelled <;> simp_all

-- the last look into the mailbox after the time is up
def expire (d : Device ω) : Except ReadError Taken × Device ω :=
  match d.collect with
  | (some f, d) => (.ok (.frame f), d)
  | (none, d) => (.error .timedOut, d)

end Reader

inductive Progress (α : Type) where
  | done (result : Except ReadError α)
  -- it waits until the epoch is another one
  | suspended (epoch : UInt32)

variable {ω : Type}

/-- Takes the next frame; a call with a timeout that would be suspended runs out of time. -/
def take (d : Device ω) (r : Reader) (mode : Mode) : Progress Taken × Reader × Device ω :=
  match r.attempt mode d, mode with
  | (.done result, r, d), _ => (.done result, r, d)
  | (_, r, d), .blocking (some _) =>
    let (result, d) := Reader.expire d
    (.done result, r, d)
  | (_, r, d), _ => (.suspended d.channel.epoch, r, d)

def unload (d : Device ω) (buffer : Bytes) : Taken → (Nat × Bytes) × Device ω
  | .frame f => (f.copyTo buffer, d.drop f)
  | .endOfStream => ((0, buffer), d)

/--
Reads the next frame into `buffer`; gives the number of bytes copied, which is zero at the end of
the stream, and the buffer.
-/
def read (d : Device ω) (r : Reader) (buffer : Bytes) (mode : Mode) :
    Progress (Nat × Bytes) × Reader × Device ω :=
  if buffer.isEmpty then (.done (.error .fault), r, d)
  else
    match d.take r mode with
    | (.done (.ok taken), r, d) =>
      let (result, d) := d.unload buffer taken
      (.done (.ok result), r, d)
    | (.done (.error e), r, d) => (.done (.error e), r, d)
    | (.suspended e, r, d) => (.suspended e, r, d)

def cancel (d : Device ω) (r : Reader) : Reader × Device ω :=
  ({ r with cancelled := true }, d.notify)

def Reader.reset (r : Reader) : Reader := { r with cancelled := false }

/-- The events among `interest` that hold now. Being closed is told without being asked for. -/
def poll (d : Device ω) (interest : PollEvents) : PollEvents :=
  ((PollEvents.only (interest.contains .readable && d.mailbox.ready) .readable).union
      (.only (interest.contains .writable) .writable)).union
    (.only d.mailbox.closed .hangup)

end Device

end Framecast
