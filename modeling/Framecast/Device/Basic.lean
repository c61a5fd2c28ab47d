import Framecast.Channel.Basic
import Framecast.Device.Kind
import Framecast.Mailbox
import Framecast.Pool

set_option autoImplicit false

namespace Framecast

/-- `ω` is the type of wakers that can be attached. -/
structure Device (ω : Type) where
  kind : Device.Kind
  -- only a frame-producing device has a pool
  pool : Option Pool := none
  mailbox : Mailbox := {}
  channel : Channel ω := {}
  -- the number of the next frame
  nextSeq : UInt64 := 1
  -- how many frames were published
  produced : UInt64 := 0
  -- how many ticks brought no frame
  failures : UInt64 := 0
  -- whether someone has begun to close the device
  closing : Bool := false
  deriving DecidableEq, Repr

namespace Device

inductive Unfit where
  | emptyFrame
  | zeroPeriod
  | fewBuffers
  deriving DecidableEq, Repr

def Unfit.message : Unfit → String
  | .emptyFrame => "frame size must be non-zero"
  | .zeroPeriod => "producer period must be non-zero"
  | .fewBuffers => "at least two frame buffers are required"

inductive Error where
  | unfit (cause : Unfit)
  -- so many bytes of frame buffers are not to be had
  | exhausted (bytes : Nat)
  | notWritable
  | notProducing
  | closed
  deriving DecidableEq, Repr

def Error.message : Error → String
  | .unfit cause => "invalid device configuration: " ++ cause.message
  | .exhausted bytes => "failed to allocate " ++ Numeral.decimal bytes ++ " bytes of frame buffers"
  | .notWritable => "device does not accept writes"
  | .notProducing => "device has no frame producer"
  | .closed => "device is shut down"

def unfit? (kind : Kind) (buffers : UInt64) : Option Unfit :=
  if kind.frameSize = 0 then some .emptyFrame
  else
    match kind with
    | .simple _ => none
    | .frames _ _ period =>
      if period.any (·.count == 0) then some .zeroPeriod
      else if buffers < 2 then some .fewBuffers
      else none

theorem two_le_of_fit {g : Geometry} {p : Pattern} {period : Option Millis} {buffers : UInt64}
    (fit : unfit? (.frames g p period) buffers = none) : 2 ≤ buffers.toNat := by
  simp only [unfit?] at fit
  split at fit
  next => simp at fit
  next =>
    split at fit
    next => simp at fit
    next =>
      split at fit
      next => simp at fit
      next enough => exact Nat.le_of_not_lt enough

/--
The pool of a device. It has twice as many cells as buffers, so a buffer that comes back finds room.
-/
def poolFor (memory : Nat) (kind : Kind) (buffers : UInt64) : Except Pool.Fault (Option Pool) :=
  match kind with
  | .simple _ => .ok none
  | .frames .. =>
    some <$>
      Pool.withBuffers memory (Size.mul buffers.toNat 2) kind.frameSize buffers.toNat

-- opens a device on a machine that can reserve `memory` bytes in one piece
def openWith {ω : Type} (memory : Nat) (kind : Kind) (buffers : UInt64) :
    Except Error (Device ω) :=
  match unfit? kind buffers with
  | some cause => .error (.unfit cause)
  | none =>
    match poolFor memory kind buffers with
    | .error _ => .error (.exhausted (Size.mul kind.frameSize buffers.toNat))
    | .ok pool => .ok { kind := kind, pool := pool }

variable {ω : Type}

def frameSize (d : Device ω) : Nat := d.kind.frameSize

def number (d : Device ω) : UInt64 × Device ω :=
  (d.nextSeq, { d with nextSeq := d.nextSeq + 1 })

def popBuffer (d : Device ω) : Option (Bytes × Device ω) :=
  match d.pool.bind Pool.take? with
  | some (buffer, p) => some (buffer, { d with pool := some p })
  | none => none

def returnBuffer (d : Device ω) (buffer : Bytes) : Device ω :=
  { d with pool := d.pool.map (·.putBack buffer) }

-- whether whoever brings a buffer back has to try again
def stalls (d : Device ω) (buffer : Bytes) : Bool := d.pool.any (·.stalls buffer)

def drop (d : Device ω) (f : Frame) : Device ω :=
  if f.pooled then d.returnBuffer f.data else d

def dropAny (d : Device ω) : Option Frame → Device ω
  | some f => d.drop f
  | none => d

/-- Puts a frame into the mailbox and gives back the frame it displaced, or itself. -/
def deposit (d : Device ω) (f : Frame) :
    Except Mailbox.Refused (Option Frame) × Device ω :=
  let (r, m) := d.mailbox.publish f
  (r, { d with mailbox := m })

def collect (d : Device ω) : Option Frame × Device ω :=
  let (f, m) := d.mailbox.tryTake
  (f, { d with mailbox := m })

def shut (d : Device ω) : Option Frame × Device ω :=
  let (f, m) := d.mailbox.close
  (f, { d with mailbox := m })

def countFrame (d : Device ω) : Device ω := { d with produced := d.produced + 1 }

def countFailure (d : Device ω) : Device ω := { d with failures := d.failures + 1 }

def notify (d : Device ω) : Device ω := { d with channel := d.channel.notifyAll }

-- publishes a frame; the frame that it displaces, or a refused frame, is dropped
def publish (d : Device ω) (f : Frame) : Except Error Unit × Device ω :=
  match d.deposit f with
  | (.ok old, d) => (.ok (), ((d.dropAny old).countFrame).notify)
  | (.error refused, d) => (.error .closed, d.drop refused.frame)

inductive Fired where
  | published (seq : UInt64)
  -- there was no free buffer
  | noBuffer
  -- the picture could not be drawn; its number is used up
  | failed
  deriving DecidableEq, Repr

/-- A tick: draws the next picture into a free buffer and publishes it. -/
def tick (g : Geometry) (p : Pattern) (d : Device ω) : Except Error Fired × Device ω :=
  match d.popBuffer with
  | none => (.ok .noBuffer, d.countFailure)
  | some (buffer, d) =>
    let (seq, d) := d.number
    let drawing := p.draw g seq buffer
    match drawing.fault with
    | some _ => (.ok .failed, d.countFailure.returnBuffer drawing.buffer)
    | none =>
      match d.publish ⟨seq, drawing.buffer, true⟩ with
      | (.ok (), d) => (.ok (.published seq), d)
      | (.error e, d) => (.error e, d)

def fire (d : Device ω) : Except Error Fired × Device ω :=
  match d.kind with
  | .simple _ => (.error .notProducing, d)
  | .frames g p _ => if d.mailbox.closed then (.error .closed, d) else d.tick g p

/-- Publishes the front of `data` as a frame, unless it is empty; gives its length. The machine has
`memory` bytes left for it. -/
def write (d : Device ω) (memory : Nat) (data : Bytes) : Except Error Nat × Device ω :=
  match d.kind with
  | .frames .. => (.error .notWritable, d)
  | .simple capacity =>
    if d.mailbox.closed then (.error .closed, d)
    else
      let kept := data.take capacity.toNat
      if kept.isEmpty then (.ok 0, d)
      else
        match Pool.allocate memory kept.length with
        | .error _ => (.error (.exhausted kept.length), d)
        | .ok _ =>
          let (seq, d) := d.number
          match d.publish ⟨seq, kept, false⟩ with
          | (.ok (), d) => (.ok kept.length, d)
          | (.error e, d) => (.error e, d)

/-- Closes the device; only the first call does anything. -/
def close (d : Device ω) : Device ω :=
  if d.closing then d
  else
    let (pending, d) := { d with closing := true }.shut
    (d.dropAny pending).notify

def describe (d : Device ω) : String :=
  Record.text "Device"
    [("kind", d.kind.describe), ("slot", d.mailbox.describe), ("closing", Record.flag d.closing)]

@[simp] theorem close_close (d : Device ω) : d.close.close = d.close := by
  cases h : d.closing
  · have closed : d.close.closing = true := by
      simp only [close, h, Bool.false_eq_true, if_false, shut, notify]
      cases d.mailbox.close.1 with
      | none => rfl
      | some f =>
        simp only [dropAny, drop]
        split <;> rfl
    rw [close, if_pos closed]
  · simp [close, h]

end Device

end Framecast
