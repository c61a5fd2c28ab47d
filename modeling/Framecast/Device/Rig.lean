import Framecast.Device.Reader

set_option autoImplicit false

namespace Framecast

namespace Device

structure Status where
  ready : Bool
  closed : Bool
  lastSeq : UInt64
  epoch : UInt32
  -- the number of buffers in the pool, if there is one
  free : Option Nat
  nextSeq : UInt64
  produced : UInt64
  failures : UInt64
  deriving DecidableEq, Repr

def status {ω : Type} (d : Device ω) : Status :=
  { ready := d.mailbox.ready
    closed := d.mailbox.closed
    lastSeq := d.mailbox.lastSeq
    epoch := d.channel.epoch
    free := d.pool.map (·.len)
    nextSeq := d.nextSeq
    produced := d.produced
    failures := d.failures }

inductive Delivery where
  | taken (result : Except ReadError Taken)
  | copied (result : Except ReadError (Nat × Bytes))

structure Waiter where
  -- the buffer to read into; without one the thread takes the frame
  buffer : Option Bytes
  reader : Reader := {}
  deriving DecidableEq, Repr

namespace Waiter

variable {ω : Type}

def run (w : Waiter) (d : Device ω) : Option Delivery × Waiter × Device ω :=
  match w.buffer with
  | none =>
    match d.take w.reader (.blocking none) with
    | (.done (.ok (.frame f)), r, d) =>
      (some (.taken (.ok (.frame f))), { w with reader := r }, d.drop f)
    | (.done result, r, d) => (some (.taken result), { w with reader := r }, d)
    | (.suspended _, r, d) => (none, { w with reader := r }, d)
  | some buffer =>
    match d.read w.reader buffer (.blocking none) with
    | (.done result, r, d) => (some (.copied result), { w with reader := r }, d)
    | (.suspended _, r, d) => (none, { w with reader := r }, d)

def interrupted (w : Waiter) : Delivery :=
  match w.buffer with
  | none => .taken (.error .interrupted)
  | some _ => .copied (.error .interrupted)

-- all threads look again, the oldest first; those without an answer wait on
def runAll : List Waiter → Device ω → List Delivery × List Waiter × Device ω
  | [], d => ([], [], d)
  | w :: ws, d =>
    let (answer, w, d) := w.run d
    let (answers, waiting, d) := runAll ws d
    match answer with
    | some a => (a :: answers, waiting, d)
    | none => (answers, w :: waiting, d)

end Waiter

-- wakers go by their names
structure Rig where
  device : Device String
  readers : List (Nat × Reader) := []
  -- the waiting threads, the oldest first
  waiters : List Waiter := []
  attached : List (String × UInt64) := []
  deriving DecidableEq, Repr

namespace Rig

def reader (g : Rig) (n : Nat) : Reader := (g.readers.lookup n).getD {}

def withoutReader (g : Rig) (n : Nat) : Rig :=
  { g with readers := g.readers.filter (·.1 != n) }

def setReader (g : Rig) (n : Nat) (r : Reader) : Rig :=
  { g with readers := (n, r) :: (g.withoutReader n).readers }

/-- Puts `d` in place and lets the waiting threads look again if they were notified. -/
def settle (g : Rig) (d : Device String) : List Delivery × Rig :=
  if d.channel.epoch = g.device.channel.epoch then ([], { g with device := d })
  else
    let (answers, waiting, d) := Waiter.runAll g.waiters d
    (answers, { g with device := d, waiters := waiting })

def fire (g : Rig) : (Except Error Fired × List Delivery) × Rig :=
  let (r, d) := g.device.fire
  let (answers, g) := g.settle d
  ((r, answers), g)

def fireTimes : Nat → Rig → List (Except Error Fired × List Delivery) × Rig
  | 0, g => ([], g)
  | n + 1, g =>
    let (r, g) := g.fire
    let (rs, g) := fireTimes n g
    (r :: rs, g)

def cancel (g : Rig) (n : Nat) : Rig :=
  let (r, d) := g.device.cancel (g.reader n)
  ((g.setReader n r).settle d).2

def wait (g : Rig) (buffer : Option Bytes) (cancelled : Bool) : Option Delivery × Rig :=
  let (r, d) := if cancelled then g.device.cancel {} else ({}, g.device)
  let (_, g) := g.settle d
  let (answer, w, d) := Waiter.run ⟨buffer, r⟩ g.device
  (answer,
    { g with
      device := d
      waiters := g.waiters ++ if answer.isSome then [] else [w] })

def cancelWaiter (g : Rig) : List Delivery × Rig :=
  match g.waiters with
  | [] => ([], g)
  | w :: ws =>
    let (r, d) := g.device.cancel w.reader
    { g with waiters := { w with reader := r } :: ws }.settle d

def signalWaiter (g : Rig) : List Delivery × Rig :=
  match g.waiters with
  | [] => ([], g)
  | w :: ws => ([w.interrupted], { g with waiters := ws })

def attach (g : Rig) (waker : String) : Except WakerSlotsFull UInt64 × Rig :=
  let (r, c) := g.device.channel.register waker
  let g := { g with device := { g.device with channel := c } }
  match r with
  | .ok id => (.ok id, { g with attached := (waker, id) :: g.attached })
  | .error e => (.error e, g)

def detach (g : Rig) (waker : String) : Bool × Rig :=
  match g.attached.lookup waker with
  | none => (false, g)
  | some id =>
    let (_, c) := g.device.channel.deregister id
    (true,
      { g with
        device := { g.device with channel := c }
        attached := g.attached.filter (·.1 != waker) })

def close (g : Rig) : List Delivery × Rig := g.settle g.device.close

def collectRung (g : Rig) : List String × Rig :=
  let (rung, c) := g.device.channel.collect
  (rung, { g with device := { g.device with channel := c } })

end Rig

inductive Outcome where
  | noDevice
  | noFrame
  | noWaiter
  -- the call was not made, since nothing would end it
  | wouldHang
  | waiting
  -- the call was not made, since other threads wait for something else
  | mixedWaiters
  | waitersPresent
  | alreadyAttached
  | done
  | flag (b : Bool)
  | held (f : Frame)
  | copied (n : Nat) (buffer : Bytes)
  | payload (data : Bytes)
  | fired (results : List (Except Error Fired × List Delivery))
  | wrote (result : Except Error Nat) (delivered : List Delivery)
  | delivered (d : Delivery)
  | events (e : PollEvents)
  | sizes (device reader kind : Nat)
  | text (s : String)
  | attached (result : Except WakerSlotsFull UInt64)
  | released (ds : List Delivery)

namespace Rig

inductive Call where
  | fire (times : Nat)
  | write (memory : Nat) (data : Bytes)
  | read (buffer : Bytes) (mode : Mode) (reader : Nat)
  | poll (interest : PollEvents) (reader : Nat)
  | cancel (reader : Nat)
  | reset (reader : Nat)
  | isCancelled (reader : Nat)
  | dropReader (reader : Nat)
  | sizes (reader : Nat)
  | describe
  -- a thread takes a frame, or reads one into a buffer
  | wait (buffer : Option Bytes) (cancelled : Bool)
  | cancelWaiter
  | signalWaiter
  | attachWaker (waker : String)
  | detachWaker (waker : String)
  | close
  deriving DecidableEq, Repr

def read (g : Rig) (buffer : Bytes) (mode : Mode) (n : Nat) : Outcome × Rig :=
  let (p, r, d) := g.device.read (g.reader n) buffer mode
  let g := { g.setReader n r with device := d }
  match p with
  | .suspended _ => (.wouldHang, g)
  | .done result => (.delivered (.copied result), g)

def mixed (g : Rig) (buffer : Option Bytes) : Bool :=
  g.waiters.any fun w => w.buffer.map List.length != buffer.map List.length

def ended : List Delivery → Outcome
  | d :: _ => .delivered d
  | [] => .noWaiter

def perform (g : Rig) : Call → Outcome × Rig
  | .fire times =>
    let (rs, g) := g.fireTimes times
    (.fired rs, g)
  | .write memory data =>
    let (r, d) := g.device.write memory data
    let (ds, g) := g.settle d
    (.wrote r ds, g)
  | .read buffer mode n => g.read buffer mode n
  | .poll interest n => (.events (g.device.poll interest), g.setReader n (g.reader n))
  | .cancel n => (.done, g.cancel n)
  | .reset n => (.done, g.setReader n (g.reader n).reset)
  | .isCancelled n => (.flag (g.reader n).cancelled, g.setReader n (g.reader n))
  | .dropReader n => (.flag (g.readers.lookup n).isSome, g.withoutReader n)
  | .sizes n =>
    let size := g.device.frameSize
    (.sizes size size g.device.kind.frameSize, g.setReader n (g.reader n))
  | .describe => (.text g.device.describe, g)
  | .wait buffer cancelled =>
    if g.mixed buffer then (.mixedWaiters, g)
    else
      match g.wait buffer cancelled with
      | (some d, g) => (.delivered d, g)
      | (none, g) => (.waiting, g)
  | .cancelWaiter =>
    let (ds, g) := g.cancelWaiter
    (ended ds, g)
  | .signalWaiter =>
    let (ds, g) := g.signalWaiter
    (ended ds, g)
  | .attachWaker waker =>
    if (g.attached.lookup waker).isSome then (.alreadyAttached, g)
    else
      let (r, g) := (g.setReader 0 (g.reader 0)).attach waker
      (.attached r, g)
  | .detachWaker waker =>
    let (b, g) := g.detach waker
    (.flag b, g)
  | .close =>
    let (ds, g) := g.close
    (.released ds, g)

end Rig

end Device

end Framecast
