import Framecast.Device.Rig

set_option autoImplicit false

namespace Framecast

namespace Device

structure Bench where
  -- the device and its users, until it is taken down
  rig : Option Rig
  held : List (String × Frame) := []
  deriving DecidableEq, Repr

namespace Bench

inductive Call where
  | rig (call : Rig.Call)
  -- the frame is held under `name`, or dropped at once
  | take (mode : Mode) (reader : Nat) (name : Option String)
  | drop (name : String)
  | inspect (name : String)
  | copy (name : String) (buffer : Bytes)
  -- the payload is kept for good; its buffer never goes back
  | detach (name : String)
  -- takes the device down, with its readers and wakers
  | shutdown
  deriving DecidableEq, Repr

def withoutFrame (held : List (String × Frame)) (name : String) : List (String × Frame) :=
  held.filter (·.1 != name)

def drop (b : Bench) (name : String) : Bench :=
  match b.held.lookup name with
  | none => b
  | some f =>
    { rig := b.rig.map fun g => { g with device := g.device.drop f }
      held := withoutFrame b.held name }

def hold (b : Bench) (name : String) (f : Frame) : Bench :=
  let b := b.drop name
  { b with held := (name, f) :: b.held }

def take (b : Bench) (g : Rig) (mode : Mode) (n : Nat) (name : Option String) :
    Outcome × Bench :=
  let (p, r, d) := g.device.take (g.reader n) mode
  let g := { g.setReader n r with device := d }
  match p, name with
  | .suspended _, _ => (.wouldHang, { b with rig := some g })
  | .done (.ok (.frame f)), some name =>
    (.delivered (.taken (.ok (.frame f))), { b with rig := some g }.hold name f)
  | .done (.ok (.frame f)), none =>
    (.delivered (.taken (.ok (.frame f))),
      { b with rig := some { g with device := g.device.drop f } })
  | .done result, _ => (.delivered (.taken result), { b with rig := some g })

def onFrame (b : Bench) (name : String) (f : Frame → Outcome × Bench) : Outcome × Bench :=
  match b.held.lookup name with
  | none => (.noFrame, b)
  | some frame => f frame

def onRig (b : Bench) (f : Rig → Outcome × Bench) : Outcome × Bench :=
  match b.rig with
  | none => (.noDevice, b)
  | some g => f g

def perform (b : Bench) : Call → Outcome × Bench
  | .rig call =>
    b.onRig fun g =>
      let (r, g) := g.perform call
      (r, { b with rig := some g })
  | .take mode n name => b.onRig fun g => b.take g mode n name
  | .drop name => (.flag (b.held.lookup name).isSome, b.drop name)
  | .inspect name => b.onFrame name fun f => (.held f, b)
  | .copy name buffer =>
    b.onFrame name fun f =>
      let (n, buffer) := f.copyTo buffer
      (.copied n buffer, b)
  | .detach name =>
    b.onFrame name fun f => (.payload f.data, { b with held := withoutFrame b.held name })
  | .shutdown =>
    b.onRig fun g =>
      if g.waiters.isEmpty then (.done, { b with rig := none }) else (.waitersPresent, b)

def run (b : Bench) : List Call → List Outcome × Bench
  | [] => ([], b)
  | c :: cs =>
    let (r, b) := b.perform c
    let (rs, b) := run b cs
    (r :: rs, b)

def collectRung (b : Bench) : List String × Bench :=
  match b.rig with
  | none => ([], b)
  | some g =>
    let (rung, g) := g.collectRung
    (rung, { b with rig := some g })

def finish (b : Bench) : List Delivery := (b.rig.map fun g => g.close.1).getD []

end Bench

end Device

end Framecast
