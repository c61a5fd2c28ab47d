import Framecast.Device.Basic

/-!
Calls on a device, one step at a time. Each step touches one part of the device, and the steps of
other calls may fall in between; a call that is left alone does what the call of the device's API
does.
-/

set_option autoImplicit false

namespace Framecast.Device

inductive Errand where
  -- about to ask whether the device is closed, and then to tick
  | firing
  | popping
  | numbering (buffer : Bytes)
  -- the picture could not be drawn; about to count that
  | spoiled (buffer : Bytes)
  | restoring (buffer : Bytes)
  -- about to ask whether the device is closed, and then to write
  | offering (memory : Nat) (data : Bytes)
  -- `kept` is as much of `data` as a frame may hold
  | labelling (data kept : Bytes)
  | depositing (f : Frame)
  -- the frame is in the mailbox; about to drop the one it displaced
  | displacing (old : Option Frame) (seq : UInt64)
  | refused (f : Frame)
  -- a read has copied the frame; about to drop it
  | releasing (f : Frame)
  | counting (seq : UInt64)
  | announcing (seq : UInt64)
  | closing
  | shutting
  | dropping (pending : Option Frame)
  -- the device is closed, or a reader is marked; about to notify
  | alerting
  | done (result : Except Error Fired)
  | finished

namespace Errand

variable {ω : Type}

/-- The next step, and the device after it. -/
def step : Errand × Device ω → Errand × Device ω
  | (.firing, d) =>
    match d.kind with
    | .simple _ => (.done (.error .notProducing), d)
    | .frames .. => if d.mailbox.closed then (.done (.error .closed), d) else (.popping, d)
  | (.popping, d) =>
    match d.popBuffer with
    | none => (.done (.ok .noBuffer), d.countFailure)
    | some (buffer, d) => (.numbering buffer, d)
  | (.numbering buffer, d) =>
    match d.kind with
    | .simple _ => (.done (.error .notProducing), d)
    | .frames g p _ =>
      let (seq, d) := d.number
      let drawing := p.draw g seq buffer
      match drawing.fault with
      | some _ => (.spoiled drawing.buffer, d)
      | none => (.depositing ⟨seq, drawing.buffer, true⟩, d)
  | (.spoiled buffer, d) => (.restoring buffer, d.countFailure)
  | (.restoring buffer, d) => (.done (.ok .failed), d.returnBuffer buffer)
  | (.offering memory data, d) =>
    match d.kind with
    | .frames .. => (.done (.error .notWritable), d)
    | .simple capacity =>
      if d.mailbox.closed then (.done (.error .closed), d)
      else
        let kept := data.take capacity.toNat
        if kept.isEmpty then (.finished, d)
        else
          match Pool.allocate memory kept.length with
          | .error _ => (.done (.error (.exhausted kept.length)), d)
          | .ok _ => (.labelling data kept, d)
  | (.labelling _ kept, d) =>
    let (seq, d) := d.number
    (.depositing ⟨seq, kept, false⟩, d)
  | (.depositing f, d) =>
    match d.deposit f with
    | (.ok old, d) => (.displacing old f.seq, d)
    | (.error r, d) => (.refused r.frame, d)
  | (.displacing old seq, d) => (.counting seq, d.dropAny old)
  | (.refused f, d) => (.done (.error .closed), d.drop f)
  | (.releasing f, d) => (.finished, d.drop f)
  | (.counting seq, d) => (.announcing seq, d.countFrame)
  | (.announcing seq, d) => (.done (.ok (.published seq)), d.notify)
  | (.closing, d) => if d.closing then (.finished, d) else (.shutting, { d with closing := true })
  | (.shutting, d) =>
    let (pending, d) := d.shut
    (.dropping pending, d)
  | (.dropping pending, d) => (.alerting, d.dropAny pending)
  | (.alerting, d) => (.finished, d.notify)
  | (.done result, d) => (.done result, d)
  | (.finished, d) => (.finished, d)

def label : Errand → Device ω → List (UInt64 × Bytes)
  | .labelling data _, d => [(d.nextSeq, data)]
  | _, _ => []

def notifies : Errand → Bool
  | .announcing _ | .alerting => true
  | _ => false

/-- Whether the call changed something that it has yet to notify. -/
def owesNotice : Errand → Bool
  | .displacing .. | .counting _ | .announcing _ | .dropping _ | .alerting => true
  | _ => false

def isOver : Errand → Bool
  | .done _ | .finished => true
  | _ => false

def frames : Errand → List Frame
  | .depositing f | .refused f | .releasing f => [f]
  | .displacing old _ | .dropping old => old.toList
  | _ => []

def inHand : Errand → List Bytes
  | .numbering buffer | .spoiled buffer | .restoring buffer => [buffer]
  | e => e.frames.flatMap Frame.loan

/-- The buffers that the next step brings back to the pool. -/
def returns : Errand → List Bytes
  | .restoring buffer => [buffer]
  | .displacing old _ | .dropping old => old.toList.flatMap Frame.loan
  | .refused f | .releasing f => f.loan
  | _ => []

/-- Whether the next step cannot be made now: the call goes on asking the pool. -/
def stalls : Errand → Device ω → Bool
  | .popping, d => d.pool.any Pool.lags
  | e, d => e.returns.any d.stalls

def steps : Nat → Errand × Device ω → Errand × Device ω
  | 0, s => s
  | n + 1, s => steps n (step s)

theorem kind_popBuffer {d d' : Device ω} {buffer : Bytes}
    (h : d.popBuffer = some (buffer, d')) : d'.kind = d.kind := by
  simp only [popBuffer] at h
  split at h
  next => simp_all only [Option.some.injEq, Prod.mk.injEq]; rw [← h.2]
  next => simp at h

theorem step_depositing (d : Device ω) (f : Frame) :
    step (.depositing f, d) =
      match d.deposit f with
      | (.ok old, d) => (.displacing old f.seq, d)
      | (.error r, d) => (.refused r.frame, d) := rfl

theorem steps_depositing (d : Device ω) (f : Frame) :
    steps 4 (.depositing f, d) =
      match d.publish f with
      | (.ok (), d) => (.done (.ok (.published f.seq)), d)
      | (.error e, d) => (.done (.error e), d) := by
  rw [publish, steps, step_depositing]
  rcases d.deposit f with ⟨_ | _, d'⟩ <;> rfl

theorem steps_firing (d : Device ω) : steps 7 (.firing, d) = (.done d.fire.1, d.fire.2) := by
  cases hk : d.kind with
  | simple c => simp [steps, step, fire, hk]
  | frames g p t =>
    cases hc : d.mailbox.closed with
    | true => simp [steps, step, fire, hk, hc]
    | false =>
      have popping : step (.firing, d) = (.popping, d) := by simp [step, hk, hc]
      rw [steps, popping]
      cases hb : d.popBuffer with
      | none => simp [steps, step, fire, tick, hk, hc, hb]
      | some b =>
        obtain ⟨buffer, d'⟩ := b
        have hk' : d'.kind = .frames g p t := (kind_popBuffer hb).trans hk
        have numbering : step (.popping, d) = (.numbering buffer, d') := by simp [step, hb]
        rw [steps, numbering]
        cases hf : (p.draw g d'.nextSeq buffer).fault with
        | some e => simp [steps, step, fire, tick, hk, hc, hb, hk', number, hf]
        | none =>
          have depositing :
              step (.numbering buffer, d') =
                (.depositing ⟨d'.nextSeq, (p.draw g d'.nextSeq buffer).buffer, true⟩,
                  d'.number.2) := by
            simp [step, hk', number, hf]
          rw [steps, depositing, steps_depositing]
          simp only [fire, tick, hk, hc, hb, hf, number]
          split <;> simp_all

def written (seq : UInt64) : Except Error Nat → Errand
  | .ok 0 => .finished
  | .ok (_ + 1) => .done (.ok (.published seq))
  | .error e => .done (.error e)

theorem steps_offering (d : Device ω) (memory : Nat) (data : Bytes) :
    steps 6 (.offering memory data, d) =
      (written d.nextSeq (d.write memory data).1, (d.write memory data).2) := by
  cases hk : d.kind with
  | frames g p t => simp [steps, step, write, hk, written]
  | simple c =>
    cases hc : d.mailbox.closed with
    | true => simp [steps, step, write, hk, hc, written]
    | false =>
      cases he : (data.take c.toNat).isEmpty with
      | true =>
        have finished : step (.offering memory data, d) = (.finished, d) := by
          simp only [step, hk, hc, he]
          rfl
        rw [steps, finished]
        simp only [write, hk, hc, he]
        rfl
      | false =>
        cases room : Pool.allocate memory (data.take c.toNat).length with
        | error cause =>
          have ended : step (.offering memory data, d) =
              (.done (.error (.exhausted (data.take c.toNat).length)), d) := by
            simp only [step, hk, hc, he, room]
            rfl
          rw [steps, ended]
          simp only [write, hk, hc, he, room]
          rfl
        | ok buffer =>
          have labelling : step (.offering memory data, d) =
              (.labelling data (data.take c.toNat), d) := by
            simp only [step, hk, hc, he, room]
            rfl
          have depositing :
              step (.labelling data (data.take c.toNat), d) =
                (.depositing ⟨d.nextSeq, data.take c.toNat, false⟩, d.number.2) := rfl
          obtain ⟨b, rest, kept⟩ := List.exists_cons_of_ne_nil (List.isEmpty_eq_false_iff.mp he)
          rw [steps, labelling, steps, depositing, steps_depositing]
          simp only [write, hk, hc, he, room, number]
          split <;> simp_all [written]

theorem steps_closing (d : Device ω) : steps 4 (.closing, d) = (.finished, d.close) := by
  cases h : d.closing <;> simp [steps, step, close, h]

end Errand

end Framecast.Device
