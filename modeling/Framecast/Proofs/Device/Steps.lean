import Framecast.Device.Crowd

set_option autoImplicit false

namespace Framecast.Device

variable {ω : Type}

theorem openWith_eq_ok {memory : Nat} {kind : Kind} {n : UInt64} {d : Device ω}
    (opened : openWith memory kind n = .ok d) : ∃ pool, d = { kind := kind, pool := pool } := by
  simp only [openWith] at opened
  split at opened
  next => simp at opened
  next =>
    split at opened
    next => simp at opened
    next pool _ => exact ⟨pool, (Except.ok.inj opened).symm⟩

theorem drop_eq (d : Device ω) (f : Frame) : ∃ pool, d.drop f = { d with pool := pool } := by
  simp only [drop]
  split
  next => exact ⟨_, rfl⟩
  next => exact ⟨_, rfl⟩

theorem dropAny_eq (d : Device ω) (f : Option Frame) :
    ∃ pool, d.dropAny f = { d with pool := pool } := by
  cases f with
  | none => exact ⟨_, rfl⟩
  | some f => exact d.drop_eq f

@[simp] theorem kind_drop (d : Device ω) (f : Frame) : (d.drop f).kind = d.kind := by
  obtain ⟨pool, same⟩ := d.drop_eq f
  rw [same]

@[simp] theorem mailbox_drop (d : Device ω) (f : Frame) : (d.drop f).mailbox = d.mailbox := by
  obtain ⟨pool, same⟩ := d.drop_eq f
  rw [same]

@[simp] theorem channel_drop (d : Device ω) (f : Frame) : (d.drop f).channel = d.channel := by
  obtain ⟨pool, same⟩ := d.drop_eq f
  rw [same]

@[simp] theorem nextSeq_drop (d : Device ω) (f : Frame) : (d.drop f).nextSeq = d.nextSeq := by
  obtain ⟨pool, same⟩ := d.drop_eq f
  rw [same]

@[simp] theorem kind_dropAny (d : Device ω) (f : Option Frame) :
    (d.dropAny f).kind = d.kind := by
  cases f <;> simp [dropAny]

@[simp] theorem mailbox_dropAny (d : Device ω) (f : Option Frame) :
    (d.dropAny f).mailbox = d.mailbox := by
  cases f <;> simp [dropAny]

@[simp] theorem channel_dropAny (d : Device ω) (f : Option Frame) :
    (d.dropAny f).channel = d.channel := by
  cases f <;> simp [dropAny]

@[simp] theorem nextSeq_dropAny (d : Device ω) (f : Option Frame) :
    (d.dropAny f).nextSeq = d.nextSeq := by
  cases f <;> simp [dropAny]

theorem popBuffer_eq_some {d d' : Device ω} {b : Bytes} (h : d.popBuffer = some (b, d')) :
    ∃ p q, d.pool = some p ∧ p.take? = some (b, q) ∧ d' = { d with pool := some q } := by
  simp only [popBuffer] at h
  split at h
  next given =>
    obtain ⟨p, hp, taken⟩ := Option.bind_eq_some_iff.mp given
    simp only [Option.some.injEq, Prod.mk.injEq] at h
    exact ⟨p, _, hp, h.1 ▸ taken, h.2.symm⟩
  next => simp at h

theorem deposit_open {d : Device ω} (h : d.mailbox.closed = false) (f : Frame) :
    d.deposit f =
      (.ok d.mailbox.frame,
        { d with
          mailbox := { d.mailbox with frame := some f, ready := true, lastSeq := f.seq } }) := by
  simp only [deposit, Mailbox.publish_open h]

theorem deposit_closed {d : Device ω} (h : d.mailbox.closed = true) (f : Frame) :
    d.deposit f = (.error ⟨f⟩, d) := by
  simp only [deposit, Mailbox.publish_closed h]

theorem collect_cases (d : Device ω) :
    (d.mailbox.ready = false ∧ d.collect = (none, d)) ∨
    (d.mailbox.ready = true ∧
      d.collect =
        (d.mailbox.frame,
          { d with mailbox := { d.mailbox with frame := none, ready := false } })) := by
  cases ready : d.mailbox.ready <;> simp [collect, Mailbox.tryTake, Mailbox.swapOut, ready]

namespace Errand

theorem step_numbering_cases (b : Bytes) (d : Device ω) :
    (∃ capacity, d.kind = .simple capacity ∧
      step (.numbering b, d) = (.done (.error .notProducing), d)) ∨
    ∃ g p period, d.kind = .frames g p period ∧
      (((p.draw g d.nextSeq b).fault ≠ none ∧
          step (.numbering b, d) = (.spoiled (p.draw g d.nextSeq b).buffer, d.number.2)) ∨
        ((p.draw g d.nextSeq b).fault = none ∧
          step (.numbering b, d) =
            (.depositing ⟨d.nextSeq, (p.draw g d.nextSeq b).buffer, true⟩, d.number.2))) := by
  cases kind : d.kind with
  | simple capacity => exact .inl ⟨capacity, rfl, by simp [step, kind]⟩
  | frames g p period =>
    refine .inr ⟨g, p, period, rfl, ?_⟩
    cases fault : (p.draw g d.nextSeq b).fault with
    | some e => exact .inl ⟨by simp, by simp [step, kind, number, fault]⟩
    | none => exact .inr ⟨rfl, by simp [step, kind, number, fault]⟩

theorem step_depositing_open {d : Device ω} (h : d.mailbox.closed = false) (f : Frame) :
    step (.depositing f, d) =
      (.displacing d.mailbox.frame f.seq,
        { d with
          mailbox := { d.mailbox with frame := some f, ready := true, lastSeq := f.seq } }) := by
  rw [step_depositing, deposit_open h]

theorem step_depositing_closed {d : Device ω} (h : d.mailbox.closed = true) (f : Frame) :
    step (.depositing f, d) = (.refused f, d) := by
  rw [step_depositing, deposit_closed h]

theorem step_offering_cases (memory : Nat) (data : Bytes) (d : Device ω) :
    (∃ capacity, d.kind = .simple capacity ∧ data.take capacity.toNat ≠ [] ∧
      step (.offering memory data, d) = (.labelling data (data.take capacity.toNat), d)) ∨
    ∃ e : Errand, e.isOver = true ∧ step (.offering memory data, d) = (e, d) := by
  cases kind : d.kind with
  | frames g p period => exact .inr ⟨.done (.error .notWritable), rfl, by simp [step, kind]⟩
  | simple capacity =>
    cases closed : d.mailbox.closed with
    | true => exact .inr ⟨.done (.error .closed), rfl, by simp [step, kind, closed]⟩
    | false =>
      by_cases empty : data.take capacity.toNat = []
      · exact .inr ⟨.finished, rfl, by simp [step, kind, closed, empty]⟩
      · have kept : (data.take capacity.toNat).isEmpty = false := by
          rwa [List.isEmpty_eq_false_iff]
        cases room : Pool.allocate memory (data.take capacity.toNat).length with
        | error cause => exact .inr ⟨_, rfl, by simp only [step, kind, closed, kept, room]; rfl⟩
        | ok buffer =>
          refine .inl ⟨capacity, rfl, empty, ?_⟩
          simp only [step, kind, closed, kept, room]
          rfl

theorem step_firing_cases (d : Device ω) :
    step (.firing, d) = (.popping, d) ∨
    ∃ e : Errand, e.isOver = true ∧ step (.firing, d) = (e, d) := by
  cases kind : d.kind with
  | simple capacity => exact .inr ⟨.done (.error .notProducing), rfl, by simp [step, kind]⟩
  | frames g p period =>
    cases closed : d.mailbox.closed with
    | true => exact .inr ⟨.done (.error .closed), rfl, by simp [step, kind, closed]⟩
    | false => exact .inl (by simp [step, kind, closed])

end Errand

namespace Reader

def Phase.frames : Phase → List Frame
  | .done (.ok (.frame f)) => [f]
  | _ => []

def Phase.foundNone : Phase → Bool
  | .missed _ | .undeterred _ | .resigned _ | .suspended _ => true
  | _ => false

theorem collect_signs (d : Device ω) :
    d.collect.2.channel = d.channel ∧ d.collect.2.mailbox.closed = d.mailbox.closed ∧
      (d.collect.2.mailbox.ready = true → d.mailbox.ready = true) ∧
      d.collect.2.mailbox.ready = false := by
  obtain ⟨ready, same⟩ | ⟨ready, same⟩ := collect_cases d <;> simp [same, ready]

theorem device_advance_observed (mode : Mode) (e : UInt32) (r : Reader) (d : Device ω) :
    (advance mode (.observed e, r, d)).2.2 = d.collect.2 := by
  simp only [advance]
  split <;> simp_all

theorem device_expire (d : Device ω) : (expire d).2 = d.collect.2 := by
  simp only [expire]
  split <;> simp_all

end Reader

end Framecast.Device
