import Framecast.Proofs.Device.Steps

set_option autoImplicit false

namespace Framecast.Device

variable {ω : Type}

structure Shut (d : Device ω) : Prop where
  closing : d.closing = true
  closed : d.mailbox.closed = true
  empty : d.mailbox.frame = none
  unready : d.mailbox.ready = false

/-- What callers of a closed device are told; none of them changes anything. -/
structure Over (d : Device ω) : Prop where
  take : ∀ (r : Reader) (timeout : Option Millis),
    d.take r (.blocking timeout) = (.done (.ok .endOfStream), r, d)
  takeNow : ∀ r : Reader, d.take r .nonblocking = (.done (.error .wouldBlock), r, d)
  read : ∀ (r : Reader) (buffer : Bytes) (timeout : Option Millis), buffer ≠ [] →
    d.read r buffer (.blocking timeout) = (.done (.ok (0, buffer)), r, d)
  readNow : ∀ (r : Reader) (buffer : Bytes), buffer ≠ [] →
    d.read r buffer .nonblocking = (.done (.error .wouldBlock), r, d)
  poll : ∀ interest : PollEvents,
    d.poll interest = ⟨interest.bits &&& PollEvents.writable.bits ||| PollEvents.hangup.bits⟩ ∧
      (d.poll interest).contains .readable = false
  writeSimple : ∀ capacity memory data, d.kind = .simple capacity →
    d.write memory data = (.error .closed, d)
  writeFrames : ∀ g p period memory data, d.kind = .frames g p period →
    d.write memory data = (.error .notWritable, d)
  fireSimple : ∀ capacity, d.kind = .simple capacity → d.fire = (.error .notProducing, d)
  fireFrames : ∀ g p period, d.kind = .frames g p period → d.fire = (.error .closed, d)
  close : d.close = d

theorem and_writable (bits : UInt8) :
    bits &&& PollEvents.writable.bits = 0 ∨
      bits &&& PollEvents.writable.bits = PollEvents.writable.bits := by
  obtain ⟨word⟩ := bits
  have cases : ∀ word : BitVec 8, word &&& 2 = 0 ∨ word &&& 2 = 2 := by decide
  exact (cases word).imp UInt8.toBitVec_inj.mp UInt8.toBitVec_inj.mp

theorem only_writable (interest : PollEvents) :
    PollEvents.only (interest.contains .writable) .writable =
      ⟨interest.bits &&& PollEvents.writable.bits⟩ := by
  rcases and_writable interest.bits with none | wanted
  · simp only [PollEvents.only, PollEvents.contains, none]
    rfl
  · simp only [PollEvents.only, PollEvents.contains, wanted]
    rfl

namespace Shut

variable {d : Device ω}

theorem collect (shut : d.Shut) : d.collect = (none, d) := by
  obtain ⟨-, same⟩ | ⟨ready, -⟩ := collect_cases d
  · exact same
  · simp [shut.unready] at ready

theorem take_blocking (shut : d.Shut) (r : Reader) (timeout : Option Millis) :
    d.take r (.blocking timeout) = (.done (.ok .endOfStream), r, d) := by
  simp [take, Reader.attempt_eq, shut.collect, shut.closed]

theorem take_nonblocking (shut : d.Shut) (r : Reader) :
    d.take r .nonblocking = (.done (.error .wouldBlock), r, d) := by
  simp [take, Reader.attempt_eq, shut.collect]

theorem poll_eq (shut : d.Shut) (interest : PollEvents) :
    d.poll interest = ⟨interest.bits &&& PollEvents.writable.bits ||| PollEvents.hangup.bits⟩ ∧
      (d.poll interest).contains .readable = false := by
  have told : d.poll interest =
      ⟨interest.bits &&& PollEvents.writable.bits ||| PollEvents.hangup.bits⟩ := by
    rw [poll, only_writable]
    simp [shut.unready, shut.closed, PollEvents.union, PollEvents.only, PollEvents.none]
  refine ⟨told, ?_⟩
  rw [told]
  rcases and_writable interest.bits with none | wanted
  · rw [none]
    decide
  · rw [wanted]
    decide

theorem over_of_shut (shut : d.Shut) : d.Over where
  take := shut.take_blocking
  takeNow := shut.take_nonblocking
  read r buffer timeout room := by simp [read, room, shut.take_blocking, unload]
  readNow r buffer room := by simp [read, room, shut.take_nonblocking]
  poll := shut.poll_eq
  writeSimple capacity memory data kind := by simp [write, kind, shut.closed]
  writeFrames g p period memory data kind := by simp [write, kind]
  fireSimple capacity kind := by simp [fire, kind]
  fireFrames g p period kind := by simp [fire, kind, shut.closed]
  close := by simp [Device.close, shut.closing]

theorem of_same {d' : Device ω} (shut : d.Shut) (closing : d'.closing = d.closing)
    (mailbox : d'.mailbox = d.mailbox) : d'.Shut :=
  ⟨closing ▸ shut.closing, mailbox ▸ shut.closed, mailbox ▸ shut.empty, mailbox ▸ shut.unready⟩

theorem advance (shut : d.Shut) (mode : Mode) (p : Reader.Phase) (r : Reader) :
    (Reader.advance mode (p, r, d)).2.2 = d := by
  cases p with
  | observed e => rw [Reader.device_advance_observed, shut.collect]
  | missed e | undeterred e | resigned e =>
    simp only [Reader.advance]
    split <;> rfl
  | _ => rfl

theorem expire (shut : d.Shut) : Reader.expire d = (.error .timedOut, d) := by
  simp only [Reader.expire, shut.collect]

theorem close_mailbox (shut : d.Shut) : d.mailbox.close.2 = d.mailbox := by
  have closed := shut.closed
  have empty := shut.empty
  have unready := shut.unready
  simp only [Mailbox.close]
  rw [← closed, ← empty, ← unready]

theorem errand (shut : d.Shut) (e : Errand) :
    (Errand.step (e, d)).2.closing = d.closing ∧
      (Errand.step (e, d)).2.mailbox = d.mailbox := by
  cases e with
  | firing =>
    obtain same | ⟨e, -, same⟩ := Errand.step_firing_cases d <;> rw [same] <;> exact ⟨rfl, rfl⟩
  | popping =>
    simp only [Errand.step]
    split
    next => exact ⟨rfl, rfl⟩
    next b d' popped =>
      obtain ⟨p, q, -, -, rfl⟩ := popBuffer_eq_some popped
      exact ⟨rfl, rfl⟩
  | numbering b =>
    obtain ⟨_, -, same⟩ | ⟨_, _, _, -, ⟨-, same⟩ | ⟨-, same⟩⟩ := Errand.step_numbering_cases b d <;>
      rw [same] <;> exact ⟨rfl, rfl⟩
  | offering memory data =>
    obtain ⟨_, -, -, same⟩ | ⟨e, -, same⟩ := Errand.step_offering_cases memory data d <;> rw [same] <;>
      exact ⟨rfl, rfl⟩
  | depositing f =>
    rw [Errand.step_depositing_closed shut.closed]
    exact ⟨rfl, rfl⟩
  | displacing old seq | dropping old =>
    obtain ⟨pool, same⟩ := dropAny_eq d old
    simp only [Errand.step, same, and_self]
  | refused f | releasing f =>
    obtain ⟨pool, same⟩ := drop_eq d f
    simp only [Errand.step, same, and_self]
  | closing =>
    simp only [Errand.step, shut.closing, if_true, and_self]
  | shutting => exact ⟨rfl, shut.close_mailbox⟩
  | _ => exact ⟨rfl, rfl⟩

theorem errand_shut (shut : d.Shut) (e : Errand) : (Errand.step (e, d)).2.Shut :=
  shut.of_same (shut.errand e).1 (shut.errand e).2

end Shut

namespace Errand

theorem closing_step (e : Errand) (d : Device ω) :
    (e = .closing ∧ (step (e, d)).2.closing = true) ∨
      ((step (e, d)).2.closing = d.closing ∧ (step (e, d)).1 ≠ .shutting) := by
  cases e with
  | firing =>
    obtain same | ⟨e, ended, same⟩ := step_firing_cases d <;> rw [same]
    · exact .inr ⟨rfl, by simp⟩
    · exact .inr ⟨rfl, by rintro rfl; simp [isOver] at ended⟩
  | popping =>
    refine .inr ?_
    simp only [step]
    split
    next => exact ⟨rfl, by simp⟩
    next b d' popped =>
      obtain ⟨p, q, -, -, rfl⟩ := popBuffer_eq_some popped
      exact ⟨rfl, by simp⟩
  | numbering b =>
    obtain ⟨_, -, same⟩ | ⟨_, _, _, -, ⟨-, same⟩ | ⟨-, same⟩⟩ := step_numbering_cases b d <;>
      rw [same] <;> exact .inr ⟨rfl, by simp⟩
  | offering memory data =>
    obtain ⟨_, -, -, same⟩ | ⟨e, ended, same⟩ := step_offering_cases memory data d <;> rw [same]
    · exact .inr ⟨rfl, by simp⟩
    · exact .inr ⟨rfl, by rintro rfl; simp [isOver] at ended⟩
  | depositing f =>
    cases closed : d.mailbox.closed with
    | true => rw [step_depositing_closed closed]; exact .inr ⟨rfl, by simp⟩
    | false => rw [step_depositing_open closed]; exact .inr ⟨rfl, by simp⟩
  | displacing old seq | dropping old =>
    obtain ⟨pool, same⟩ := dropAny_eq d old
    exact .inr (by simp [step, same])
  | refused f | releasing f =>
    obtain ⟨pool, same⟩ := drop_eq d f
    exact .inr (by simp [step, same])
  | closing =>
    refine .inl ⟨rfl, ?_⟩
    simp only [step]
    split
    next begun => exact begun
    next => rfl
  | _ => exact .inr ⟨rfl, by simp [step]⟩

def refusal? : Kind → Errand → Option Errand
  | .simple _, .firing => some (.done (.error .notProducing))
  | .frames .., .firing => some (.done (.error .closed))
  | .simple _, .offering _ _ => some (.done (.error .closed))
  | .frames .., .offering _ _ => some (.done (.error .notWritable))
  | _, .closing => some .finished
  | _, _ => none

end Errand

theorem Shut.refusal {d : Device ω} (shut : d.Shut) {e e' : Errand}
    (refused : e.refusal? d.kind = some e') : Errand.step (e, d) = (e', d) := by
  cases kind : d.kind <;> cases e <;> simp [Errand.refusal?, kind] at refused <;>
    subst refused <;> simp [Errand.step, kind, shut.closed, shut.closing]

def counts (d : Device ω) : UInt64 × UInt64 × UInt64 := (d.nextSeq, d.produced, d.failures)

/-- The call may go on to count something even if the device is closed. -/
def Errand.pending : Errand → Bool
  | .popping | .numbering _ | .spoiled _ | .labelling .. | .displacing .. | .counting _ => true
  | _ => false

theorem counts_drop (d : Device ω) (f : Frame) : (d.drop f).counts = d.counts := by
  obtain ⟨pool, same⟩ := drop_eq d f
  rw [same]
  rfl

theorem Shut.counts_errand {d : Device ω} (shut : d.Shut) {e : Errand} (idle : e.pending = false) :
    (Errand.step (e, d)).2.counts = d.counts ∧ (Errand.step (e, d)).1.pending = false := by
  cases e with
  | firing =>
    simp only [Errand.step, shut.closed]
    split <;> exact ⟨rfl, rfl⟩
  | offering memory data =>
    simp only [Errand.step, shut.closed]
    split <;> exact ⟨rfl, rfl⟩
  | depositing f =>
    rw [Errand.step_depositing_closed shut.closed]
    exact ⟨rfl, rfl⟩
  | dropping old =>
    obtain ⟨pool, same⟩ := dropAny_eq d old
    simp only [Errand.step, same]
    exact ⟨rfl, rfl⟩
  | refused f | releasing f =>
    simp only [Errand.step, counts_drop, true_and]
    rfl
  | closing =>
    have same : Errand.step (.closing, d) = (.finished, d) := by simp [Errand.step, shut.closing]
    rw [same]
    exact ⟨rfl, rfl⟩
  | popping | numbering b | spoiled b | labelling data kept | displacing old seq | counting seq =>
    simp [Errand.pending] at idle
  | _ => exact ⟨rfl, rfl⟩

end Framecast.Device
