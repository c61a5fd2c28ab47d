import Framecast.Proofs.Crowd.Closing
import Framecast.Proofs.Crowd.Contents
import Framecast.Proofs.Crowd.Order
import Framecast.Proofs.Crowd.Release
import Framecast.Proofs.Device.Agreement

set_option autoImplicit false

namespace Framecast.Device

variable {ω : Type}

namespace Crowd

variable {c d : Crowd ω} {m : Move ω} {ms : List (Move ω)} {i j k n : Nat} {v : Visit}

theorem mailbox_step_cases (h : c.step m = some d) :
    d.device.mailbox = c.device.mailbox ∨
    (∃ f, c.device.mailbox.closed = false ∧ d.device.mailbox =
      { c.device.mailbox with frame := some f, ready := true, lastSeq := f.seq }) ∨
    ∃ closed, d.device.mailbox =
      { c.device.mailbox with frame := none, ready := false, closed := closed } := by
  have collected (e : Device ω) : e.collect.2.mailbox = e.mailbox ∨ ∃ closed,
      e.collect.2.mailbox = { e.mailbox with frame := none, ready := false, closed := closed } := by
    obtain ⟨-, same⟩ | ⟨-, same⟩ := collect_cases e <;> rw [same]
    · exact .inl rfl
    · exact .inr ⟨_, rfl⟩
  cases m with
  | errand i =>
    obtain ⟨e, -, -, rfl⟩ := stepErrand_eq_some h
    rw [device_perform]
    obtain ⟨f, -, opened, box⟩ | ⟨-, box⟩ | ⟨-, box⟩ := Errand.mailbox_step_cases e c.device
    · exact .inr (.inl ⟨f, opened, box⟩)
    · exact .inr (.inr ⟨true, box⟩)
    · exact .inl box
  | advance i =>
    obtain ⟨v, -, rfl⟩ := stepVisit_eq_some h
    cases phase : v.phase with
    | observed e =>
      refine (collected c.device).imp ?_ fun emptied => .inr ?_
      · intro same
        simpa [phase, Reader.device_advance_observed] using same
      · simpa [phase, Reader.device_advance_observed] using emptied
    | missed e | undeterred e | resigned e =>
      refine .inl ?_
      simp only [Reader.advance]
      split <;> rfl
    | _ => exact .inl (by simp [Reader.advance])
  | expire i =>
    obtain ⟨v, _, -, -, rfl⟩ := expire_eq_some h
    refine (collected c.device).imp ?_ fun emptied => .inr ?_
    · intro same
      simpa [Reader.device_expire] using same
    · simpa [Reader.device_expire] using emptied
  | order o =>
    obtain rfl | ⟨r, readers, -, rfl⟩ := undertake_eq_some h <;> exact .inl rfl
  | visit r mode buffer =>
    obtain rfl := visit_eq_some h
    exact .inl rfl
  | signal i =>
    obtain ⟨v, _, -, -, rfl⟩ := signal_eq_some h
    exact .inl rfl
  | leave i =>
    obtain ⟨v, -, ⟨f, -, ⟨-, rfl⟩ | ⟨buffer, -, rfl⟩⟩ | ⟨r, -, -, rfl⟩⟩ := leave_eq_some h <;>
      exact .inl rfl
  | drop k =>
    obtain ⟨f, -, -, rfl⟩ := drop_eq_some h
    exact .inl (mailbox_drop c.device f)
  | detach k =>
    obtain ⟨f, -, rfl⟩ := detach_eq_some h
    exact .inl rfl
  | _ =>
    obtain rfl := Option.some.inj h
    exact .inl rfl

/-- The sign of the mailbox is right, and nothing is left in it once it is closed. -/
def Signed (c : Crowd ω) : Prop :=
  c.device.mailbox.Honest ∧ (c.device.mailbox.closed = true → c.device.mailbox.frame = none)

theorem Signed.step (signed : c.Signed) (h : c.step m = some d) : d.Signed := by
  obtain ⟨honest, empty⟩ := signed
  obtain same | ⟨f, opened, same⟩ | ⟨closed, same⟩ := mailbox_step_cases h <;>
    rw [Signed, same]
  · exact ⟨honest, empty⟩
  · exact ⟨rfl, by simp [opened]⟩
  · exact ⟨rfl, fun _ => rfl⟩

section Runs

variable {memory : Nat} {kind : Kind} {buffers : UInt64} {readers : Nat} {opening : Device ω}

end Runs

end Crowd

namespace Crowd

variable {c d : Crowd ω} {m : Move ω} {ms : List (Move ω)} {i j k n : Nat} {v : Visit}
variable {b : Option Bytes}

end Crowd

def Reader.Phase.isPrompt : Phase → Bool
  | .looking | .observed _ | .done (.ok (.frame _)) => true
  | .done (.error .wouldBlock) | .done (.error .fault) => true
  | _ => false

namespace Visit

structure Answering (v : Visit) : Prop where
  fault : v.buffer = some [] → v.phase = .done (.error .fault)
  prompt : v.mode = .nonblocking → v.phase.isPrompt = true

theorem Answering.roused {v : Visit} (answering : v.Answering) : v.roused.Answering := by
  obtain ⟨fault, prompt⟩ := answering
  constructor <;> cases phase : v.phase <;>
    simp_all [Visit.roused, Reader.Phase.roused, Reader.Phase.isPrompt]

theorem Answering.advanced {v : Visit} (answering : v.Answering) (r : Reader) (d : Device ω) :
    (v.moveTo (Reader.advance v.mode (v.phase, r, d)).1).Answering := by
  obtain ⟨fault, prompt⟩ := answering
  cases phase : v.phase with
  | observed e =>
    constructor <;> simp only [Reader.advance, phase_moveTo, mode_moveTo, buffer_moveTo] <;>
      split <;> simp_all [Reader.Phase.isPrompt]
  | missed e | undeterred e | resigned e =>
    -- nobody gets here who does not want to wait, nor with an empty buffer
    constructor <;> intro given <;> simp_all [Reader.Phase.isPrompt]
  | looking | suspended e | done result =>
    constructor <;> simp_all [Reader.advance, Reader.Phase.isPrompt]

theorem Next.buffer {c : Crowd ω} {m : Crowd.Move ω} {i : Nat} {v w : Visit}
    (next : v.Next c m i w) : w.buffer = v.buffer := by
  cases next <;> rfl

theorem Answering.next {c : Crowd ω} {m : Crowd.Move ω} {i : Nat} {v w : Visit}
    (answering : v.Answering) (next : v.Next c m i w) : w.Answering := by
  cases next with
  | left other => exact answering
  | roused other => exact answering.roused
  | advanced own => exact answering.advanced _ _
  | interrupted hit asleep | expired late asleep =>
    obtain ⟨fault, prompt⟩ := answering
    constructor <;> intro given <;> simp_all [Reader.Phase.isPrompt]

section Results

variable {v : Visit} {f : Frame} {buffer : Bytes}

theorem Answering.room (answering : v.Answering) (some_left : f.data ≠ [])
    (taken : v.phase = .done (.ok (.frame f))) (read : v.buffer = some buffer) :
    0 < min buffer.length f.data.length := by
  have room : buffer ≠ [] := by
    rintro rfl
    simp [answering.fault read] at taken
  exact Nat.lt_min.mpr ⟨List.length_pos_iff.mpr room, List.length_pos_iff.mpr some_left⟩

end Results

end Visit

namespace Crowd

variable {c d : Crowd ω} {m : Move ω} {ms : List (Move ω)} {i j k n : Nat} {v : Visit}
variable {b : Option Bytes}

end Crowd

end Framecast.Device
