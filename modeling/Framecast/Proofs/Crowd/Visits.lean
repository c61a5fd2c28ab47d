import Framecast.Proofs.Crowd.Steps
import Framecast.Proofs.Device.Steps

set_option autoImplicit false

namespace Framecast.Device

variable {ω : Type}

namespace Visit

inductive Next (c : Crowd ω) (m : Crowd.Move ω) (i : Nat) (v : Visit) : Visit → Prop where
  | left (other : m ≠ .advance i) : Next c m i v v
  | roused (other : m ≠ .advance i) : Next c m i v v.roused
  | advanced (own : m = .advance i) :
      Next c m i v (v.moveTo (Reader.advance v.mode (v.phase, c.reader v.reader, c.device)).1)
  | interrupted {e : UInt32} (hit : m = .signal i) (asleep : v.phase = .suspended e) :
      Next c m i v (v.moveTo (.done (.error .interrupted)))
  | expired {e : UInt32} (late : m = .expire i) (asleep : v.phase = .suspended e) :
      Next c m i v (v.moveTo (.done (Reader.expire c.device).1))

@[simp] theorem mode_moveTo (v : Visit) (p : Reader.Phase) : (v.moveTo p).mode = v.mode := rfl

@[simp] theorem buffer_moveTo (v : Visit) (p : Reader.Phase) :
    (v.moveTo p).buffer = v.buffer := rfl

@[simp] theorem phase_moveTo (v : Visit) (p : Reader.Phase) : (v.moveTo p).phase = p := rfl

theorem Next.mode {c : Crowd ω} {m : Crowd.Move ω} {i : Nat} {v w : Visit}
    (next : v.Next c m i w) : w.mode = v.mode := by
  cases next <;> rfl

end Visit

namespace Crowd

variable {c d : Crowd ω} {m : Move ω}

def Onward (c : Crowd ω) (m : Move ω) (d : Crowd ω) : Prop :=
  d.visits.length = c.visits.length ∧
    ∀ (i : Nat) (v w : Visit), c.visits[i]? = some v → d.visits[i]? = some w → v.Next c m i w

theorem onward_of_visits_eq (other : ∀ i, m ≠ .advance i) (same : d.visits = c.visits) :
    c.Onward m d := by
  refine ⟨by rw [same], fun i v w before after => ?_⟩
  rw [same, before] at after
  exact Option.some.inj after ▸ .left (other i)

theorem onward_set {i : Nat} {v w : Visit} (at_i : c.visits[i]? = some v) (next : v.Next c m i w)
    (others : ∀ j, j ≠ i → m ≠ .advance j) (visits : d.visits = c.visits.set i w) :
    c.Onward m d := by
  refine ⟨by rw [visits, List.length_set], fun j u x before after => ?_⟩
  rw [visits] at after
  obtain ⟨rfl, rfl⟩ | ⟨other, still⟩ := getElem?_of_set after
  · obtain rfl := Option.some.inj (at_i.symm.trans before)
    exact next
  · rw [before] at still
    exact Option.some.inj still ▸ .left (others j other)

theorem onward_perform (i : Nat) (e : Errand) : c.Onward (.errand i) (c.perform i e) := by
  cases loud : e.notifies with
  | true =>
    rw [perform_of_notifies loud]
    refine ⟨List.length_map .., fun j v w before after => ?_⟩
    change (c.visits.map Visit.roused)[j]? = some w at after
    rw [List.getElem?_map, before] at after
    exact Option.some.inj after ▸ .roused (by simp)
  | false =>
    rw [perform_of_quiet loud]
    exact onward_of_visits_eq (by simp) rfl

theorem visits_leave {i : Nat} (h : c.step (.leave i) = some d) :
    d.visits = c.visits.eraseIdx i := by
  obtain ⟨v, -, ⟨f, -, ⟨-, rfl⟩ | ⟨buffer, -, rfl⟩⟩ | ⟨r, -, -, rfl⟩⟩ := leave_eq_some h <;> rfl

theorem visits_step (h : c.step m = some d) :
    (∃ r mode buffer, m = .visit r mode buffer ∧
      d.visits = c.visits ++ [Visit.start r mode buffer]) ∨
    (∃ i, m = .leave i ∧ d.visits = c.visits.eraseIdx i) ∨ c.Onward m d := by
  cases m with
  | visit r mode buffer =>
    obtain rfl := visit_eq_some h
    exact .inl ⟨r, mode, buffer, rfl, rfl⟩
  | leave i => exact .inr (.inl ⟨i, rfl, visits_leave h⟩)
  | order o =>
    obtain rfl | ⟨r, readers, -, rfl⟩ := undertake_eq_some h <;>
      exact .inr (.inr (onward_of_visits_eq (by simp) rfl))
  | errand i =>
    obtain ⟨e, -, -, rfl⟩ := stepErrand_eq_some h
    exact .inr (.inr (onward_perform i e))
  | advance i =>
    obtain ⟨v, at_i, rfl⟩ := stepVisit_eq_some h
    exact .inr (.inr (onward_set at_i (.advanced rfl) (by simp [eq_comm]) rfl))
  | signal i =>
    obtain ⟨v, e, at_i, asleep, rfl⟩ := signal_eq_some h
    exact .inr (.inr (onward_set at_i (.interrupted rfl asleep) (by simp) rfl))
  | expire i =>
    obtain ⟨v, e, at_i, asleep, rfl⟩ := expire_eq_some h
    exact .inr (.inr (onward_set at_i (.expired rfl asleep) (by simp) rfl))
  | drop k =>
    obtain ⟨f, -, -, rfl⟩ := drop_eq_some h
    exact .inr (.inr (onward_of_visits_eq (by simp) rfl))
  | detach k =>
    obtain ⟨f, -, rfl⟩ := detach_eq_some h
    exact .inr (.inr (onward_of_visits_eq (by simp) rfl))
  | _ =>
    obtain rfl := Option.some.inj h
    exact .inr (.inr (onward_of_visits_eq (by simp) rfl))

theorem mem_visits_step (h : c.step m = some d) {w : Visit} (member : w ∈ d.visits) :
    (∃ r mode buffer, m = .visit r mode buffer ∧ w = Visit.start r mode buffer) ∨
      ∃ v ∈ c.visits, w = v ∨ ∃ i, v.Next c m i w := by
  obtain ⟨r, mode, buffer, rfl, visits⟩ | ⟨i, -, visits⟩ | ⟨length, onward⟩ := visits_step h
  · rw [visits] at member
    rcases List.mem_append.mp member with old | new
    · exact .inr ⟨w, old, .inl rfl⟩
    · exact .inl ⟨r, mode, buffer, rfl, List.mem_singleton.mp new⟩
  · rw [visits] at member
    exact .inr ⟨w, List.mem_of_mem_eraseIdx member, .inl rfl⟩
  · obtain ⟨i, after⟩ := List.mem_iff_getElem?.mp member
    obtain ⟨inside, -⟩ := List.getElem?_eq_some_iff.mp after
    obtain ⟨v, before⟩ : ∃ v, c.visits[i]? = some v :=
      ⟨_, List.getElem?_eq_getElem (length ▸ inside)⟩
    exact .inr ⟨v, List.mem_of_getElem? before, .inr ⟨i, onward i v w before after⟩⟩

end Crowd

namespace Visit

structure Proper (v : Visit) : Prop where
  blocked : v.phase = .done (.error .wouldBlock) → v.mode = .nonblocking
  fault : v.phase = .done (.error .fault) → v.buffer = some []
  patient : v.phase.foundNone = true → v.mode ≠ .nonblocking

theorem proper_start (r : Nat) (mode : Mode) (buffer : Option Bytes) :
    (Visit.start r mode buffer).Proper := by
  by_cases empty : buffer = some [] <;> constructor <;>
    simp [start, empty, Reader.Phase.foundNone]

theorem Proper.roused {v : Visit} (proper : v.Proper) : v.roused.Proper := by
  obtain ⟨blocked, fault, patient⟩ := proper
  constructor <;> cases phase : v.phase <;>
    simp_all [Visit.roused, Reader.Phase.roused, Reader.Phase.foundNone]

theorem Proper.advanced {v : Visit} (proper : v.Proper) (r : Reader) (d : Device ω) :
    (v.moveTo (Reader.advance v.mode (v.phase, r, d)).1).Proper := by
  obtain ⟨blocked, fault, patient⟩ := proper
  cases phase : v.phase with
  | observed e =>
    constructor <;> simp only [Reader.advance, phase_moveTo, mode_moveTo, buffer_moveTo] <;>
      split <;> simp_all [Reader.Phase.foundNone]
  | missed e | undeterred e | resigned e =>
    constructor <;> simp only [Reader.advance, phase_moveTo, mode_moveTo, buffer_moveTo] <;>
      split <;> simp_all [Reader.Phase.foundNone]
  | looking | suspended e | done result =>
    constructor <;> simp_all [Reader.advance, Reader.Phase.foundNone]

theorem Proper.next {c : Crowd ω} {m : Crowd.Move ω} {i : Nat} {v w : Visit} (proper : v.Proper)
    (next : v.Next c m i w) : w.Proper := by
  cases next with
  | left other => exact proper
  | roused other => exact proper.roused
  | advanced own => exact proper.advanced _ _
  | interrupted hit asleep => constructor <;> simp [Reader.Phase.foundNone]
  | expired late asleep =>
    constructor <;> simp only [phase_moveTo, Reader.expire] <;> split <;>
      simp [Reader.Phase.foundNone]

end Visit

namespace Crowd

theorem proper_of_run {d : Device ω} {readers : Nat} {ms : List (Move ω)} {c : Crowd ω}
    (ran : (start d readers).run ms = some c) : ∀ v ∈ c.visits, v.Proper := by
  refine run_invariant (P := fun c => ∀ v ∈ c.visits, v.Proper) ?_ (by simp [start]) ran
  intro c d m proper h w member
  obtain ⟨r, mode, buffer, -, rfl⟩ | ⟨v, there, rfl | ⟨i, next⟩⟩ := mem_visits_step h member
  · exact Visit.proper_start r mode buffer
  · exact proper w there
  · exact (proper v there).next next

/-- On some device and among some callers, taking a frame in this mode can come to `result`. -/
def Brings (mode : Mode) (result : Except ReadError Taken) : Prop :=
  ∃ (ω : Type) (d : Device ω) (readers : Nat) (ms : List (Move ω)) (c : Crowd ω),
    (start d readers).run ms = some c ∧
      ∃ v ∈ c.visits, v.mode = mode ∧ v.buffer = none ∧ v.phase = .done result

theorem Brings.of_blocking {timeout : Option Millis} {result : Except ReadError Taken}
    (brought : Brings (.blocking timeout) result) :
    result ≠ .error .wouldBlock ∧ result ≠ .error .fault := by
  obtain ⟨ω, d, readers, ms, c, ran, v, member, mode, buffer, ended⟩ := brought
  have proper := proper_of_run ran v member
  refine ⟨?_, ?_⟩ <;> rintro rfl
  · simp [proper.blocked ended] at mode
  · simp [proper.fault ended] at buffer

end Crowd

end Framecast.Device
