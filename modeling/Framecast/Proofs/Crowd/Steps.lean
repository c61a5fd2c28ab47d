import Framecast.Device.Crowd
import Framecast.Proofs.Positions

set_option autoImplicit false

namespace Framecast.Device.Crowd

variable {ω : Type} {c d : Crowd ω}

theorem undertake_eq_some {o : Order} (h : c.undertake o = some d) :
    d = c.addErrand o.errand ∨
      ∃ r readers, o = .cancel r ∧ d = { c with readers := readers }.addErrand .alerting := by
  cases o with
  | cancel r =>
    simp only [undertake] at h
    split at h
    next => simp at h
    next => exact .inr ⟨r, _, rfl, (Option.some.inj h).symm⟩
  | _ => exact .inl (Option.some.inj h).symm

theorem stepErrand_eq_some {i : Nat} (h : c.stepErrand i = some d) :
    ∃ e, c.errands[i]? = some e ∧ e.stalls c.device = false ∧ d = c.perform i e := by
  simp only [stepErrand] at h
  split at h
  next => simp at h
  next e at_i =>
    split at h
    next => simp at h
    next free => exact ⟨e, at_i, by simpa using free, (Option.some.inj h).symm⟩

theorem perform_of_notifies {i : Nat} {e : Errand} (loud : e.notifies = true) :
    c.perform i e =
      rouse { c with
        errands := c.errands.set i (Errand.step (e, c.device)).1
        device := (Errand.step (e, c.device)).2
        numbered := c.numbered ++ e.label c.device } := if_pos loud

theorem perform_of_quiet {i : Nat} {e : Errand} (quiet : e.notifies = false) :
    c.perform i e =
      { c with
        errands := c.errands.set i (Errand.step (e, c.device)).1
        device := (Errand.step (e, c.device)).2
        numbered := c.numbered ++ e.label c.device } := if_neg (by simp [quiet])

theorem stepVisit_eq_some {i : Nat} (h : c.stepVisit i = some d) :
    ∃ v, c.visits[i]? = some v ∧
      d = { c.setPhase i v (Reader.advance v.mode (v.phase, c.reader v.reader, c.device)).1 with
        readers :=
          c.readers.set v.reader
            (Reader.advance v.mode (v.phase, c.reader v.reader, c.device)).2.1
        device := (Reader.advance v.mode (v.phase, c.reader v.reader, c.device)).2.2 } := by
  simp only [stepVisit] at h
  split at h
  next => simp at h
  next v at_i => exact ⟨v, at_i, (Option.some.inj h).symm⟩

theorem signal_eq_some {i : Nat} (h : c.signal i = some d) :
    ∃ v e, c.visits[i]? = some v ∧ v.phase = .suspended e ∧
      d = c.setPhase i v (.done (.error .interrupted)) := by
  simp only [signal] at h
  split at h
  next v at_i =>
    split at h
    next e asleep => exact ⟨v, e, at_i, asleep, (Option.some.inj h).symm⟩
    next => simp at h
  next => simp at h

theorem expire_eq_some {i : Nat} (h : c.expire i = some d) :
    ∃ v e, c.visits[i]? = some v ∧ v.phase = .suspended e ∧
      d = { c.setPhase i v (.done (Reader.expire c.device).1) with
        device := (Reader.expire c.device).2 } := by
  simp only [expire] at h
  split at h
  next v at_i =>
    split at h
    next e _ asleep _ => exact ⟨v, e, at_i, asleep, (Option.some.inj h).symm⟩
    next => simp at h
  next => simp at h

theorem leave_eq_some {i : Nat} (h : c.leave i = some d) :
    ∃ v, c.visits[i]? = some v ∧
      ((∃ f, v.phase = .done (.ok (.frame f)) ∧
          ((v.buffer = none ∧
              d = { c with visits := c.visits.eraseIdx i, held := c.held ++ [f] }) ∨
            ∃ buffer, v.buffer = some buffer ∧
              d = { c with visits := c.visits.eraseIdx i }.copyOut f buffer)) ∨
        (∃ r, v.phase = .done r ∧ (∀ f, r ≠ .ok (.frame f)) ∧
          d = { c with visits := c.visits.eraseIdx i })) := by
  simp only [leave] at h
  split at h
  next v at_i =>
    refine ⟨v, at_i, ?_⟩
    split at h
    next f taken =>
      refine .inl ⟨f, taken, ?_⟩
      split at h
      next whole => exact .inl ⟨whole, (Option.some.inj h).symm⟩
      next buffer read => exact .inr ⟨buffer, read, (Option.some.inj h).symm⟩
    next r other ended =>
      exact .inr ⟨_, ended, by simpa using other, (Option.some.inj h).symm⟩
    next => simp at h
  next => simp at h

theorem drop_eq_some {k : Nat} (h : c.step (.drop k) = some d) :
    ∃ f, c.held[k]? = some f ∧ f.loan.any c.device.stalls = false ∧
      d = { c with held := c.held.eraseIdx k, device := c.device.drop f } := by
  simp only [step] at h
  split at h
  next f at_k =>
    split at h
    next => simp at h
    next free => exact ⟨f, at_k, by simpa using free, (Option.some.inj h).symm⟩
  next => simp at h

theorem detach_eq_some {k : Nat} (h : c.step (.detach k) = some d) :
    ∃ f, c.held[k]? = some f ∧
      d = { c with held := c.held.eraseIdx k, detached := c.detached ++ f.loan } := by
  simp only [step] at h
  split at h
  next f at_k => exact ⟨f, at_k, (Option.some.inj h).symm⟩
  next => simp at h

theorem visit_eq_some {r : Nat} {mode : Mode} {buffer : Option Bytes}
    (h : c.step (.visit r mode buffer) = some d) :
    d = { c with visits := c.visits ++ [Visit.start r mode buffer] } := by
  simp only [step] at h
  split at h
  next => exact (Option.some.inj h).symm
  next => simp at h

theorem device_perform (i : Nat) (e : Errand) :
    (c.perform i e).device = (Errand.step (e, c.device)).2 := by
  cases loud : e.notifies with
  | true => rw [perform_of_notifies loud]; rfl
  | false => rw [perform_of_quiet loud]

theorem errands_perform (i : Nat) (e : Errand) :
    (c.perform i e).errands = c.errands.set i (Errand.step (e, c.device)).1 := by
  cases loud : e.notifies with
  | true => rw [perform_of_notifies loud]; rfl
  | false => rw [perform_of_quiet loud]

theorem readers_set_reader (c : Crowd ω) (r : Nat) : c.readers.set r (c.reader r) = c.readers := by
  refine List.ext_getElem? fun k => ?_
  rw [List.getElem?_set]
  split
  next same =>
    subst same
    split
    next inside => simp [reader, inside]
    next outside => simp [outside]
  next => rfl

theorem getD_set_reader {rs : List Reader} {k : Nat} {x : Reader} (r : Nat)
    (inside : k < rs.length) :
    (rs.set k x)[r]?.getD {} = if k = r then x else rs[r]?.getD {} := by
  rw [List.getElem?_set]
  split
  next => rfl
  next => rfl

theorem readers_step {m : Move ω} (h : c.step m = some d) :
    ((∀ i, m ≠ .advance i) ∧ (∀ r, m ≠ .order (.cancel r)) ∧ d.readers = c.readers) ∨
      (∃ r, m = .order (.cancel r) ∧ r < c.readers.length ∧
        d.readers = c.readers.set r { cancelled := true }) ∨
      (∃ r, m = .reset r ∧ d.readers = c.readers.set r (c.reader r).reset) ∨
      ∃ i v, m = .advance i ∧ c.visits[i]? = some v ∧ d.readers = c.readers.set v.reader
        (Reader.advance v.mode (v.phase, c.reader v.reader, c.device)).2.1 := by
  cases m with
  | order o =>
    cases o with
    | cancel r =>
      simp only [step, undertake] at h
      split at h
      next => simp at h
      next x at_r =>
        obtain rfl := Option.some.inj h
        obtain ⟨inside, -⟩ := List.getElem?_eq_some_iff.mp at_r
        exact .inr (.inl ⟨r, rfl, inside, rfl⟩)
    | _ =>
      obtain rfl := Option.some.inj h
      exact .inl ⟨by simp, by simp, rfl⟩
  | advance i =>
    obtain ⟨v, at_i, rfl⟩ := stepVisit_eq_some h
    exact .inr (.inr (.inr ⟨i, v, rfl, at_i, rfl⟩))
  | reset r =>
    obtain rfl := Option.some.inj h
    exact .inr (.inr (.inl ⟨r, rfl, rfl⟩))
  | errand i =>
    obtain ⟨e, -, -, rfl⟩ := stepErrand_eq_some h
    refine .inl ⟨by simp, by simp, ?_⟩
    cases loud : e.notifies with
    | true => rw [perform_of_notifies loud]; rfl
    | false => rw [perform_of_quiet loud]
  | visit r mode buffer =>
    obtain rfl := visit_eq_some h
    exact .inl ⟨by simp, by simp, rfl⟩
  | signal i =>
    obtain ⟨v, _, -, -, rfl⟩ := signal_eq_some h
    exact .inl ⟨by simp, by simp, rfl⟩
  | expire i =>
    obtain ⟨v, _, -, -, rfl⟩ := expire_eq_some h
    exact .inl ⟨by simp, by simp, rfl⟩
  | leave i =>
    obtain ⟨v, -, ⟨f, -, ⟨-, rfl⟩ | ⟨buffer, -, rfl⟩⟩ | ⟨r, -, -, rfl⟩⟩ := leave_eq_some h <;>
      exact .inl ⟨by simp, by simp, rfl⟩
  | drop k =>
    obtain ⟨f, -, -, rfl⟩ := drop_eq_some h
    exact .inl ⟨by simp, by simp, rfl⟩
  | detach k =>
    obtain ⟨f, -, rfl⟩ := detach_eq_some h
    exact .inl ⟨by simp, by simp, rfl⟩
  | _ =>
    obtain rfl := Option.some.inj h
    exact .inl ⟨by simp, by simp, rfl⟩

theorem errands_step {m : Move ω} (h : c.step m = some d) :
    ((∀ i, m ≠ .errand i) ∧ d.errands = c.errands) ∨
      (∃ o, m = .order o ∧ d.errands = c.errands ++ [o.errand]) ∨
      (∃ i f, m = .leave i ∧ d.errands = c.errands ++ [.releasing f]) ∨
      ∃ i e, m = .errand i ∧ c.errands[i]? = some e ∧
        d.errands = c.errands.set i (Errand.step (e, c.device)).1 := by
  cases m with
  | order o =>
    obtain rfl | ⟨r, readers, rfl, rfl⟩ := undertake_eq_some h
    · exact .inr (.inl ⟨o, rfl, rfl⟩)
    · exact .inr (.inl ⟨.cancel r, rfl, rfl⟩)
  | errand i =>
    obtain ⟨e, at_i, -, rfl⟩ := stepErrand_eq_some h
    exact .inr (.inr (.inr ⟨i, e, rfl, at_i, errands_perform i e⟩))
  | leave i =>
    obtain ⟨v, -, ⟨f, -, ⟨-, rfl⟩ | ⟨buffer, -, rfl⟩⟩ | ⟨r, -, -, rfl⟩⟩ := leave_eq_some h
    · exact .inl ⟨by simp, rfl⟩
    · exact .inr (.inr (.inl ⟨i, f, rfl, rfl⟩))
    · exact .inl ⟨by simp, rfl⟩
  | visit r mode buffer =>
    obtain rfl := visit_eq_some h
    exact .inl ⟨by simp, rfl⟩
  | advance i =>
    obtain ⟨v, -, rfl⟩ := stepVisit_eq_some h
    exact .inl ⟨by simp, rfl⟩
  | signal i =>
    obtain ⟨v, _, -, -, rfl⟩ := signal_eq_some h
    exact .inl ⟨by simp, rfl⟩
  | expire i =>
    obtain ⟨v, _, -, -, rfl⟩ := expire_eq_some h
    exact .inl ⟨by simp, rfl⟩
  | drop k =>
    obtain ⟨f, -, -, rfl⟩ := drop_eq_some h
    exact .inl ⟨by simp, rfl⟩
  | detach k =>
    obtain ⟨f, -, rfl⟩ := detach_eq_some h
    exact .inl ⟨by simp, rfl⟩
  | _ =>
    obtain rfl := Option.some.inj h
    exact .inl ⟨by simp, rfl⟩

theorem mem_errands_step {m : Move ω} (h : c.step m = some d) {e : Errand}
    (member : e ∈ d.errands) :
    e ∈ c.errands ∨ (∃ o, m = .order o ∧ e = o.errand) ∨ (∃ f, e = .releasing f) ∨
      ∃ e' ∈ c.errands, e = (Errand.step (e', c.device)).1 := by
  obtain ⟨-, same⟩ | ⟨o, rfl, same⟩ | ⟨i, f, -, same⟩ | ⟨i, e', -, at_i, same⟩ :=
    errands_step h <;> rw [same] at member
  · exact .inl member
  · refine (List.mem_append.mp member).imp_right fun new => ?_
    exact .inl ⟨o, rfl, List.mem_singleton.mp new⟩
  · refine (List.mem_append.mp member).imp_right fun new => ?_
    exact .inr (.inl ⟨f, List.mem_singleton.mp new⟩)
  · refine (List.mem_or_eq_of_mem_set member).imp_right fun new => ?_
    exact .inr (.inr ⟨e', List.mem_of_getElem? at_i, new⟩)

theorem run_invariant {P : Crowd ω → Prop} (preserved : ∀ c d m, P c → c.step m = some d → P d)
    (initial : P c) {ms : List (Move ω)} (ran : c.run ms = some d) : P d := by
  induction ms generalizing c with
  | nil => exact Option.some.inj ran ▸ initial
  | cons m ms ih =>
    obtain ⟨e, first, rest⟩ := Option.bind_eq_some_iff.mp ran
    exact ih (preserved c e m initial first) rest

theorem run_append (c : Crowd ω) (before after : List (Move ω)) :
    c.run (before ++ after) = (c.run before).bind fun d => d.run after := by
  induction before generalizing c with
  | nil => rfl
  | cons m before ih => simp only [List.cons_append, run, ih, Option.bind_assoc]

def along {α : Type} (note : Crowd ω → Move ω → List α) (c : Crowd ω) : List (Move ω) → List α
  | [] => []
  | m :: ms =>
    note c m ++
      match c.step m with
      | some d => along note d ms
      | none => []

theorem along_cons {α : Type} {note : Crowd ω → Move ω → List α} {m : Move ω}
    {ms : List (Move ω)} (h : c.step m = some d) :
    along note c (m :: ms) = note c m ++ along note d ms := by
  rw [along, h]

theorem along_append {α : Type} {note : Crowd ω → Move ω → List α} {before after : List (Move ω)}
    (ran : c.run before = some d) :
    along note c (before ++ after) = along note c before ++ along note d after := by
  induction before generalizing c with
  | nil => rw [Option.some.inj ran, List.nil_append, along, List.nil_append]
  | cons m ms ih =>
    obtain ⟨e, first, rest⟩ := Option.bind_eq_some_iff.mp ran
    rw [List.cons_append, along_cons first, along_cons first, ih rest, List.append_assoc]

end Framecast.Device.Crowd
