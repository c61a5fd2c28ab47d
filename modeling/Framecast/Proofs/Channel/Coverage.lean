import Framecast.Channel.Sleepers

set_option autoImplicit false

namespace Framecast

namespace Sleepers

variable {s t : Sleepers} {m : Move} {i j : Nat} {w w' : Waiter}

def Waiter.weight (w : Waiter) : UInt32 := if w.isCounted then 1 else 0

def Shifts (s t : Sleepers) : Prop :=
  ∃ (i : Nat) (w w' : Waiter), s.waiters[i]? = some w ∧ (∀ o, w' = .asleep o → o = s.epoch) ∧
    t = { s with count := s.count - w.weight + w'.weight }.setWaiter i w'

theorem shifts_of_set {count : UInt32} (at_i : s.waiters[i]? = some w)
    (agreed : ∀ o, w' = .asleep o → o = s.epoch)
    (weighed : count = s.count - w.weight + w'.weight)
    (set : some ({ s with count := count }.setWaiter i w') = some t) : s.Shifts t :=
  ⟨i, w, w', at_i, agreed, weighed ▸ (Option.some.inj set).symm⟩

theorem step_cases (h : s.step m = some t) :
    t = s ∨ s.Shifts t ∨
    (∃ j, s.notifiers[j]? = some .idle ∧
      t = { s with epoch := s.epoch + 1 }.setNotifier j .moved) ∨
    (∃ j, s.notifiers[j]? = some .moved ∧
      t = s.setNotifier j (if 0 < s.count then .waking else .idle)) ∨
    (∃ j, s.notifiers[j]? = some .waking ∧
      t = { s with waiters := s.waiters.map Waiter.woken }.setNotifier j .idle) := by
  cases m with
  | compare i observed =>
    simp only [step] at h
    split at h
    next at_i =>
      split at h
      next =>
        exact .inr (.inl (shifts_of_set at_i (by simp)
          (by simp [Waiter.weight, Waiter.isCounted]) h))
      next => exact .inl (Option.some.inj h).symm
    next => simp at h
  | count i =>
    simp only [step] at h
    split at h
    next at_i =>
      exact .inr (.inl (shifts_of_set at_i (by simp)
        (by simp [Waiter.weight, Waiter.isCounted]) h))
    next => simp at h
  | sleep i =>
    simp only [step] at h
    split at h
    next at_i =>
      refine .inr (.inl (shifts_of_set at_i ?_ ?_ h)) <;> split <;>
        simp_all [Waiter.weight, Waiter.isCounted]
    next => simp at h
  | rouse i =>
    simp only [step] at h
    split at h
    next at_i =>
      exact .inr (.inl (shifts_of_set at_i (by simp)
        (by simp [Waiter.weight, Waiter.isCounted]) h))
    next => simp at h
  | uncount i =>
    simp only [step] at h
    split at h
    next at_i =>
      exact .inr (.inl (shifts_of_set at_i (by simp)
        (by simp [Waiter.weight, Waiter.isCounted]) h))
    next => simp at h
  | advance j =>
    simp only [step] at h
    split at h
    next at_j => exact .inr (.inr (.inl ⟨j, at_j, (Option.some.inj h).symm⟩))
    next => simp at h
  | load j =>
    simp only [step] at h
    split at h
    next at_j => exact .inr (.inr (.inr (.inl ⟨j, at_j, (Option.some.inj h).symm⟩)))
    next => simp at h
  | wake j =>
    simp only [step] at h
    split at h
    next at_j => exact .inr (.inr (.inr (.inr ⟨j, at_j, (Option.some.inj h).symm⟩)))
    next => simp at h

@[simp] theorem Waiter.isCounted_woken (w : Waiter) : w.woken.isCounted = w.isCounted := by
  cases w <;> rfl

theorem Waiter.woken_ne_asleep (w : Waiter) (o : UInt32) : w.woken ≠ .asleep o := by
  cases w <;> simp [woken]

/-- Some notifier has moved the epoch and has yet to wake the sleepers. -/
def Ringing (s : Sleepers) : Prop := ∃ n ∈ s.notifiers, n = .moved ∨ n = .waking

/-- The count is right, and who sleeps at an old epoch is about to be woken. -/
structure Sound (s : Sleepers) : Prop where
  few : s.waiters.length < UInt32.size
  count : s.count.toNat = s.waiters.countP Waiter.isCounted
  covered : ∀ o, .asleep o ∈ s.waiters → o ≠ s.epoch → s.Ringing

theorem sound_start {waiters notifiers : Nat} (few : waiters < UInt32.size) :
    (start waiters notifiers).Sound where
  few := by simpa [start] using few
  count := by simp [start, List.countP_replicate, Waiter.isCounted]
  covered o asleep := by simp [start] at asleep

namespace Sound

theorem count_pos (sound : s.Sound) {o : UInt32} (asleep : .asleep o ∈ s.waiters) :
    0 < s.count := by
  have some_counted : 0 < s.waiters.countP Waiter.isCounted :=
    List.countP_pos_iff.mpr ⟨_, asleep, rfl⟩
  rw [UInt32.lt_iff_toNat_lt, sound.count]
  exact some_counted

theorem count_set (sound : s.Sound) (at_i : s.waiters[i]? = some w) :
    (s.count - w.weight + w'.weight).toNat = (s.waiters.set i w').countP Waiter.isCounted := by
  obtain ⟨inside, here⟩ := List.getElem?_eq_some_iff.mp at_i
  have few := sound.few
  have before := sound.count
  have after := List.countP_set (p := Waiter.isCounted) (a := w') inside
  have most : (s.waiters.set i w').countP Waiter.isCounted ≤ s.waiters.length := by
    simpa using List.countP_le_length (p := Waiter.isCounted) (l := s.waiters.set i w')
  have own : w.isCounted = true → 0 < s.waiters.countP Waiter.isCounted := fun counted =>
    List.countP_pos_iff.mpr ⟨w, List.mem_of_getElem? at_i, counted⟩
  rw [here] at after
  rw [UInt32.toNat_add, UInt32.toNat_sub, before, after]
  simp only [UInt32.size] at few
  cases counted : w.isCounted <;> cases counted' : w'.isCounted <;>
    simp only [counted, counted', Waiter.weight, if_true, Bool.false_eq_true, if_false,
      UInt32.toNat_zero, UInt32.toNat_one, true_implies] at after own ⊢ <;> omega

theorem shift (sound : s.Sound) (shifts : s.Shifts t) : t.Sound := by
  obtain ⟨i, w, w', at_i, agreed, rfl⟩ := shifts
  constructor
  case few => simpa [setWaiter] using sound.few
  case count => exact sound.count_set at_i
  case covered =>
    intro o asleep late
    rcases List.mem_or_eq_of_mem_set asleep with other | own
    · exact sound.covered o other late
    · exact absurd (agreed o own.symm) late

theorem ringing_set {n : Notifier} (inside : j < s.notifiers.length)
    (new : n = .moved ∨ n = .waking) : (s.setNotifier j n).Ringing :=
  ⟨n, List.mem_set inside n, new⟩

theorem step (sound : s.Sound) (h : s.step m = some t) : t.Sound := by
  obtain rfl | shifts | ⟨j, idle, rfl⟩ | ⟨j, moved, rfl⟩ | ⟨j, waking, rfl⟩ := step_cases h
  · exact sound
  · exact sound.shift shifts
  · obtain ⟨inside, -⟩ := List.getElem?_eq_some_iff.mp idle
    exact ⟨sound.few, sound.count, fun _ _ _ => ringing_set inside (.inl rfl)⟩
  · obtain ⟨inside, -⟩ := List.getElem?_eq_some_iff.mp moved
    refine ⟨sound.few, sound.count, fun o asleep _ => ?_⟩
    -- whoever sleeps is counted, so the wake is not skipped
    rw [if_pos (sound.count_pos asleep)]
    exact ringing_set inside (.inr rfl)
  · refine ⟨by simpa [setNotifier] using sound.few, ?_, fun o asleep => ?_⟩
    · simpa [setNotifier, List.countP_map, Function.comp_def] using sound.count
    · obtain ⟨w, -, woken⟩ := List.mem_map.mp asleep
      exact absurd woken (w.woken_ne_asleep o)

theorem run {ms : List Move} (sound : s.Sound) (ran : s.run ms = some t) : t.Sound := by
  induction ms generalizing s with
  | nil => exact Option.some.inj ran ▸ sound
  | cons m ms ih =>
    obtain ⟨u, first, rest⟩ := Option.bind_eq_some_iff.mp ran
    exact ih (sound.step first) rest

end Sound

/--
However waiters and notifiers get in each other's way: the count is the number of waiters that have
been counted and not yet been taken off, and a waiter that sleeps at an old epoch is about to be
woken by a notifier that moved the epoch on and cannot pass over its wake. So once all notifiers are
done whoever sleeps does so at the epoch there is.
-/
theorem covered_of_run {waiters notifiers : Nat} {ms : List Move} {s : Sleepers}
    (few : waiters < UInt32.size) (ran : (start waiters notifiers).run ms = some s) :
    s.count.toNat = s.waiters.countP Waiter.isCounted ∧
    (∀ o, .asleep o ∈ s.waiters → o ≠ s.epoch →
      ∃ n ∈ s.notifiers, n = .moved ∨ n = .waking) ∧
    (∀ o j, .asleep o ∈ s.waiters → s.notifiers[j]? = some .moved →
      s.step (.load j) = some (s.setNotifier j .waking)) ∧
    ((∀ n ∈ s.notifiers, n = .idle) → ∀ o, .asleep o ∈ s.waiters → o = s.epoch) := by
  have sound := (sound_start few).run ran
  refine ⟨sound.count, sound.covered, fun o j asleep moved => ?_, fun idle o asleep => ?_⟩
  · simp only [step, moved, if_pos (sound.count_pos asleep)]
  · refine Decidable.byContradiction fun late => ?_
    obtain ⟨n, there, busy⟩ := sound.covered o asleep late
    rw [idle n there] at busy
    simp at busy

-- the first notifier sees nobody counted; the second moves the epoch under a waiter that sleeps
def lateSleeper : List Move :=
  [.advance 0, .compare 0 1, .load 0, .count 0, .sleep 0, .advance 1]

theorem covered_of_run_lateSleeper :
    ∃ s, (start 1 2).run lateSleeper = some s ∧ s.waiters = [.asleep 1] ∧ s.epoch = 2 ∧
      s.notifiers[0]? = some .idle ∧ s.count.toNat = 1 ∧
      (∃ n ∈ s.notifiers, n = .moved ∨ n = .waking) ∧
      s.step (.load 1) = some (s.setNotifier 1 .waking) := by
  refine ⟨_, rfl, rfl, rfl, rfl, ?_⟩
  obtain ⟨count, covered, wakes, -⟩ :=
    @covered_of_run 1 2 lateSleeper _ (by decide) rfl
  refine ⟨count, covered 1 (List.mem_singleton.mpr rfl) (by decide), ?_⟩
  exact wakes 1 1 (List.mem_singleton.mpr rfl) rfl

end Sleepers

end Framecast
