import Framecast.Proofs.Crowd.Release

set_option autoImplicit false

namespace Framecast.Device

variable {ω : Type}

namespace Crowd

variable {c d x y b : Crowd ω} {i j k n : Nat} {v w : Visit} {e : Errand} {f : Frame}
  {seq : UInt64} {o : Order} {turns : List Nat}

def Shows (x : Crowd ω) (seq : UInt64) : Prop :=
  ∃ f : Frame, f.seq = seq ∧ x.device.mailbox.frame = some f ∧ x.device.mailbox.ready = true ∧
    x.device.mailbox.closed = false

-- what a call that began in `c` has made of the crowd by the time it is at its stage. Calls that
-- have failed, and those that close or cancel, do not come to publish.
def Course (c x : Crowd ω) : Errand → Prop
  | .firing | .popping | .numbering _ | .offering _ _ | .labelling _ _ | .depositing _ =>
    x.visits = c.visits ∧ x.readers = c.readers
  | .displacing _ seq | .counting seq | .announcing seq =>
    x.visits = c.visits ∧ x.readers = c.readers ∧ x.Shows seq
  | .done (.ok (.published seq)) =>
    x.visits = c.visits.map Visit.roused ∧ x.readers = c.readers ∧ x.Shows seq
  | _ => True

theorem Shows.of_mailbox (shows : x.Shows seq) (same : y.device.mailbox = x.device.mailbox) :
    y.Shows seq := by
  obtain ⟨f, number, box, ready, opened⟩ := shows
  exact ⟨f, number, same ▸ box, same ▸ ready, same ▸ opened⟩

theorem quiet_perform (quiet : e.notifies = false) :
    (x.perform k e).visits = x.visits ∧ (x.perform k e).readers = x.readers := by
  rw [perform_of_quiet quiet]
  exact ⟨rfl, rfl⟩

theorem Course.perform (course : c.Course x e) :
    c.Course (x.perform k e) (Errand.step (e, x.device)).1 := by
  have device := device_perform (c := x) k e
  have before (quiet : e.notifies = false) (same : x.visits = c.visits ∧ x.readers = c.readers) :
      (x.perform k e).visits = c.visits ∧ (x.perform k e).readers = c.readers := by
    obtain ⟨visits, readers⟩ := quiet_perform (x := x) (k := k) quiet
    exact ⟨visits.trans same.1, readers.trans same.2⟩
  cases e with
  | firing =>
    simp only [Errand.step]
    split
    next => trivial
    next =>
      split
      next => trivial
      next => exact before rfl course
  | popping =>
    simp only [Errand.step]
    split
    next => trivial
    next => exact before rfl course
  | numbering buffer =>
    obtain ⟨_, -, same⟩ | ⟨_, _, _, -, ⟨-, same⟩ | ⟨-, same⟩⟩ :=
      Errand.step_numbering_cases buffer x.device <;> rw [same]
    · trivial
    · trivial
    · exact before rfl course
  | offering memory data =>
    simp only [Errand.step]
    split
    next => trivial
    next =>
      split
      next => trivial
      next =>
        split
        next => trivial
        next =>
          split
          next => trivial
          next => exact before rfl course
  | labelling data kept => exact before rfl course
  | depositing f =>
    cases closed : x.device.mailbox.closed with
    | true =>
      rw [Errand.step_depositing_closed closed]
      trivial
    | false =>
      rw [Errand.step_depositing_open closed] at device ⊢
      obtain ⟨visits, readers⟩ := before rfl course
      exact ⟨visits, readers, f, rfl, by rw [device], by rw [device], by rw [device, closed]⟩
  | displacing old seq =>
    obtain ⟨visits, readers⟩ := before rfl ⟨course.1, course.2.1⟩
    refine ⟨visits, readers, course.2.2.of_mailbox ?_⟩
    rw [device]
    exact mailbox_dropAny x.device old
  | counting seq =>
    obtain ⟨visits, readers⟩ := before rfl ⟨course.1, course.2.1⟩
    exact ⟨visits, readers, course.2.2.of_mailbox (by rw [device]; rfl)⟩
  | announcing seq =>
    rw [perform_of_notifies rfl]
    exact ⟨congrArg (List.map Visit.roused) course.1, course.2.1, course.2.2.of_mailbox rfl⟩
  | done result =>
    rcases result with _ | ⟨seq⟩ | _ | _
    case ok.published =>
      obtain ⟨visits, readers⟩ :=
        quiet_perform (x := x) (k := k) (e := .done (.ok (.published seq))) rfl
      exact ⟨visits.trans course.1, readers.trans course.2.1,
        course.2.2.of_mailbox (by rw [device]; rfl)⟩
    all_goals trivial
  | closing =>
    simp only [Errand.step]
    split <;> trivial
  | _ => trivial

theorem course_run (course : c.Course x e) (at_k : x.errands[k]? = some e)
    (ran : x.run (List.replicate n (.errand k)) = some b) {e' : Errand}
    (ended : b.errands[k]? = some e') : c.Course b e' := by
  induction n generalizing x e with
  | zero =>
    obtain rfl := Option.some.inj ran
    obtain rfl := Option.some.inj (at_k.symm.trans ended)
    exact course
  | succ n ih =>
    rw [List.replicate_succ] at ran
    obtain ⟨y, first, rest⟩ := Option.bind_eq_some_iff.mp ran
    obtain ⟨e'', at_k', -, rfl⟩ := stepErrand_eq_some first
    obtain rfl := Option.some.inj (at_k.symm.trans at_k')
    refine ih course.perform ?_ rest
    rw [errands_perform, List.getElem?_set_self (List.getElem?_eq_some_iff.mp at_k).1]

/-- A call is begun and has, by steps of its own, published frame `seq`. -/
structure Publishes (c : Crowd ω) (o : Order) (n : Nat) (seq : UInt64) (b : Crowd ω) : Prop where
  called : c.run (.order o :: List.replicate n (.errand c.errands.length)) = some b
  published : b.errands[c.errands.length]? = some (.done (.ok (.published seq)))

theorem Publishes.course (publishes : c.Publishes o n seq b) :
    b.visits = c.visits.map Visit.roused ∧ b.readers = c.readers ∧ b.Shows seq := by
  obtain ⟨x, begun, rest⟩ := Option.bind_eq_some_iff.mp publishes.called
  have first : c.Course x o.errand ∧ x.errands[c.errands.length]? = some o.errand := by
    obtain rfl | ⟨r, readers, rfl, rfl⟩ := undertake_eq_some begun
    · refine ⟨?_, by simp [addErrand]⟩
      cases o with
      | close | cancel r => trivial
      | _ => exact ⟨rfl, rfl⟩
    · exact ⟨trivial, by simp [addErrand, Order.errand]⟩
  exact course_run first.1 first.2 rest publishes.published

/-- Who makes a step in turn: all that were suspended in `c`, at least five times each. -/
structure Turns (c : Crowd ω) (turns : List Nat) : Prop where
  woken : ∀ j ∈ turns, c.Waits j
  enough : ∀ j, c.Waits j → 5 ≤ turns.count j

theorem Turns.toEnough (fair : c.Turns turns) : c.Enough x turns := by
  intro j w waits _
  have five : w.phase.stepsToGo ≤ 5 := by
    cases w.phase <;> simp [Reader.Phase.stepsToGo]
  exact Nat.le_trans five (fair.enough j waits)

theorem phase_roused {u : Visit} (asleep : u.phase.isSuspended = true) :
    u.roused.phase = .looking := by
  cases phase : u.phase <;>
    simp_all [Reader.Phase.isSuspended, Visit.roused, Reader.Phase.roused]

theorem turning_roused (epoch : UInt32) (u : Visit) : Turning epoch u u.roused where
  reader := rfl
  mode := rfl
  buffer := rfl
  awake up := by
    cases phase : u.phase <;>
      simp_all [Reader.Phase.isSuspended, Visit.roused, Reader.Phase.roused]
  round asleep := by
    rw [phase_roused asleep]
    trivial

theorem returning_roused {away : Nat → Prop} (visits : x.visits = c.visits.map Visit.roused) :
    c.Returning x away where
  length := by rw [visits, List.length_map]
  turning j u w _ before after := by
    rw [visits, List.getElem?_map, before] at after
    exact Option.some.inj after ▸ turning_roused _ u

-- the device is still as it was with the frame in it, for whoever looks first
structure Offered (c x : Crowd ω) (before : Device ω) : Prop where
  returning : c.Returning x fun _ => False
  device : x.device = before
  readers : x.readers = c.readers
  early : ∀ (j : Nat) (u w : Visit), c.visits[j]? = some u → u.phase.isSuspended = true →
    x.visits[j]? = some w → 4 ≤ w.phase.stepsToGo

theorem Offered.turn {a : Device ω} (offered : c.Offered x a) (box : a.mailbox.frame = some f)
    (ready : a.mailbox.ready = true) (waits : c.Waits j) (at_j : x.visits[j]? = some w) :
    ∃ y p, x.step (.advance j) = some y ∧ y.visits = x.visits.set j (w.moveTo p) ∧
      p.stepsToGo ≤ w.phase.stepsToGo - 1 ∧
      (c.Offered y a ∨ c.Decided y a.collect.2 j (.ok (.frame f))) := by
  obtain ⟨returning, rfl, readers, early⟩ := offered
  obtain ⟨inside, -⟩ := List.getElem?_eq_some_iff.mp at_j
  obtain ⟨u, before, asleep⟩ := waits
  have turning := returning.turning j u w id before at_j
  obtain ⟨five, advanced⟩ | advanced := Reader.advance_toward w.mode (x.reader w.reader)
    (turning.round asleep) (early j u w before asleep at_j) ready box
  · have stepped := step_advance at_j advanced
    rw [readers_set_reader] at stepped
    refine ⟨_, _, stepped, rfl, by rw [five]; exact Nat.le_refl 4, .inl ⟨?_, rfl, readers, ?_⟩⟩
    · refine returning.set (fun _ => id) rfl rfl fun v _ same => ?_
      obtain rfl := Option.some.inj (before.symm.trans same)
      exact ⟨turning.reader, turning.mode, turning.buffer, fun up => by simp [asleep] at up,
        fun _ => rfl⟩
    · intro k v w' before' asleep' after
      obtain ⟨-, rfl⟩ | ⟨-, still⟩ := getElem?_of_set after
      · exact Nat.le_refl 4
      · exact early k v w' before' asleep' still
  · have stepped := step_advance at_j advanced
    rw [readers_set_reader] at stepped
    refine ⟨_, _, stepped, rfl, Nat.zero_le _, .inr ⟨?_, rfl, readers,
      u, w.moveTo (.done (.ok (.frame f))), before, asleep, ?_, turning.reader, rfl⟩⟩
    · exact returning.set (fun _ => False.elim) rfl rfl fun _ there _ => absurd rfl there
    · exact List.getElem?_set_self inside

theorem mailbox_collect {a : Device ω} (ready : a.mailbox.ready = true) :
    a.collect.2.mailbox = { a.mailbox with frame := none, ready := false } := by
  obtain ⟨unready, -⟩ | ⟨-, same⟩ := collect_cases a
  · simp [ready] at unready
  · rw [same]

theorem served_of_publishes (lull : c.Lull) (publishes : c.Publishes o n seq b)
    (waits : c.Waits i) (fair : c.Turns turns) :
    ∃ d j f, b.run (turns.map .advance) = some d ∧ b.device.mailbox.frame = some f ∧ f.seq = seq ∧
      c.EndsOnly d j (.ok (.frame f)) ∧ d.device.mailbox.frame = none ∧
      d.device.mailbox.ready = false ∧ d.Lull ∧ d.Still := by
  obtain ⟨visits, readers, f, number, box, ready, opened⟩ := publishes.course
  have length : b.visits.length = c.visits.length := by rw [visits, List.length_map]
  have emptied := mailbox_collect ready
  have unready : b.device.collect.2.mailbox.ready = false := by rw [emptied]
  have opened' : b.device.collect.2.mailbox.closed = false := by rw [emptied, opened]
  have offered : c.Offered b b.device := by
    refine ⟨returning_roused visits, rfl, readers, fun j u w before asleep after => ?_⟩
    rw [visits, List.getElem?_map, before] at after
    obtain rfl := Option.some.inj after
    rw [phase_roused asleep]
    exact Nat.le_succ 4
  obtain ⟨d, ran, kept, rest⟩ := settle
    (P := fun x => c.Offered x b.device ∨ ∃ j, c.Decided x b.device.collect.2 j (.ok (.frame f)))
    (by
      rintro x j w (offered | ⟨k, decided⟩) waits at_j going
      · obtain ⟨y, p, stepped, visits, less, kept⟩ := offered.turn box ready waits at_j
        exact ⟨y, p, stepped, visits, less, kept.imp_right fun decided => ⟨j, decided⟩⟩
      · obtain ⟨y, p, stepped, visits, less, kept⟩ :=
          decided.turn lull unready opened' waits at_j going
        exact ⟨y, p, stepped, visits, less, .inr ⟨k, kept⟩⟩)
    fair.woken length fair.toEnough (.inl offered)
  rcases kept with offered | ⟨j, decided⟩
  · -- somebody would still have steps to make, but they have all been made
    obtain ⟨u, before, asleep⟩ := waits
    obtain ⟨inside, -⟩ := List.getElem?_eq_some_iff.mp before
    obtain ⟨w, after⟩ : ∃ w, d.visits[i]? = some w :=
      ⟨_, List.getElem?_eq_getElem (offered.returning.length.symm ▸ inside)⟩
    have some_left := offered.early i u w before asleep after
    have none_left := rest i w ⟨u, before, asleep⟩ after
    simp only [List.count_nil] at none_left
    omega
  · exact ⟨d, j, f, ran, box, number, decided.endsOnly rest, by rw [decided.device, emptied],
      by rw [decided.device, unready], decided.lull lull rest, decided.still lull unready opened' rest⟩

-- no other suspended visit is one of the same reader
def Alone (c : Crowd ω) (i : Nat) (v : Visit) : Prop :=
  ∀ j u, j ≠ i → c.visits[j]? = some u → u.phase.isSuspended = true → u.reader ≠ v.reader

-- visit `i` has been asked to give up and has not looked at this yet
structure Asked (c x : Crowd ω) (i : Nat) (v : Visit) : Prop where
  returning : c.Returning x (· = i)
  device : x.device = c.device.notify
  readers : x.readers = c.readers.set v.reader { cancelled := true }
  own : ∃ w, x.visits[i]? = some w ∧ w.reader = v.reader ∧ w.mode = v.mode ∧
    w.phase.InRound x.device.channel.epoch ∧ 2 ≤ w.phase.stepsToGo

namespace Asked

variable (lull : c.Lull) (still : c.Still) (at_i : c.visits[i]? = some v)
  (asleep : v.phase.isSuspended = true)

include lull still at_i asleep

theorem turn_other (asked : c.Asked x i v) (alone : c.Alone i v) (other : j ≠ i)
    (waits : c.Waits j) (at_j : x.visits[j]? = some w) :
    ∃ y p, x.step (.advance j) = some y ∧ y.visits = x.visits.set j (w.moveTo p) ∧
      p.stepsToGo ≤ w.phase.stepsToGo - 1 ∧ c.Asked y i v := by
  obtain ⟨unready, opened, -⟩ := still v (List.mem_of_getElem? at_i) asleep
  obtain ⟨w', at_i', own⟩ := asked.own
  have unasked : ∀ u, c.visits[j]? = some u → u.phase.isSuspended = true →
      (x.reader u.reader).cancelled = false := by
    intro u before asleep
    have away : v.reader ≠ u.reader := (alone j u other before asleep).symm
    rw [Crowd.reader, asked.readers, List.getElem?_set_ne away]
    exact lull.unasked u (List.mem_of_getElem? before) asleep
  obtain ⟨p, stepped, less, returning⟩ := asked.returning.turn lull other waits at_j
    (by rw [asked.device]; exact unready) (by rw [asked.device]; exact opened) unasked
  refine ⟨_, p, stepped, rfl, less, returning, asked.device, asked.readers, w', ?_, own⟩
  rw [List.getElem?_set_ne other, at_i']

theorem turn_own (asked : c.Asked x i v) :
    ∃ y p w, x.visits[i]? = some w ∧ x.step (.advance i) = some y ∧
      y.visits = x.visits.set i (w.moveTo p) ∧
      p.stepsToGo ≤ w.phase.stepsToGo - 1 ∧
      (c.Asked y i v ∨ c.Decided y c.device.notify i (.error .interrupted)) := by
  obtain ⟨unready, opened, clear⟩ := still v (List.mem_of_getElem? at_i) asleep
  have known := lull.known v (List.mem_of_getElem? at_i)
  obtain ⟨w, at_i', reader, mode, round, early⟩ := asked.own
  obtain ⟨inside, -⟩ := List.getElem?_eq_some_iff.mp at_i'
  have marked : x.reader w.reader = { cancelled := true } := by
    rw [reader, Crowd.reader, asked.readers, getD_set_reader v.reader known, if_pos rfl]
  have patient : w.mode ≠ .nonblocking :=
    mode ▸ lull.patient v (List.mem_of_getElem? at_i) asleep
  have away {y : Crowd ω} {p : Reader.Phase} (visits : y.visits = x.visits.set i (w.moveTo p))
      (device : y.device = x.device) : c.Returning y (· = i) :=
    asked.returning.set (fun _ => id) (by rw [device]) visits fun _ there _ => absurd rfl there
  obtain ⟨q, advanced, round', early', less⟩ | advanced :=
    Reader.advance_asked (r := x.reader w.reader) patient round early
      (by rw [asked.device]; exact unready) (by rw [asked.device]; exact opened)
      (by rw [marked])
  · have stepped := step_advance at_i' advanced
    rw [readers_set_reader] at stepped
    exact ⟨_, q, w, at_i', stepped, rfl, Nat.le_of_eq less, .inl ⟨away rfl rfl, asked.device,
      asked.readers, w.moveTo q, List.getElem?_set_self inside, reader, mode, round', early'⟩⟩
  · have stepped := step_advance at_i' advanced
    have cleared : (x.readers.set w.reader (x.reader w.reader).reset) = c.readers := by
      have same : (x.reader w.reader).reset = c.reader v.reader := by
        rw [marked, Reader.reset, ← clear]
      rw [same, asked.readers, reader, List.set_set, readers_set_reader]
    rw [cleared] at stepped
    exact ⟨_, _, w, at_i', stepped, rfl, Nat.zero_le _, .inr ⟨away rfl rfl, asked.device, rfl,
      v, _, at_i, asleep, List.getElem?_set_self inside, reader, rfl⟩⟩

end Asked

theorem asked_of_cancel (lull : c.Lull) (at_i : c.visits[i]? = some v)
    (asleep : v.phase.isSuspended = true) :
    ∃ x, c.run [.order (.cancel v.reader), .errand c.errands.length] = some x ∧
      x.visits = c.visits.map Visit.roused ∧ c.Asked x i v := by
  have known := lull.known v (List.mem_of_getElem? at_i)
  let marked : Crowd ω := { c with readers := c.readers.set v.reader { cancelled := true } }
  have begun : c.step (.order (.cancel v.reader)) = some (marked.addErrand .alerting) := by
    simp only [step, undertake, List.getElem?_eq_getElem known]
    rfl
  have called : (marked.addErrand .alerting).errands[c.errands.length]? = some .alerting := by
    simp [addErrand, marked]
  have notified : (marked.addErrand .alerting).step (.errand c.errands.length) =
      some ((marked.addErrand .alerting).perform c.errands.length .alerting) := by
    simp only [step, stepErrand, called]
    rfl
  refine ⟨_, by rw [run, begun, Option.bind_some, run, notified]; rfl, ?_⟩
  rw [perform_of_notifies rfl]
  refine ⟨rfl, returning_roused rfl, rfl, rfl, v.roused, ?_, rfl, rfl, ?_, ?_⟩
  · exact (List.getElem?_map ..).trans (congrArg (Option.map Visit.roused) at_i)
  · rw [phase_roused asleep]
    trivial
  · rw [phase_roused asleep]
    exact Nat.le_add_left 2 3

theorem interrupted_of_cancel (lull : c.Lull) (still : c.Still) (at_i : c.visits[i]? = some v)
    (asleep : v.phase.isSuspended = true) (alone : c.Alone i v) (fair : c.Turns turns) :
    ∃ d, c.run (.order (.cancel v.reader) :: .errand c.errands.length :: turns.map .advance) =
        some d ∧
      c.EndsOnly d i (.error .interrupted) ∧ d.device = c.device.notify ∧ d.Lull ∧
        d.Still := by
  obtain ⟨x, began, visits, asked⟩ := asked_of_cancel lull at_i asleep
  obtain ⟨unready, opened, -⟩ := still v (List.mem_of_getElem? at_i) asleep
  have length : x.visits.length = c.visits.length := by rw [visits, List.length_map]
  obtain ⟨d, ran, kept, rest⟩ := settle
    (P := fun x => c.Asked x i v ∨ c.Decided x c.device.notify i (.error .interrupted))
    (by
      rintro x j w (asked | decided) waits at_j going
      · by_cases own : j = i
        · subst own
          obtain ⟨y, p, w', at_j', turn⟩ := asked.turn_own lull still at_i asleep
          obtain rfl := Option.some.inj (at_j.symm.trans at_j')
          exact ⟨y, p, turn⟩
        · obtain ⟨y, p, stepped, visits, less, kept⟩ :=
            asked.turn_other lull still at_i asleep alone own waits at_j
          exact ⟨y, p, stepped, visits, less, .inl kept⟩
      · obtain ⟨y, p, stepped, visits, less, kept⟩ :=
          decided.turn lull unready opened waits at_j going
        exact ⟨y, p, stepped, visits, less, .inr kept⟩)
    fair.woken length fair.toEnough (.inl asked)
  refine ⟨d, ?_, ?_⟩
  · have whole := run_append c [.order (.cancel v.reader), .errand c.errands.length]
      (turns.map .advance)
    rw [began, Option.bind_some, ran] at whole
    exact whole
  rcases kept with asked | decided
  · -- it would still have steps to make, but they have all been made
    obtain ⟨w, at_i', -, -, -, some_left⟩ := asked.own
    have none_left := rest i w ⟨v, at_i, asleep⟩ at_i'
    simp only [List.count_nil] at none_left
    omega
  · exact ⟨decided.endsOnly rest, decided.device, decided.lull lull rest,
      decided.still lull unready opened rest⟩

/-- Publications and cancellations, each of which comes once all that the one before has woken are
suspended again or done. -/
inductive Through (c : Crowd ω) : Crowd ω → Prop where
  | start : Through c c
  | publish {b x d : Crowd ω} {o : Order} {n : Nat} {seq : UInt64} {i : Nat} {turns : List Nat}
      (past : Through c b) (waits : b.Waits i) (publishes : b.Publishes o n seq x)
      (fair : b.Turns turns) (ran : x.run (turns.map .advance) = some d) : Through c d
  | cancel {b d : Crowd ω} {i : Nat} {v : Visit} {turns : List Nat} (past : Through c b)
      (at_i : b.visits[i]? = some v) (asleep : v.phase.isSuspended = true) (alone : b.Alone i v)
      (fair : b.Turns turns)
      (ran : b.run (.order (.cancel v.reader) :: .errand b.errands.length ::
        turns.map .advance) = some d) : Through c d

/-- A published frame goes to one of those who are suspended and is then gone from the mailbox. -/
def Serves (c : Crowd ω) : Prop :=
  ∀ o n seq b i turns, c.Publishes o n seq b → c.Waits i → c.Turns turns →
    ∃ d j f, b.run (turns.map .advance) = some d ∧ b.device.mailbox.frame = some f ∧
      f.seq = seq ∧ c.EndsOnly d j (.ok (.frame f)) ∧ d.device.mailbox.frame = none ∧
      d.device.mailbox.ready = false ∧ d.Still

/-- A cancellation releases the one that it is meant for and does nothing else to the device. -/
def Interrupts (c : Crowd ω) : Prop :=
  ∀ i v turns, c.visits[i]? = some v → v.phase.isSuspended = true → c.Alone i v →
    c.Turns turns →
    ∃ d, c.run (.order (.cancel v.reader) :: .errand c.errands.length :: turns.map .advance) =
        some d ∧
      c.EndsOnly d i (.error .interrupted) ∧ (d.reader v.reader).cancelled = false ∧
      d.device = c.device.notify ∧ d.Still

theorem Lull.serves (lull : c.Lull) : c.Serves := by
  intro o n seq b i turns publishes waits fair
  obtain ⟨d, j, f, ran, box, number, ends, empty, unready, -, still⟩ :=
    served_of_publishes lull publishes waits fair
  exact ⟨d, j, f, ran, box, number, ends, empty, unready, still⟩

theorem Lull.interrupts (lull : c.Lull) (still : c.Still) : c.Interrupts := by
  intro i v turns at_i asleep alone fair
  obtain ⟨d, ran, ends, device, -, after⟩ :=
    interrupted_of_cancel lull still at_i asleep alone fair
  refine ⟨d, ran, ends, ?_, device, after⟩
  rw [Crowd.reader, ends.readers]
  exact lull.unasked v (List.mem_of_getElem? at_i) asleep

theorem Through.still (through : c.Through b) (lull : c.Lull) (still : c.Still) :
    b.Lull ∧ b.Still := by
  induction through with
  | start => exact ⟨lull, still⟩
  | publish past waits publishes fair ran ih =>
    obtain ⟨d, j, f, ran', -, -, -, -, -, after⟩ := served_of_publishes ih.1 publishes waits fair
    obtain rfl := Option.some.inj (ran.symm.trans ran')
    exact after
  | cancel past at_i asleep alone fair ran ih =>
    obtain ⟨d, ran', -, -, after⟩ := interrupted_of_cancel ih.1 ih.2 at_i asleep alone fair
    obtain rfl := Option.some.inj (ran.symm.trans ran')
    exact after

/--
However many readers are suspended, and in whatever order they make their steps once they are woken:
a frame that is published while none of them has been asked to give up serves one of them, and a
cancellation while there is nothing for any of them releases the one it is meant for. All others are
suspended again, ready for the next. There is nothing for them unless somebody has yet to notify. A
cancellation that meets no suspended reader stays, through calls with any other outcome, until a
call would have to wait; that call gives up, once however often it was asked to.
-/
theorem isolated_of_run {a : Device ω} {readers : Nat} {ms : List (Move ω)}
    (ran : (start a readers).run ms = some c) :
    (c.Unasked → c.Serves) ∧
    (c.Still → ∀ b, c.Through b → b.Serves ∧ b.Interrupts) ∧
    ((start a readers).prompt ms = true → (∀ e ∈ c.errands, e.owesNotice = false) → c.Still) ∧
    (∀ r, Heeded ω r) ∧
    ∀ (d : Device ω) (r : Reader) (buffer : Bytes) (mode : Mode), r.cancelled = true →
      d.take r mode =
        (match d.collect, mode with
        | (some f, d), _ => (.done (.ok (.frame f)), r, d)
        | (none, d), .nonblocking => (.done (.error .wouldBlock), r, d)
        | (none, d), .blocking _ =>
          if d.mailbox.closed then (.done (.ok .endOfStream), r, d)
          else (.done (.error .interrupted), r.reset, d)) ∧
      d.read r buffer mode =
        if buffer.isEmpty then (.done (.error .fault), r, d)
        else
          match d.collect, mode with
          | (some f, d), _ => (.done (.ok (f.copyTo buffer)), r, d.drop f)
          | (none, d), .nonblocking => (.done (.error .wouldBlock), r, d)
          | (none, d), .blocking _ =>
            if d.mailbox.closed then (.done (.ok (0, buffer)), r, d)
            else (.done (.error .interrupted), r.reset, d) := by
  refine ⟨fun unasked => (lull_of_run ran unasked).serves, fun still b through => ?_,
    still_of_run ran, heeded, fun d r buffer mode asked => ?_⟩
  · obtain ⟨lull, still⟩ := through.still (lull_of_run ran still.unasked) still
    exact ⟨lull.serves, lull.interrupts still⟩
  exact ⟨take_of_cancelled d mode asked, read_of_cancelled d buffer mode asked⟩

def twoWaiting : List (Move Unit) :=
  [.visit 0 (.blocking none) none, .visit 1 (.blocking none) none] ++
    (List.replicate 5 [.advance 0, .advance 1]).flatten

-- five steps of each of two readers, of which `i` is always the first
def byTurns (i j : Nat) : List Nat := (List.replicate 5 [i, j]).flatten

section Two

variable (two : c.visits.length = 2)
include two

theorem turns_of_two {turns : List Nat} (first : c.Waits 0) (second : c.Waits 1)
    (either : ∀ j ∈ turns, j = 0 ∨ j = 1) (enough : 5 ≤ turns.count 0 ∧ 5 ≤ turns.count 1) :
    c.Turns turns := by
  constructor
  case woken =>
    intro j member
    rcases either j member with rfl | rfl
    · exact first
    · exact second
  case enough =>
    rintro j ⟨w, at_j, -⟩
    obtain ⟨inside, -⟩ := List.getElem?_eq_some_iff.mp at_j
    obtain rfl | rfl : j = 0 ∨ j = 1 := by omega
    · exact enough.1
    · exact enough.2

theorem alone_of_two {u : Visit} (second : c.visits[1]? = some v) (apart : v.reader ≠ u.reader) :
    c.Alone 0 u := by
  intro j w away at_j _
  obtain ⟨inside, -⟩ := List.getElem?_eq_some_iff.mp at_j
  obtain rfl : j = 1 := by omega
  obtain rfl := Option.some.inj (second.symm.trans at_j)
  exact apart

theorem not_interrupts_of_two {u : Visit} (first : c.Waits 0) (second : c.Waits 1)
    (at_0 : c.visits[0]? = some u) (at_1 : c.visits[1]? = some v) (own : u.reader = 0)
    (other : v.reader = 1) (called : c.errands.length = n)
    (ran : c.run (.order (.cancel 0) :: .errand n :: (byTurns 0 1).map .advance) = some d)
    (odd : d.visits[0]?.map Visit.phase ≠ some (.done (.error .interrupted)) ∨
      d.visits[1]?.map Visit.phase = some (.done (.error .interrupted))) : ¬c.Interrupts := by
  intro interrupts
  have fair : c.Turns (byTurns 0 1) := turns_of_two two first second (by decide) (by decide)
  have alone : c.Alone 0 u := alone_of_two two at_1 (by simp [own, other])
  obtain ⟨u', at_0', asleep⟩ := first
  obtain rfl := Option.some.inj (at_0.symm.trans at_0')
  obtain ⟨d', ran', ends, -⟩ := interrupts 0 u _ at_0 asleep alone fair
  rw [own, called] at ran'
  obtain rfl := Option.some.inj (ran.symm.trans ran')
  rcases odd with spared | released
  · obtain ⟨-, w, -, -, after, -, ended⟩ := ends.got
    exact spared (by rw [after, Option.map_some, ended])
  · obtain ⟨v', at_1', asleep'⟩ := second
    obtain ⟨w, after, -, -, -, back, -⟩ := (ends.others 1 (by decide)).stays v' at_1'
    rw [after, Option.map_some, back asleep'] at released
    simp at released

theorem not_serves_of_two {o : Order} (first : c.Waits 0) (second : c.Waits 1)
    (publishes : c.Publishes o n seq b) (ran : b.run ((byTurns 1 0).map .advance) = some d)
    (released : d.visits[0]?.map Visit.phase = some (.done (.error .interrupted))) :
    ¬c.Serves := by
  intro serves
  have fair : c.Turns (byTurns 1 0) := turns_of_two two first second (by decide) (by decide)
  obtain ⟨d', j, f, ran', -, -, ends, -⟩ := serves _ _ _ _ _ _ publishes first fair
  obtain rfl := Option.some.inj (ran.symm.trans ran')
  by_cases own : j = 0
  · subst own
    obtain ⟨-, w, -, -, after, -, ended⟩ := ends.got
    rw [after, Option.map_some, ended] at released
    simp at released
  · obtain ⟨u, at_0, asleep⟩ := first
    obtain ⟨w, after, -, -, -, back, -⟩ := (ends.others 0 (Ne.symm own)).stays u at_0
    rw [after, Option.map_some, back asleep] at released
    simp at released

end Two

theorem isolated_of_run_twoWaiting :
    ∃ c x, (start { kind := .simple 4 } 2).run twoWaiting = some c ∧
      (start { kind := .simple 4 } 2).prompt twoWaiting = true ∧ c.errands = [] ∧
      c.Waits 0 ∧ c.Waits 1 ∧ c.Publishes (.write 1024 [1]) 6 1 x ∧ c.Still ∧
      (∃ d j f, x.run ((byTurns 1 0).map .advance) = some d ∧ c.EndsOnly d j (.ok (.frame f))) ∧
      ∃ d, c.run (.order (.cancel 0) :: .errand 0 :: (byTurns 1 0).map .advance) = some d ∧
        c.EndsOnly d 0 (.error .interrupted) := by
  have released {c x : Crowd Unit} {u v : Visit}
      (ran : (start { kind := .simple 4 } 2).run twoWaiting = some c)
      (two : c.visits.length = 2) (quiet : c.errands = []) (first : c.Waits 0)
      (second : c.Waits 1) (publishes : c.Publishes (.write 1024 [1]) 6 1 x)
      (at_0 : c.visits[0]? = some u) (at_1 : c.visits[1]? = some v) (own : u.reader = 0)
      (other : v.reader = 1) :
      c.Still ∧
      (∃ d j f, x.run ((byTurns 1 0).map .advance) = some d ∧
        c.EndsOnly d j (.ok (.frame f))) ∧
      ∃ d, c.run (.order (.cancel 0) :: .errand 0 :: (byTurns 1 0).map .advance) = some d ∧
        c.EndsOnly d 0 (.error .interrupted) := by
    obtain ⟨serves, isolated, still, -⟩ := isolated_of_run ran
    have still := still rfl (by simp [quiet])
    obtain ⟨-, interrupts⟩ := isolated still c .start
    have fair : c.Turns (byTurns 1 0) := turns_of_two two first second (by decide) (by decide)
    have alone : c.Alone 0 u := alone_of_two two at_1 (by simp [own, other])
    obtain ⟨d, j, f, served, -, -, ends, -⟩ := serves still.unasked _ _ _ _ _ _ publishes first fair
    obtain ⟨u', at_0', asleep⟩ := first
    obtain rfl := Option.some.inj (at_0.symm.trans at_0')
    obtain ⟨d', interrupted, ends', -⟩ := interrupts 0 u _ at_0 asleep alone fair
    rw [own, quiet] at interrupted
    exact ⟨still, ⟨d, j, f, served, ends⟩, d', interrupted, ends'⟩
  refine ⟨_, _, rfl, rfl, rfl, ⟨_, rfl, rfl⟩, ⟨_, rfl, rfl⟩, ⟨rfl, rfl⟩, ?_⟩
  exact released rfl rfl rfl ⟨_, rfl, rfl⟩ ⟨_, rfl, rfl⟩ ⟨rfl, rfl⟩ rfl rfl rfl rfl

-- a write has put its frame into the mailbox and has yet to notify
def unannouncedFrame : List (Move Unit) :=
  twoWaiting ++ [.order (.write 1024 [1]), .errand 0, .errand 0, .errand 0]

-- one of the readers has been asked to give up, and nobody has notified
def unannouncedCancel (r : Nat) : List (Move Unit) := twoWaiting ++ [.order (.cancel r)]

-- the mailbox is closed, and nobody has notified
def unannouncedClose : List (Move Unit) :=
  twoWaiting ++ [.order .close, .errand 0, .errand 0]

/-- While a call has yet to notify of a frame, of the end or of a cancellation, a cancellation and a
publication can come to something else: the reader that is asked to give up takes the frame away and
stays marked, or it comes to the end of the stream, or another one gives up with it. -/
theorem unisolated_before_notice :
    (∃ c d f, (start { kind := .simple 4 } 2).run unannouncedFrame = some c ∧
      (start { kind := .simple 4 } 2).prompt unannouncedFrame = true ∧ c.Waits 0 ∧ c.Waits 1 ∧
      c.device.mailbox.frame = some f ∧
      c.run (.order (.cancel 0) :: .errand 1 :: (byTurns 0 1).map .advance) = some d ∧
      d.visits[0]?.map Visit.phase = some (.done (.ok (.frame f))) ∧
      (d.reader 0).cancelled = true ∧ d.device.mailbox.frame = none ∧ ¬c.Interrupts) ∧
    (∃ c, (start { kind := .simple 4 } 2).run (unannouncedCancel 1) = some c ∧
      (start { kind := .simple 4 } 2).prompt (unannouncedCancel 1) = true ∧ c.Waits 0 ∧ c.Waits 1 ∧
      ¬c.Interrupts) ∧
    (∃ c, (start { kind := .simple 4 } 2).run (unannouncedCancel 0) = some c ∧
      (start { kind := .simple 4 } 2).prompt (unannouncedCancel 0) = true ∧ c.Waits 0 ∧ c.Waits 1 ∧
      ¬c.Serves) ∧
    ∃ c, (start { kind := .simple 4 } 2).run unannouncedClose = some c ∧
      (start { kind := .simple 4 } 2).prompt unannouncedClose = true ∧ c.Waits 0 ∧ c.Waits 1 ∧
      ¬c.Interrupts := by
  refine ⟨⟨_, _, _, rfl, rfl, ⟨_, rfl, rfl⟩, ⟨_, rfl, rfl⟩, rfl, rfl, rfl, rfl, rfl, ?_⟩,
    ⟨_, rfl, rfl, ⟨_, rfl, rfl⟩, ⟨_, rfl, rfl⟩, ?_⟩,
    ⟨_, rfl, rfl, ⟨_, rfl, rfl⟩, ⟨_, rfl, rfl⟩, ?_⟩,
    ⟨_, rfl, rfl, ⟨_, rfl, rfl⟩, ⟨_, rfl, rfl⟩, ?_⟩⟩
  · exact not_interrupts_of_two rfl ⟨_, rfl, rfl⟩ ⟨_, rfl, rfl⟩ rfl rfl rfl rfl rfl rfl
      (.inl nofun)
  · exact not_interrupts_of_two rfl ⟨_, rfl, rfl⟩ ⟨_, rfl, rfl⟩ rfl rfl rfl rfl rfl rfl (.inr rfl)
  · exact not_serves_of_two rfl ⟨_, rfl, rfl⟩ ⟨_, rfl, rfl⟩
      (⟨rfl, rfl⟩ : Publishes _ (.write 1024 [1]) 6 1 _) rfl rfl
  · exact not_interrupts_of_two rfl ⟨_, rfl, rfl⟩ ⟨_, rfl, rfl⟩ rfl rfl rfl rfl rfl rfl
      (.inl nofun)

end Crowd

end Framecast.Device
