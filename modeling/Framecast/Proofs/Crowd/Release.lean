import Framecast.Proofs.Crowd.Cancellation
import Framecast.Proofs.Crowd.Visits
import Framecast.Proofs.Crowd.Wakeup

set_option autoImplicit false

namespace Framecast.Device

variable {ω : Type}

namespace Reader

namespace Phase

-- how many steps a reader makes at most until it is suspended or done, if nobody notifies
def stepsToGo : Phase → Nat
  | .looking => 5
  | .observed _ => 4
  | .missed _ => 3
  | .undeterred _ => 2
  | .resigned _ => 1
  | .suspended _ | .done _ => 0

def InRound (e : UInt32) : Phase → Prop
  | .looking => True
  | .done _ => False
  | .observed e' | .missed e' | .undeterred e' | .resigned e' | .suspended e' => e' = e

theorem InRound.suspended {e : UInt32} {p : Phase} (round : p.InRound e) (rest : p.stepsToGo = 0) :
    p = .suspended e := by
  cases p with
  | suspended e' => exact congrArg _ round
  | done result => exact round.elim
  | _ => simp [stepsToGo] at rest

end Phase

variable {mode : Mode} {p : Phase} {r : Reader} {d : Device ω}

theorem collect_of_unready (unready : d.mailbox.ready = false) : d.collect = (none, d) := by
  obtain ⟨-, same⟩ | ⟨ready, -⟩ := collect_cases d
  · exact same
  · simp [unready] at ready

theorem advance_back (patient : mode ≠ .nonblocking) (round : p.InRound d.channel.epoch)
    (unready : d.mailbox.ready = false) (opened : d.mailbox.closed = false)
    (unasked : r.cancelled = false) :
    ∃ q, advance mode (p, r, d) = (q, r, d) ∧ q.InRound d.channel.epoch ∧
      q.stepsToGo = p.stepsToGo - 1 := by
  have nothing := collect_of_unready unready
  cases p with
  | looking => exact ⟨_, rfl, rfl, rfl⟩
  | observed e =>
    cases mode with
    | nonblocking => exact absurd rfl patient
    | blocking timeout => exact ⟨.missed e, by simp [advance, nothing], round, rfl⟩
  | missed e => exact ⟨.undeterred e, by simp [advance, opened], round, rfl⟩
  | undeterred e => exact ⟨.resigned e, by simp [advance, unasked], round, rfl⟩
  | resigned e => exact ⟨.suspended e, if_pos round.symm, round, rfl⟩
  | suspended e => exact ⟨_, rfl, round, rfl⟩
  | done result => exact round.elim

theorem advance_toward (mode : Mode) (r : Reader) {f : Frame}
    (round : p.InRound d.channel.epoch) (early : 4 ≤ p.stepsToGo)
    (ready : d.mailbox.ready = true) (box : d.mailbox.frame = some f) :
    (p.stepsToGo = 5 ∧ advance mode (p, r, d) = (.observed d.channel.epoch, r, d)) ∨
      advance mode (p, r, d) = (.done (.ok (.frame f)), r, d.collect.2) := by
  have found : d.collect.1 = some f := by
    obtain ⟨unready, -⟩ | ⟨-, same⟩ := collect_cases d
    · simp [ready] at unready
    · rw [same, box]
  cases p with
  | looking => exact .inl ⟨rfl, rfl⟩
  | observed e =>
    simp only [advance]
    split <;> simp_all
  | done result => exact round.elim
  | _ => simp [Phase.stepsToGo] at early

theorem advance_asked (patient : mode ≠ .nonblocking) (round : p.InRound d.channel.epoch)
    (early : 2 ≤ p.stepsToGo) (unready : d.mailbox.ready = false)
    (opened : d.mailbox.closed = false) (asked : r.cancelled = true) :
    (∃ q, advance mode (p, r, d) = (q, r, d) ∧ q.InRound d.channel.epoch ∧ 2 ≤ q.stepsToGo ∧
      q.stepsToGo = p.stepsToGo - 1) ∨
    advance mode (p, r, d) = (.done (.error .interrupted), r.reset, d) := by
  have nothing := collect_of_unready unready
  cases p with
  | looking => exact .inl ⟨_, rfl, rfl, by simp [Phase.stepsToGo], rfl⟩
  | observed e =>
    cases mode with
    | nonblocking => exact absurd rfl patient
    | blocking timeout =>
      exact .inl ⟨.missed e, by simp [advance, nothing], round, by simp [Phase.stepsToGo], rfl⟩
  | missed e => exact .inl ⟨.undeterred e, by simp [advance, opened], round, Nat.le_refl 2, rfl⟩
  | undeterred e => exact .inr (by simp [advance, asked, reset])
  | resigned e | suspended e => simp [Phase.stepsToGo] at early
  | done result => exact round.elim

end Reader

namespace Crowd

variable {c d x y : Crowd ω} {i j : Nat} {u v w : Visit}

/-- Whoever is suspended would find nothing: no frame, no end of the stream and no cancellation. -/
def Still (c : Crowd ω) : Prop :=
  ∀ v ∈ c.visits, v.phase.isSuspended = true →
    c.device.mailbox.ready = false ∧ c.device.mailbox.closed = false ∧
      (c.reader v.reader).cancelled = false

def Unasked (c : Crowd ω) : Prop :=
  ∀ v ∈ c.visits, v.phase.isSuspended = true → (c.reader v.reader).cancelled = false

structure Lull (c : Crowd ω) : Prop where
  known : ∀ v ∈ c.visits, v.reader < c.readers.length
  patient : ∀ v ∈ c.visits, v.phase.isSuspended = true → v.mode ≠ .nonblocking
  unasked : c.Unasked

theorem Still.unasked (still : c.Still) : c.Unasked :=
  fun v member asleep => (still v member asleep).2.2

theorem known_step {m : Move ω} (known : ∀ v ∈ c.visits, v.reader < c.readers.length)
    (h : c.step m = some d) : ∀ v ∈ d.visits, v.reader < d.readers.length := by
  have length : d.readers.length = c.readers.length := by
    obtain ⟨-, -, same⟩ | ⟨r, -, -, same⟩ | ⟨r, -, same⟩ | ⟨i, v, -, -, same⟩ := readers_step h <;>
      simp [same]
  intro w member
  rw [length]
  obtain ⟨r, mode, buffer, rfl, rfl⟩ | ⟨v, there, rfl | ⟨i, next⟩⟩ := mem_visits_step h member
  · simp only [step] at h
    split at h
    next inside => exact inside
    next => simp at h
  · exact known w there
  · have same : w.reader = v.reader := by cases next <;> rfl
    exact same ▸ known v there

theorem Watched.still (watched : c.Watched) (quiet : ∀ e ∈ c.errands, e.owesNotice = false) :
    c.Still := by
  intro v member asleep
  have none : ¬c.Owed := by
    rintro ⟨e, call, owes⟩
    simp [quiet e call] at owes
  have watch := watched v member
  have fresh := watch.fresh asleep
  obtain ⟨e, phase⟩ : ∃ e, v.phase = .suspended e := by
    cases phase : v.phase <;> simp_all [Reader.Phase.isSuspended]
  refine ⟨?_, ?_, ?_⟩ <;> refine Bool.eq_false_iff.mpr fun now => none ?_
  · exact watch.ready (by rw [phase]; rfl) fresh now
  · exact watch.closed (by rw [phase]; rfl) fresh now
  · exact watch.leave (by rw [phase]; rfl) fresh now

theorem still_of_run {a : Device ω} {readers : Nat} {ms : List (Move ω)}
    (ran : (start a readers).run ms = some c) (prompt : (start a readers).prompt ms = true)
    (quiet : ∀ e ∈ c.errands, e.owesNotice = false) : c.Still := by
  have first : (start a readers).Watched := by simp [Watched, start]
  exact (first.run prompt ran).still quiet

theorem lull_of_run {a : Device ω} {readers : Nat} {ms : List (Move ω)}
    (ran : (start a readers).run ms = some c) (unasked : c.Unasked) : c.Lull where
  known := run_invariant (P := fun c => ∀ v ∈ c.visits, v.reader < c.readers.length)
    (fun _ _ _ known h => known_step known h) (by simp [start]) ran
  patient v member asleep := by
    refine (proper_of_run ran v member).patient ?_
    cases phase : v.phase <;> simp_all [Reader.Phase.isSuspended, Reader.Phase.foundNone]
  unasked := unasked

def Waits (c : Crowd ω) (j : Nat) : Prop :=
  ∃ u, c.visits[j]? = some u ∧ u.phase.isSuspended = true

-- what a visit of `c` is after a notification: in the round of epoch `e` if it was suspended, and
-- as far as it was if it was not
structure Turning (e : UInt32) (u w : Visit) : Prop where
  reader : w.reader = u.reader
  mode : w.mode = u.mode
  buffer : w.buffer = u.buffer
  awake : u.phase.isSuspended = false → w.phase = u.phase
  round : u.phase.isSuspended = true → w.phase.InRound e

-- whoever was suspended in `c` was woken and is on its way back, except for those who are away
structure Returning (c x : Crowd ω) (away : Nat → Prop) : Prop where
  length : x.visits.length = c.visits.length
  turning : ∀ j u w, ¬away j → c.visits[j]? = some u → x.visits[j]? = some w →
    Turning x.device.channel.epoch u w

-- each visit that was suspended in `c` has the steps left that it needs to come to rest
def Enough (c x : Crowd ω) (turns : List Nat) : Prop :=
  ∀ j w, c.Waits j → x.visits[j]? = some w → w.phase.stepsToGo ≤ turns.count j

theorem step_advance (at_j : x.visits[j]? = some w) {p : Reader.Phase} {r : Reader} {a : Device ω}
    (advanced : Reader.advance w.mode (w.phase, x.reader w.reader, x.device) = (p, r, a)) :
    x.step (.advance j) =
      some { x with
        visits := x.visits.set j (w.moveTo p)
        readers := x.readers.set w.reader r
        device := a } := by
  simp only [step, stepVisit, at_j, advanced, setPhase]

theorem Enough.step {turns : List Nat} {p : Reader.Phase} (enough : c.Enough x (j :: turns))
    (waits : c.Waits j) (at_j : x.visits[j]? = some w)
    (less : p.stepsToGo ≤ w.phase.stepsToGo - 1)
    (visits : y.visits = x.visits.set j (w.moveTo p)) : c.Enough y turns := by
  intro k v waits' at_k
  rw [visits] at at_k
  obtain ⟨rfl, rfl⟩ | ⟨other, still⟩ := getElem?_of_set at_k
  · have before := enough k w waits at_j
    rw [List.count_cons_self] at before
    rw [Visit.phase_moveTo]
    omega
  · have before := enough k v waits' still
    rwa [List.count_cons_of_ne (Ne.symm other)] at before

theorem step_over {result : Except ReadError Taken} (at_j : x.visits[j]? = some w)
    (ended : w.phase = .done result) : x.step (.advance j) = some x := by
  have advanced : Reader.advance w.mode (w.phase, x.reader w.reader, x.device) =
      (w.phase, x.reader w.reader, x.device) := by rw [ended]; rfl
  have same : w.moveTo w.phase = w := by
    obtain ⟨reader, mode, buffer, phase, notices⟩ := w
    obtain rfl : phase = .done result := ended
    rfl
  obtain ⟨inside, rfl⟩ := List.getElem?_eq_some_iff.mp at_j
  rw [step_advance at_j advanced, readers_set_reader, same, List.set_getElem_self]

/-- In whatever order the turns come, what each of them keeps holds at the end, and then everybody
who was woken is at rest. -/
theorem settle {P : Crowd ω → Prop}
    (turn : ∀ x j w, P x → c.Waits j → x.visits[j]? = some w →
      (∀ result, w.phase ≠ .done result) →
      ∃ y p, x.step (.advance j) = some y ∧ y.visits = x.visits.set j (w.moveTo p) ∧
        p.stepsToGo ≤ w.phase.stepsToGo - 1 ∧ P y)
    {turns : List Nat} (woken : ∀ j ∈ turns, c.Waits j)
    (length : x.visits.length = c.visits.length) (enough : c.Enough x turns) (initial : P x) :
    ∃ d, x.run (turns.map .advance) = some d ∧ P d ∧ c.Enough d [] := by
  -- `Enough` is what is left to do: each turn takes one from the steps of its visit
  induction turns generalizing x with
  | nil => exact ⟨x, rfl, initial, enough⟩
  | cons j turns ih =>
    have waits : c.Waits j := woken j List.mem_cons_self
    obtain ⟨w, at_j⟩ : ∃ w, x.visits[j]? = some w := by
      obtain ⟨u, before, -⟩ := waits
      obtain ⟨inside, -⟩ := List.getElem?_eq_some_iff.mp before
      exact ⟨_, List.getElem?_eq_getElem (length ▸ inside)⟩
    obtain ⟨y, stepped, length', enough', kept⟩ : ∃ y, x.step (.advance j) = some y ∧
        y.visits.length = x.visits.length ∧ c.Enough y turns ∧ P y := by
      by_cases ended : ∃ result, w.phase = .done result
      · -- its turn changes nothing, and it needs no more of them
        obtain ⟨result, ended⟩ := ended
        refine ⟨x, step_over at_j ended, rfl, fun k v waits' at_k => ?_, initial⟩
        have before := enough k v waits' at_k
        by_cases same : j = k
        · subst same
          obtain rfl := Option.some.inj (at_j.symm.trans at_k)
          rw [ended]
          exact Nat.zero_le _
        · rwa [List.count_cons_of_ne same] at before
      · obtain ⟨y, p, stepped, visits, less, kept⟩ :=
          turn x j w initial waits at_j fun result done => ended ⟨result, done⟩
        exact ⟨y, stepped, by rw [visits, List.length_set],
          enough.step waits at_j less visits, kept⟩
    obtain ⟨d, ran, kept', rest⟩ := ih (fun k member => woken k (List.mem_cons_of_mem _ member))
      (length'.trans length) enough' kept
    exact ⟨d, by rw [List.map_cons, run, stepped, Option.bind_some, ran], kept', rest⟩

namespace Returning

variable {away away' : Nat → Prop}

theorem set {p : Reader.Phase} (returning : c.Returning x away) (more : ∀ k, away k → away' k)
    (epoch : y.device.channel.epoch = x.device.channel.epoch)
    (visits : y.visits = x.visits.set j (w.moveTo p))
    (next : ∀ u, ¬away' j → c.visits[j]? = some u →
      Turning x.device.channel.epoch u (w.moveTo p)) : c.Returning y away' where
  length := by rw [visits, List.length_set, returning.length]
  turning k u v there before after := by
    rw [epoch]
    rw [visits] at after
    obtain ⟨rfl, rfl⟩ | ⟨-, still⟩ := getElem?_of_set after
    · exact next u there before
    · exact returning.turning k u v (fun gone => there (more k gone)) before still

theorem turn (returning : c.Returning x away) (lull : c.Lull) (there : ¬away j)
    (waits : c.Waits j) (at_j : x.visits[j]? = some w)
    (unready : x.device.mailbox.ready = false) (opened : x.device.mailbox.closed = false)
    (unasked : ∀ u, c.visits[j]? = some u → u.phase.isSuspended = true →
      (x.reader u.reader).cancelled = false) :
    ∃ p, x.step (.advance j) = some { x with visits := x.visits.set j (w.moveTo p) } ∧
      p.stepsToGo ≤ w.phase.stepsToGo - 1 ∧
      c.Returning { x with visits := x.visits.set j (w.moveTo p) } away := by
  obtain ⟨u, before, asleep⟩ := waits
  have turning := returning.turning j u w there before at_j
  have patient : w.mode ≠ .nonblocking :=
    turning.mode ▸ lull.patient u (List.mem_of_getElem? before) asleep
  have clear : (x.reader w.reader).cancelled = false :=
    turning.reader ▸ unasked u before asleep
  obtain ⟨p, advanced, round, less⟩ :=
    Reader.advance_back patient (turning.round asleep) unready opened clear
  have stepped := step_advance at_j advanced
  rw [readers_set_reader] at stepped
  refine ⟨p, stepped, Nat.le_of_eq less, returning.set (fun _ => id) rfl rfl fun u' _ same => ?_⟩
  obtain rfl := Option.some.inj (before.symm.trans same)
  exact ⟨turning.reader, turning.mode, turning.buffer, fun awake => by simp [asleep] at awake,
    fun _ => round⟩

end Returning

/-- If visit `j` was suspended in `c`, it is suspended in `d`, with the epoch that there is now;
otherwise it is as far as it was. -/
structure Undisturbed (c d : Crowd ω) (j : Nat) : Prop where
  stays : ∀ u, c.visits[j]? = some u → ∃ w, d.visits[j]? = some w ∧ w.reader = u.reader ∧
    w.mode = u.mode ∧ w.buffer = u.buffer ∧
    (u.phase.isSuspended = true → w.phase = .suspended d.device.channel.epoch) ∧
    (u.phase.isSuspended = false → w.phase = u.phase)

theorem Returning.undisturbed {away : Nat → Prop} (returning : c.Returning d away)
    (enough : c.Enough d []) (there : ¬away j) : c.Undisturbed d j where
  stays u before := by
    obtain ⟨inside, -⟩ := List.getElem?_eq_some_iff.mp before
    obtain ⟨w, after⟩ : ∃ w, d.visits[j]? = some w :=
      ⟨_, List.getElem?_eq_getElem (returning.length.symm ▸ inside)⟩
    have turning := returning.turning j u w there before after
    refine ⟨w, after, turning.reader, turning.mode, turning.buffer, fun asleep => ?_,
      turning.awake⟩
    have rest : w.phase.stepsToGo = 0 := Nat.le_zero.mp (enough j w ⟨u, before, asleep⟩ after)
    exact (turning.round asleep).suspended rest

-- visit `i` has got its result and has left the device as `after`, and all others are on their way
-- back
structure Decided (c x : Crowd ω) (after : Device ω) (i : Nat) (result : Except ReadError Taken) :
    Prop where
  returning : c.Returning x (· = i)
  device : x.device = after
  readers : x.readers = c.readers
  own : ∃ u w, c.visits[i]? = some u ∧ u.phase.isSuspended = true ∧ x.visits[i]? = some w ∧
    w.reader = u.reader ∧ w.phase = .done result

/-- Of all that were suspended in `c`, visit `i` alone has come to an end, with `result`; the others
are suspended, and all readers are asked to give up as much as they were. -/
structure EndsOnly (c d : Crowd ω) (i : Nat) (result : Except ReadError Taken) : Prop where
  got : ∃ u w, c.visits[i]? = some u ∧ u.phase.isSuspended = true ∧ d.visits[i]? = some w ∧
    w.reader = u.reader ∧ w.phase = .done result
  others : ∀ j, j ≠ i → c.Undisturbed d j
  length : d.visits.length = c.visits.length
  readers : d.readers = c.readers

namespace Decided

variable {after : Device ω} {result : Except ReadError Taken}

theorem turn (decided : c.Decided x after i result) (lull : c.Lull)
    (unready : after.mailbox.ready = false) (opened : after.mailbox.closed = false)
    (waits : c.Waits j) (at_j : x.visits[j]? = some w)
    (going : ∀ result, w.phase ≠ .done result) :
    ∃ y p, x.step (.advance j) = some y ∧ y.visits = x.visits.set j (w.moveTo p) ∧
      p.stepsToGo ≤ w.phase.stepsToGo - 1 ∧ c.Decided y after i result := by
  obtain ⟨u, w', before, asleep, at_i, reader, ended⟩ := decided.own
  have other : j ≠ i := by
    rintro rfl
    obtain rfl := Option.some.inj (at_j.symm.trans at_i)
    exact going result ended
  obtain ⟨p, stepped, less, returning⟩ := decided.returning.turn lull other waits at_j
    (by rw [decided.device, unready]) (by rw [decided.device, opened]) fun u before asleep => by
      rw [Crowd.reader, decided.readers]
      exact lull.unasked u (List.mem_of_getElem? before) asleep
  refine ⟨_, p, stepped, rfl, less, returning, decided.device, decided.readers,
    u, w', before, asleep, ?_, reader, ended⟩
  rw [List.getElem?_set_ne other, at_i]

theorem origin (decided : c.Decided d after i result) (enough : c.Enough d [])
    (member : w ∈ d.visits) : ∃ u ∈ c.visits, w.reader = u.reader ∧
      (w.phase.isSuspended = true → w.mode = u.mode ∧ u.phase.isSuspended = true) := by
  obtain ⟨j, at_j⟩ := List.mem_iff_getElem?.mp member
  by_cases mine : j = i
  · subst mine
    obtain ⟨u, w', before, -, at_j', reader, ended⟩ := decided.own
    obtain rfl := Option.some.inj (at_j.symm.trans at_j')
    refine ⟨u, List.mem_of_getElem? before, reader, fun asleep => ?_⟩
    simp [ended, Reader.Phase.isSuspended] at asleep
  · obtain ⟨inside, -⟩ := List.getElem?_eq_some_iff.mp at_j
    obtain ⟨u, before⟩ : ∃ u, c.visits[j]? = some u :=
      ⟨_, List.getElem?_eq_getElem (decided.returning.length ▸ inside)⟩
    obtain ⟨w', after, reader, mode, -, -, awake⟩ :=
      (decided.returning.undisturbed enough mine).stays u before
    obtain rfl := Option.some.inj (at_j.symm.trans after)
    refine ⟨u, List.mem_of_getElem? before, reader, fun asleep => ⟨mode, ?_⟩⟩
    refine Decidable.byContradiction fun up => ?_
    rw [awake (Bool.eq_false_iff.mpr up)] at asleep
    exact up asleep

theorem lull (decided : c.Decided d after i result) (lull : c.Lull) (enough : c.Enough d []) :
    d.Lull where
  known w member := by
    obtain ⟨u, before, reader, -⟩ := decided.origin enough member
    rw [reader, decided.readers]
    exact lull.known u before
  patient w member asleep := by
    obtain ⟨u, before, -, was⟩ := decided.origin enough member
    exact (was asleep).1 ▸ lull.patient u before (was asleep).2
  unasked w member asleep := by
    obtain ⟨u, before, reader, was⟩ := decided.origin enough member
    rw [Crowd.reader, decided.readers, reader]
    exact lull.unasked u before (was asleep).2

theorem still (decided : c.Decided d after i result) (lull : c.Lull)
    (unready : after.mailbox.ready = false) (opened : after.mailbox.closed = false)
    (enough : c.Enough d []) : d.Still := by
  intro w member asleep
  refine ⟨?_, ?_, (decided.lull lull enough).unasked w member asleep⟩
  · rw [decided.device, unready]
  · rw [decided.device, opened]

theorem endsOnly (decided : c.Decided d after i result) (enough : c.Enough d []) :
    c.EndsOnly d i result where
  got := decided.own
  others _ other := decided.returning.undisturbed enough other
  length := decided.returning.length
  readers := decided.readers

end Decided

end Crowd

end Framecast.Device
