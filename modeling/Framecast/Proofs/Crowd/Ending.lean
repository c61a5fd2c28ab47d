import Framecast.Device.Driven
import Framecast.Proofs.Crowd.Closing

set_option autoImplicit false

namespace Framecast.Device

variable {ω : Type}

namespace Crowd

variable {c d : Crowd ω} {m : Move ω} {ms : List (Move ω)} {i : Nat}

/-- What the callers of a closed device find. -/
structure Ended (c : Crowd ω) : Prop where
  told : c.device.Over
  -- a read or a take that begins is on its way to its answer
  begun : ∀ r mode buffer, r < c.readers.length → buffer ≠ some [] →
    ∃ v, c.step (.visit r mode buffer) = some { c with visits := c.visits ++ [v] } ∧
      v.mode = mode ∧ v.stepsLeft? = some (if mode = .nonblocking then 2 else 3)
  -- whatever the others do, it comes to it by its own steps
  answered : ∀ ms d i v j n k, c.run ms = some d → c.visits[i]? = some v →
    v.stepsLeft? = some n → trace ms i = some (j, k) →
      ∃ w, d.visits[j]? = some w ∧ w.mode = v.mode ∧ w.stepsLeft? = some (n - k)
  -- these change nothing else, and it leaves with its answer only
  calm : ∀ i v n, c.visits[i]? = some v → v.stepsLeft? = some n →
    ∃ w, c.step (.advance i) = some { c with visits := c.visits.set i w }
  leaving : ∀ i v n, c.visits[i]? = some v → v.stepsLeft? = some n →
    c.step (.leave i) =
      if n = 0 then some { c with visits := c.visits.eraseIdx i } else none
  -- calls that publish or close come to their end with their first step
  refused : ∀ i e e', c.errands[i]? = some e → e.refusal? c.device.kind = some e' →
    c.step (.errand i) = some { c with errands := c.errands.set i e' }

theorem calm_of_shut {v : Visit} {n : Nat} (shut : c.device.Shut) (at_i : c.visits[i]? = some v)
    (left : v.stepsLeft? = some n) :
    ∃ w, c.step (.advance i) = some { c with visits := c.visits.set i w } := by
  obtain ⟨-, same⟩ := Visit.stepsLeft_advance shut (c.reader v.reader) left
  cases moved : Reader.advance v.mode (v.phase, c.reader v.reader, c.device) with
  | mk p rest =>
    rw [moved] at same
    subst same
    refine ⟨v.moveTo p, ?_⟩
    simp only [step, stepVisit, at_i, moved, readers_set_reader]
    rfl

theorem leaving_of_stepsLeft {v : Visit} {n : Nat} (at_i : c.visits[i]? = some v)
    (left : v.stepsLeft? = some n) :
    c.step (.leave i) =
      if n = 0 then some { c with visits := c.visits.eraseIdx i } else none := by
  simp only [step, leave, at_i]
  simp only [Visit.stepsLeft?] at left
  split at left <;> simp_all <;> omega

theorem refused_of_shut {e e' : Errand} (shut : c.device.Shut) (at_i : c.errands[i]? = some e)
    (refused : e.refusal? c.device.kind = some e') :
    c.step (.errand i) = some { c with errands := c.errands.set i e' } := by
  have begins : e.stalls c.device = false ∧ e.notifies = false ∧ e.label c.device = [] := by
    cases e <;> first | exact ⟨rfl, rfl, rfl⟩ | simp [Errand.refusal?] at refused
  obtain ⟨free, quiet, unlabelled⟩ := begins
  simp only [step, stepErrand, at_i, free]
  rw [perform_of_quiet quiet, shut.refusal refused, unlabelled, List.append_nil]
  rfl

theorem ended_of_shut (shut : c.device.Shut) : c.Ended where
  told := shut.over_of_shut
  begun r mode buffer inside room :=
    ⟨Visit.start r mode buffer, if_pos inside, rfl, Visit.stepsLeft_start r mode room⟩
  answered _ _ _ _ _ _ _ ran at_i left traced := stepsLeft_run shut ran at_i left traced
  calm _ _ _ at_i left := calm_of_shut shut at_i left
  leaving _ _ _ at_i left := leaving_of_stepsLeft at_i left
  refused _ _ _ at_i refused := refused_of_shut shut at_i refused

/-- The visits that are suspended in `c` have been released in `d`, unless they have left. -/
def Releases (c : Crowd ω) (ms : List (Move ω)) (d : Crowd ω) : Prop :=
  ∀ j v e k n, c.visits[j]? = some v → v.phase = .suspended e → trace ms j = some (k, n) →
    ∃ w timeout, d.visits[k]? = some w ∧ w.mode = .blocking timeout ∧ Released ms w

/-- On the way from `c` to `d` call `i` brings the buffer of the frame back. -/
def Recycles (c : Crowd ω) (ms : List (Move ω)) (i : Nat) (f : Frame) (d : Crowd ω) : Prop :=
  ∃ before after x y, ms = before ++ .errand i :: after ∧ c.run before = some x ∧
    x.step (.errand i) = some y ∧ y.run after = some d ∧ x.Returned y f

theorem releases_run (patient : ∀ v ∈ c.visits, v.Proper) (shut : c.device.Shut)
    (closes : c.Closes i) (ran : c.run ms = some d) (finished : d.errands[i]? = some .finished) :
    c.Releases ms d := by
  intro j v e k n at_j asleep traced
  obtain ⟨w, at_k, mode, released⟩ := released_run shut closes ran finished at_j asleep traced
  have waits := (patient v (List.mem_of_getElem? at_j)).patient (by simp [asleep,
    Reader.Phase.foundNone])
  rw [← mode] at waits
  cases blocking : w.mode with
  | nonblocking => exact absurd blocking waits
  | blocking timeout => exact ⟨w, timeout, at_k, blocking, released⟩

theorem recycles_run {g : Geometry} {size fires : Nat} {f : Frame}
    (conserved : c.Conserved g size fires) (lent : c.Lent)
    (at_i : c.errands[i]? = some (.dropping (some f))) (ran : c.run ms = some d)
    (finished : d.errands[i]? = some .finished) : c.Recycles ms i f d := by
  have further : d.errands[i]? ≠ some (.dropping (some f)) := by simp [finished]
  obtain ⟨before, after, x, y, same, ran₁, at_i', h, ran₂⟩ := errand_made ran at_i further
  exact ⟨before, after, x, y, same, ran₁, h, ran₂,
    returned_of_dropping (conserved.run ran₁) (lent.run ran₁) at_i' h⟩

end Crowd

theorem Timer.step_of_stopped {t : Timer} (stopped : t.phase = .stopped) (e : Timer.Event) :
    t.step e = t := by
  cases e <;> simp [Timer.step, stopped]

namespace Driven

variable {p q : Driven ω} {m : Move ω} {ms : List (Move ω)}

theorem step_cases (h : p.step m = some q) :
    (∃ m', m = .caller m' ∧ p.allows m' = true ∧ p.crowd.step m' = some q.crowd ∧
      q.timer = p.timer) ∨
    (∃ now, m = .tick now ∧ p.halted = false ∧ p.crowd.step (.order .tick) = some q.crowd) ∨
    (m.crowd? = none ∧ q.crowd = p.crowd ∧ (p.halted = true → q.halted = true)) := by
  cases m with
  | caller m' =>
    simp only [step] at h
    split at h
    next allowed =>
      obtain ⟨c, made, rfl⟩ := Option.map_eq_some_iff.mp h
      exact .inl ⟨m', rfl, allowed, made, rfl⟩
    next => simp at h
  | tick now =>
    simp only [step] at h
    split at h
    next => simp at h
    next t timer =>
      split at h
      next due =>
        obtain ⟨c, made, rfl⟩ := Option.map_eq_some_iff.mp h
        exact .inr (.inl ⟨now, rfl, by simp [halted, timer, due.1], made⟩)
      next => simp at h
  | wake stop now =>
    simp only [step] at h
    split at h
    next => simp at h
    next t timer =>
      split at h
      next => simp at h
      next =>
        split at h
        next => simp at h
        next =>
          obtain rfl := Option.some.inj h
          refine .inr (.inr ⟨rfl, rfl, fun done => ?_⟩)
          have stopped : t.phase = .stopped := by simpa [halted, timer] using done
          simp [halted, Timer.step_of_stopped stopped, stopped]
  | ticked now =>
    simp only [step] at h
    split at h
    next t result timer ended =>
      obtain rfl := Option.some.inj h
      refine .inr (.inr ⟨rfl, rfl, fun done => ?_⟩)
      have stopped : t.phase = .stopped := by simpa [halted, timer] using done
      simp [halted, Timer.step_of_stopped stopped, stopped]
    next => simp at h

theorem crowd_run (ran : p.run ms = some q) : p.crowd.run (crowdMoves ms) = some q.crowd := by
  induction ms generalizing p with
  | nil => rw [← Option.some.inj ran]; rfl
  | cons m ms ih =>
    obtain ⟨r, first, rest⟩ := Option.bind_eq_some_iff.mp ran
    have later := ih rest
    obtain ⟨m', rfl, -, made, -⟩ | ⟨now, rfl, -, made⟩ | ⟨aside, same, -⟩ := step_cases first
    · change (p.crowd.step m').bind (fun c => c.run (crowdMoves ms)) = _
      rw [made]
      exact later
    · change (p.crowd.step (.order .tick)).bind (fun c => c.run (crowdMoves ms)) = _
      rw [made]
      exact later
    · rw [crowdMoves, List.filterMap_cons_none aside, ← same]
      exact later

theorem halted_step (done : p.halted = true) (h : p.step m = some q) :
    q.halted = true ∧ m.crowd? ≠ some (.order .tick) := by
  obtain ⟨m', rfl, allowed, -, same⟩ | ⟨now, -, busy, -⟩ | ⟨aside, -, still⟩ := step_cases h
  · refine ⟨by rwa [halted, same], ?_⟩
    rintro ⟨⟩
    simp [allows] at allowed
  · simp [done] at busy
  · exact ⟨still done, by simp [aside]⟩

theorem halted_run (done : p.halted = true) (ran : p.run ms = some q) :
    q.halted = true ∧ .order .tick ∉ crowdMoves ms := by
  induction ms generalizing p with
  | nil => exact ⟨Option.some.inj ran ▸ done, by simp [crowdMoves]⟩
  | cons m ms ih =>
    obtain ⟨r, first, rest⟩ := Option.bind_eq_some_iff.mp ran
    obtain ⟨done', other⟩ := halted_step done first
    obtain ⟨done'', untimed⟩ := ih done' rest
    refine ⟨done'', ?_⟩
    rw [crowdMoves, List.mem_filterMap]
    rintro ⟨m', member, tick⟩
    rcases List.mem_cons.mp member with rfl | later
    · exact other tick
    · exact untimed (List.mem_filterMap.mpr ⟨m', later, tick⟩)

theorem run_append (p : Driven ω) (before after : List (Move ω)) :
    p.run (before ++ after) = (p.run before).bind fun q => q.run after := by
  induction before generalizing p with
  | nil => rfl
  | cons m before ih => simp only [List.cons_append, run, ih, Option.bind_assoc]

theorem caller_of_errand {k : Nat} (member : .errand k ∈ crowdMoves ms) :
    .caller (.errand k) ∈ ms := by
  obtain ⟨m, member, same⟩ := List.mem_filterMap.mp member
  cases m <;> simp_all [Move.crowd?]

theorem shut_step {i : Nat} (at_i : p.crowd.errands[i]? = some .shutting)
    (h : p.step (.caller (.errand i)) = some q) :
    p.halted = true ∧ q.halted = true ∧ p.crowd.step (.errand i) = some q.crowd := by
  obtain ⟨_, ⟨⟩, allowed, made, timer⟩ | ⟨now, ⟨⟩, -⟩ | ⟨aside, -⟩ := step_cases h
  · have done : p.halted = true := by simpa [allows, at_i] using allowed
    exact ⟨done, by rwa [halted, timer], made⟩
  · simp [Move.crowd?] at aside

theorem counting_step {b : Crowd ω} (settled : b.Settled p.crowd) (shut : p.crowd.device.Shut)
    (done : p.halted = true) (h : p.step m = some q)
    (counted : q.crowd.device.counts ≠ p.crowd.device.counts) :
    ∃ k e, m = .caller (.errand k) ∧ b.errands[k]? = some e ∧ e.pending = true := by
  obtain ⟨m', rfl, -, made, -⟩ | ⟨now, -, busy, -⟩ | ⟨-, same, -⟩ := step_cases h
  · by_cases going : ∃ k e, m' = .errand k ∧ p.crowd.errands[k]? = some e ∧ e.pending = true
    · obtain ⟨k, e, rfl, at_k, pending⟩ := going
      obtain ⟨e', at_k', pending'⟩ := settled k e at_k pending
      exact ⟨k, e', rfl, at_k', pending'⟩
    · refine absurd (Crowd.counts_step shut made fun k e own at_k => ?_) counted
      exact Bool.eq_false_iff.mpr fun pending => going ⟨k, e, own, at_k, pending⟩
  · simp [done] at busy
  · exact absurd (by rw [same]) counted

theorem settled_run {b : Crowd ω} (settled : b.Settled p.crowd) (shut : p.crowd.device.Shut)
    (done : p.halted = true) (ran : p.run ms = some q) : b.Settled q.crowd := by
  obtain ⟨-, untimed⟩ := halted_run done ran
  exact settled.run shut untimed (crowd_run ran)

/--
Closing is for good. Call `i` of the ones that are made shuts the mailbox of any device in any state
that is reached; in `p` the call has come to its end, and `q` is any state after that.

In `q` all that callers are told is that it is over, and the mailbox is as it was left. Numbers and
statistics are changed only by the steps of calls that were under way in `p` and had yet to count.
Whoever is suspended before the closing call has come to its end is woken by it. Nobody gets a
frame, and the buffer of the one that was left is back in the pool.
-/
theorem ended_of_close {memory : Nat} {kind : Kind} {n : UInt64} {d : Device ω} {readers : Nat}
    {ms₀ ms₁ ms₂ : List (Move ω)} {p₀ p₁ p q : Driven ω} {i : Nat}
    (opened : openWith memory kind n = .ok d) (ran₀ : (start d readers).run ms₀ = some p₀)
    (shutting : p₀.crowd.errands[i]? = some .shutting)
    (shut : p₀.step (.caller (.errand i)) = some p₁)
    (ran₁ : p₁.run ms₁ = some p) (finished : p.crowd.errands[i]? = some .finished)
    (ran₂ : p.run ms₂ = some q) :
    q.crowd.Ended ∧
      q.crowd.device.mailbox = p₀.crowd.device.mailbox.close.2 ∧
      ((∀ k e, .caller (.errand k) ∈ ms₂ → p.crowd.errands[k]? = some e → e.pending = false) →
        q.crowd.device.counts = p.crowd.device.counts) ∧
      (∀ before m after x y, ms₂ = before ++ m :: after → p.run before = some x →
        x.step m = some y → y.crowd.device.counts ≠ x.crowd.device.counts →
          ∃ k e, m = .caller (.errand k) ∧ p.crowd.errands[k]? = some e ∧ e.pending = true) ∧
      (∀ before after r, ms₁ = before ++ after → p₁.run before = some r →
        r.crowd.errands[i]? ≠ some .finished → r.crowd.Releases (crowdMoves after) p.crowd) ∧
      (∀ g pattern period f, kind = .frames g pattern period →
        p₀.crowd.device.mailbox.frame = some f →
          p₁.crowd.Recycles (crowdMoves ms₁) i f p.crowd) ∧
      q.crowd.received.Subperm p₀.crowd.received := by
  have way₀ := crowd_run ran₀
  have way₁ := crowd_run ran₁
  have way₂ := crowd_run ran₂
  obtain ⟨-, done₁, made⟩ := shut_step shutting shut
  obtain ⟨done, -⟩ := halted_run done₁ ran₁
  obtain ⟨-, untimed⟩ := halted_run done ran₂
  obtain ⟨shut₁, mailbox₁, dropping, received⟩ :=
    Crowd.shut_of_shutting (Crowd.announced_of_run way₀) shutting made
  obtain ⟨shut_p, mailbox_p⟩ := Crowd.shut_run shut₁ way₁
  obtain ⟨shut_q, mailbox_q⟩ := Crowd.shut_run shut_p way₂
  have settled : p.crowd.Settled p.crowd := fun k e at_k pending => ⟨e, at_k, pending⟩
  refine ⟨Crowd.ended_of_shut shut_q, ?_, fun idle => ?_, ?_, ?_, ?_, ?_⟩
  · rw [mailbox_q, mailbox_p, mailbox₁]
  · exact Crowd.counts_run settled shut_p untimed way₂ fun k e member =>
      idle k e (caller_of_errand member)
  · rintro before m after x y - ran made counted
    exact counting_step (settled_run settled shut_p done ran)
      (Crowd.shut_run shut_p (crowd_run ran)).1 (halted_run done ran).1 made counted
  · rintro before after r rfl ran unfinished
    rw [run_append, ran] at ran₁
    have way : (start d readers).run (ms₀ ++ .caller (.errand i) :: before) = some r := by
      rw [run_append, ran₀]
      exact (congrArg (Option.bind · _) shut).trans ran
    have closes := Crowd.closes_run (.inr ⟨_, dropping⟩) (crowd_run ran)
    exact Crowd.releases_run (Crowd.proper_of_run (crowd_run way))
      (Crowd.shut_run shut₁ (crowd_run ran)).1 (closes.resolve_right unfinished)
      (crowd_run ran₁) finished
  · rintro g pattern period f rfl pending
    rw [pending] at dropping
    have conserved := ((Crowd.conserved_start opened readers).run way₀).step made
    have lent := ((Crowd.lent_start opened readers).run way₀).step made
    exact Crowd.recycles_run conserved lent dropping way₁ finished
  · rw [← received]
    exact (Crowd.received_run shut_p way₂).trans (Crowd.received_run shut₁ way₁)

-- a reader is suspended, and a tick on demand has left a frame that it has not told of yet
def beforeShut : List (Move Unit) :=
  [.caller (.visit 0 (.blocking none) none), .caller (.advance 0), .caller (.advance 0),
    .caller (.advance 0), .caller (.advance 0), .caller (.advance 0), .caller (.order .fire),
    .caller (.errand 0), .caller (.errand 0), .caller (.errand 0), .caller (.errand 0),
    .caller (.order .close), .caller (.errand 1), .wake true 3]

def toTheEnd : List (Move Unit) := [.caller (.errand 1), .caller (.errand 1)]

def afterwards : List (Move Unit) :=
  [.caller (.advance 0), .caller (.advance 0), .caller (.advance 0), .caller (.leave 0),
    .caller (.visit 0 .nonblocking none), .caller (.advance 0), .caller (.order .close)]

theorem ended_of_close_suspendedReader :
    ∃ d p₀ p₁ p q f v,
      openWith 1024 (.frames ⟨2, 1, 2⟩ .gradient (some ⟨5⟩)) 2 = .ok d ∧
      (start d 1).run beforeShut = some p₀ ∧ p₀.crowd.errands[1]? = some .shutting ∧
      p₀.step (.caller (.errand 1)) = some p₁ ∧ p₁.run toTheEnd = some p ∧
      p.crowd.errands[1]? = some .finished ∧ p.run afterwards = some q ∧
      p₀.crowd.device.mailbox.frame = some f ∧
      p₁.crowd.visits[0]? = some v ∧ v.phase = .suspended 0 ∧
      q.crowd.Ended ∧ q.crowd.device.counts = p.crowd.device.counts ∧
      (∃ w timeout, p.crowd.visits[0]? = some w ∧ w.mode = .blocking timeout ∧
        Crowd.Released (crowdMoves toTheEnd) w) ∧
      p₁.crowd.Recycles (crowdMoves toTheEnd) 1 f p.crowd ∧
      q.crowd.received.Subperm p₀.crowd.received := by
  have ended (d : Device Unit) (p₀ p₁ p q : Driven Unit) (f : Frame) (v : Visit)
      (opened : openWith 1024 (.frames ⟨2, 1, 2⟩ .gradient (some ⟨5⟩)) 2 = .ok d)
      (ran₀ : (start d 1).run beforeShut = some p₀)
      (shutting : p₀.crowd.errands[1]? = some .shutting)
      (shut : p₀.step (.caller (.errand 1)) = some p₁)
      (dropping : p₁.crowd.errands[1]? = some (.dropping (some f)))
      (ran₁ : p₁.run toTheEnd = some p) (finished : p.crowd.errands[1]? = some .finished)
      (ran₂ : p.run afterwards = some q) (left : p₀.crowd.device.mailbox.frame = some f)
      (here : p₁.crowd.visits[0]? = some v) (asleep : v.phase = .suspended 0) :
      q.crowd.Ended ∧ q.crowd.device.counts = p.crowd.device.counts ∧
        (∃ w timeout, p.crowd.visits[0]? = some w ∧ w.mode = .blocking timeout ∧
          Crowd.Released (crowdMoves toTheEnd) w) ∧
        p₁.crowd.Recycles (crowdMoves toTheEnd) 1 f p.crowd ∧
        q.crowd.received.Subperm p₀.crowd.received := by
    obtain ⟨terminal, -, counts, -, releases, recycles, received⟩ :=
      ended_of_close opened ran₀ shutting shut ran₁ finished ran₂
    have released := releases [] toTheEnd p₁ rfl rfl (by simp [dropping])
    exact ⟨terminal, counts (by simp [afterwards]), released 0 v 0 0 0 here asleep rfl,
      recycles _ _ _ f rfl left, received⟩
  exact ⟨_, _, _, _, _, _, _, rfl, rfl, rfl, rfl, rfl, rfl, rfl, rfl, rfl, rfl,
    ended _ _ _ _ _ _ _ rfl rfl rfl rfl rfl rfl rfl rfl rfl rfl rfl⟩

-- a tick on demand has its buffer when the device is closed under it
def closedUnderTick : List (Move Unit) :=
  [.caller (.order .fire), .caller (.errand 0), .caller (.errand 0), .caller (.order .close),
    .caller (.errand 1), .caller (.errand 1), .caller (.errand 1), .caller (.errand 1)]

-- a reader is suspended and the timer is in a tick when the device is closed, and then once more
def closedTwice : List (Move Unit) :=
  [.caller (.visit 0 (.blocking none) none), .caller (.advance 0), .caller (.advance 0),
    .caller (.advance 0), .caller (.advance 0), .caller (.advance 0), .tick 5,
    .caller (.order .close), .caller (.errand 1), .caller (.order .close), .caller (.errand 2)]

-- a write to a device without a pool, and then the call that closes it
def writtenOnce : List (Move Unit) :=
  .caller (.order (.write 1024 [1])) :: List.replicate 6 (.caller (.errand 0))

def closedAfter : List (Move Unit) :=
  .caller (.order .close) :: List.replicate 4 (.caller (.errand 1))

/-- After a call that closes has come to its end a number can still be drawn; the second of two such
calls comes to its end while the reader is suspended and frames are published; and a frame that was
written has no pool to go back to. -/
theorem unfinished_at_closed :
    (∃ d p q, openWith 1024 (.frames ⟨2, 1, 2⟩ .gradient none) 2 = .ok d ∧
      (start d 0).run closedUnderTick = some p ∧ p.crowd.errands[1]? = some .finished ∧
      p.crowd.device.Shut ∧ p.step (.caller (.errand 0)) = some q ∧
      p.crowd.device.nextSeq = 1 ∧ q.crowd.device.nextSeq = 2) ∧
    (∃ d p v, openWith 1024 (.frames ⟨2, 1, 2⟩ .gradient (some ⟨5⟩)) 2 = .ok d ∧
      (start d 1).run closedTwice = some p ∧ p.crowd.errands[2]? = some .finished ∧
      p.crowd.device.mailbox.closed = false ∧ p.crowd.visits[0]? = some v ∧
      v.phase = .suspended 0 ∧ p.crowd.device.fire.1 = .ok (.published 1) ∧
      p.crowd.device.fire.2.mailbox.lastSeq = 1) ∧
    ∃ d p q f, openWith 1024 (.simple 4) 2 = .ok d ∧ (start d 0).run writtenOnce = some p ∧
      p.crowd.device.mailbox.frame = some f ∧ p.run closedAfter = some q ∧
      q.crowd.errands[1]? = some .finished ∧ q.crowd.device.mailbox.frame = none ∧
      q.crowd.device.pool = none := by
  refine ⟨⟨_, _, _, rfl, rfl, rfl, ⟨rfl, rfl, rfl, rfl⟩, rfl, rfl, rfl⟩, ?_, ?_⟩
  · exact ⟨_, _, _, rfl, rfl, rfl, rfl, rfl, rfl, rfl, rfl⟩
  · exact ⟨_, _, _, _, rfl, rfl, rfl, rfl, rfl, rfl, rfl⟩

end Driven

end Framecast.Device
