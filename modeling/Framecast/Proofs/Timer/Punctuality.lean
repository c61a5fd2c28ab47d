import Framecast.Proofs.Positions
import Framecast.Timer.Diary

set_option autoImplicit false

namespace Framecast.Timer

theorem following_of_lt {period deadline now : Nat} (early : now < deadline + period) :
    following period deadline now = deadline + period := if_neg (Nat.not_le.mpr early)

namespace Diary

variable {period since : Nat} {d : Diary}

theorem step_cases (d : Diary) (e : Event) :
    d.step e = d ∨
    (d.timer.phase = .asleep ∧ d.timer.deadline ≤ e.now ∧
      d.step e =
        { d with
          timer := { d.timer with phase := .ticking }
          begun := d.begun ++ [e.now] }) ∨
    (d.timer.phase = .ticking ∧
      d.step e =
        { d with
          timer :=
            { d.timer with
              phase := .asleep
              deadline := following d.timer.period d.timer.deadline e.now }
          ended := d.ended ++ [e.now]
          deadlines :=
            d.deadlines ++ [following d.timer.period d.timer.deadline e.now] }) ∨
    d.step e = { d with timer := { d.timer with phase := .stopped } } := by
  cases e with
  | wake stop now =>
    cases phase : d.timer.phase with
    | asleep =>
      cases stop with
      | true => simp [step, Timer.step, phase]
      | false =>
        by_cases due : d.timer.deadline ≤ now
        next => exact .inr (.inl ⟨rfl, due, by simp [step, Timer.step, phase, due, Event.now]⟩)
        next => exact .inl (by simp [step, Timer.step, phase, due])
    | ticking => exact .inl (by simp [step, Timer.step, phase])
    | stopped => exact .inl (by simp [step, Timer.step, phase])
  | ticked closed now =>
    cases phase : d.timer.phase with
    | asleep => exact .inl (by simp [step, Timer.step, phase])
    | ticking =>
      cases closed with
      | true => exact .inr (.inr (.inr (by simp [step, Timer.step, phase])))
      | false => exact .inr (.inr (.inl ⟨rfl, by simp [step, Timer.step, phase, Event.now]⟩))
    | stopped => exact .inl (by simp [step, Timer.step, phase])

-- deadlines follow each other as ticks are over, and tick `k` is the tick for deadline `k`
structure Sound (period since : Nat) (d : Diary) : Prop where
  paced : d.timer.period = period
  first : d.deadlines[0]? = some (since + period)
  current : d.deadlines[d.ended.length]? = some d.timer.deadline
  settings : d.deadlines.length = d.ended.length + 1
  asleep : d.timer.phase = .asleep → d.begun.length = d.ended.length
  ticking : d.timer.phase = .ticking → d.begun.length = d.ended.length + 1
  due : ∀ k now : Nat, d.begun[k]? = some now →
    ∃ deadline, d.deadlines[k]? = some deadline ∧ deadline ≤ now
  chain : ∀ k a o : Nat, d.deadlines[k]? = some a → d.ended[k]? = some o →
    d.deadlines[k + 1]? = some (following period a o)

theorem sound_start (period since : Nat) : (start period since).Sound period since where
  paced := rfl
  first := rfl
  current := rfl
  settings := rfl
  asleep _ := rfl
  ticking ticking := by simp [start, Timer.start] at ticking
  due := by simp [start]
  chain := by simp [start]

namespace Sound

theorem begin (sound : d.Sound period since) {now : Nat} (asleep : d.timer.phase = .asleep)
    (due : d.timer.deadline ≤ now) :
    Sound period since
      { d with timer := { d.timer with phase := .ticking }, begun := d.begun ++ [now] } where
  paced := sound.paced
  first := sound.first
  current := sound.current
  settings := sound.settings
  asleep awake := by simp at awake
  ticking _ := by rw [List.length_append, sound.asleep asleep, List.length_singleton]
  due := by
    intro k time begun
    rcases getElem?_concat_cases begun with old | ⟨rfl, rfl⟩
    · exact sound.due k time old
    · exact ⟨d.timer.deadline, sound.asleep asleep ▸ sound.current, due⟩
  chain := sound.chain

theorem finish (sound : d.Sound period since) {now : Nat} (ticking : d.timer.phase = .ticking) :
    Sound period since
      { d with
        timer :=
          { d.timer with
            phase := .asleep
            deadline := following d.timer.period d.timer.deadline now }
        ended := d.ended ++ [now]
        deadlines := d.deadlines ++ [following d.timer.period d.timer.deadline now] } where
  paced := sound.paced
  first := getElem?_concat sound.first _
  current := by simp [← sound.settings]
  settings := by simp [sound.settings]
  asleep _ := by simpa using sound.ticking ticking
  ticking asleep := by simp at asleep
  due := by
    intro k time begun
    obtain ⟨deadline, at_k, due⟩ := sound.due k time begun
    exact ⟨deadline, getElem?_concat at_k _, due⟩
  chain := by
    intro k a o set ended
    rcases getElem?_concat_cases ended with old | ⟨rfl, rfl⟩
    · obtain ⟨inside, -⟩ := List.getElem?_eq_some_iff.mp old
      have before : d.deadlines[k]? = some a := by
        rwa [List.getElem?_append_left (by rw [sound.settings]; omega)] at set
      exact getElem?_concat (sound.chain k a o before old) _
    · -- the tick that is over is the one for the deadline the timer was set to
      have now_set := getElem?_concat sound.current (following d.timer.period d.timer.deadline o)
      obtain rfl : d.timer.deadline = a := Option.some.inj (now_set.symm.trans set)
      rw [← sound.settings, List.getElem?_concat_length, sound.paced]

theorem stop (sound : d.Sound period since) :
    Sound period since { d with timer := { d.timer with phase := .stopped } } where
  paced := sound.paced
  first := sound.first
  current := sound.current
  settings := sound.settings
  asleep asleep := by simp at asleep
  ticking ticking := by simp at ticking
  due := sound.due
  chain := sound.chain

theorem step (sound : d.Sound period since) (e : Event) : (d.step e).Sound period since := by
  obtain same | ⟨asleep, due, begins⟩ | ⟨ticking, ends⟩ | stops := d.step_cases e
  · rw [same]
    exact sound
  · rw [begins]
    exact sound.begin asleep due
  · rw [ends]
    exact sound.finish ticking
  · rw [stops]
    exact sound.stop

theorem run (sound : d.Sound period since) (es : List Event) : (d.run es).Sound period since := by
  induction es generalizing d with
  | nil => exact sound
  | cons e es ih => exact ih (sound.step e)

theorem of_succ (sound : d.Sound period since) {k b : Nat} (set : d.deadlines[k + 1]? = some b) :
    ∃ a o, d.deadlines[k]? = some a ∧ d.ended[k]? = some o ∧ b = following period a o := by
  obtain ⟨inside, -⟩ := List.getElem?_eq_some_iff.mp set
  rw [sound.settings] at inside
  have before : k < d.deadlines.length := by rw [sound.settings]; omega
  have ended : k < d.ended.length := by omega
  refine ⟨d.deadlines[k], d.ended[k], List.getElem?_eq_getElem before,
    List.getElem?_eq_getElem ended, ?_⟩
  have next := sound.chain k _ _ (List.getElem?_eq_getElem before) (List.getElem?_eq_getElem ended)
  exact Option.some.inj (set.symm.trans next)

theorem le_deadline (sound : d.Sound period since) {k a : Nat} (set : d.deadlines[k]? = some a) :
    since + (k + 1) * period ≤ a := by
  induction k generalizing a with
  | zero =>
    obtain rfl := Option.some.inj (sound.first.symm.trans set)
    omega
  | succ k ih =>
    obtain ⟨b, o, before, -, rfl⟩ := sound.of_succ set
    have earlier := ih before
    have apart := add_le_following period b o
    rw [Nat.succ_mul]
    omega

-- while every tick is over within its period the deadlines are the multiples of it
theorem eq_deadline (sound : d.Sound period since) {k a : Nat}
    (prompt : ∀ i < k, ∀ b o : Nat, d.deadlines[i]? = some b → d.ended[i]? = some o →
      o < b + period)
    (set : d.deadlines[k]? = some a) : a = since + (k + 1) * period := by
  induction k generalizing a with
  | zero =>
    obtain rfl := Option.some.inj (sound.first.symm.trans set)
    omega
  | succ k ih =>
    obtain ⟨b, o, before, ended, rfl⟩ := sound.of_succ set
    have earlier := ih (fun i inside => prompt i (Nat.lt_succ_of_lt inside)) before
    have early := prompt k (Nat.lt_succ_self k) b o before ended
    rw [following_of_lt early, earlier, Nat.succ_mul (k + 1), Nat.add_assoc]

theorem countP_begun_le (sound : d.Sound period since) (pos : 0 < period) (time : Nat) :
    d.begun.countP (· ≤ time) ≤ (time - since) / period := by
  -- a tick after as many as there are whole periods begins later than `time`
  have late : ∀ now ∈ d.begun.drop ((time - since) / period), ¬ now ≤ time := by
    intro now member
    obtain ⟨j, at_j⟩ := List.getElem?_of_mem member
    rw [List.getElem?_drop] at at_j
    obtain ⟨deadline, set, due⟩ := sound.due _ now at_j
    have far := sound.le_deadline set
    have whole := Nat.div_add_mod (time - since) period
    have rest := Nat.mod_lt (time - since) pos
    rw [Nat.add_right_comm, Nat.add_mul, Nat.add_mul, Nat.one_mul, Nat.mul_comm _ period] at far
    omega
  have none_late : (d.begun.drop ((time - since) / period)).countP (· ≤ time) = 0 :=
    List.countP_eq_zero.mpr fun now member => by simpa using late now member
  rw [← List.take_append_drop ((time - since) / period) d.begun, List.countP_append, none_late]
  exact Nat.le_trans List.countP_le_length (List.length_take_le _ _)

end Sound

theorem timer_run (d : Diary) (es : List Event) : (d.run es).timer = d.timer.run es := by
  induction es generalizing d with
  | nil => rfl
  | cons e es ih =>
    have first : (d.step e).timer = d.timer.step e := by
      rw [step]
      split
      · rfl
      · split <;> rfl
    exact (ih _).trans (congrArg (fun t => Timer.run t es) first)

theorem begun_of_stopped {es : List Event} (stopped : d.timer.phase = .stopped) :
    (d.run es).begun = d.begun := by
  induction es generalizing d with
  | nil => rfl
  | cons e es ih =>
    have same : d.step e = d := by
      cases e <;> simp [step, Timer.step, stopped]
    rw [run, List.foldl_cons, same]
    exact ih stopped

/--
Whenever the timer is woken and however long its ticks take: no tick begins before its deadline, the
first deadline is one period from the start and each is at least a period after the one before, so
that not more ticks begin than periods have passed. A deadline lies behind the end of the tick
before it, so what was missed stays missed; and the deadlines are the multiples of the period as
long as each tick is over within one. A timer that is due begins its tick, unless it sees that it is
to stop, and then there is none any more.
-/
theorem punctual_of_run {period since : Nat} {es : List Event} {d : Diary} (pos : 0 < period)
    (ran : (start period since).run es = d) :
    d.timer = (Timer.start period since).run es ∧
    d.deadlines[0]? = some (since + period) ∧
    d.deadlines.getLast? = some d.timer.deadline ∧
    (∀ k now : Nat, d.begun[k]? = some now →
      ∃ deadline, d.deadlines[k]? = some deadline ∧ deadline ≤ now) ∧
    (∀ k a b : Nat, d.deadlines[k]? = some a → d.deadlines[k + 1]? = some b → a + period ≤ b) ∧
    (∀ time, d.begun.countP (· ≤ time) ≤ (time - since) / period) ∧
    (∀ k o : Nat, d.ended[k]? = some o →
      ∃ next, d.deadlines[k + 1]? = some next ∧ o < next) ∧
    (∀ k, (∀ i < k, ∀ b o : Nat, d.deadlines[i]? = some b → d.ended[i]? = some o → o < b + period) →
      ∀ a, d.deadlines[k]? = some a → a = since + (k + 1) * period) ∧
    (d.timer.phase = .asleep → ∀ now,
      (d.timer.deadline ≤ now → (d.step (.wake false now)).begun = d.begun ++ [now]) ∧
      ∀ later, (d.run (.wake true now :: later)).begun = d.begun) := by
  have sound : d.Sound period since := ran ▸ (sound_start period since).run es
  refine ⟨ran ▸ timer_run _ es, sound.first, ?_, sound.due, ?_, sound.countP_begun_le pos, ?_,
    fun k prompt a => sound.eq_deadline prompt, fun asleep now => ⟨fun due => ?_, fun later => ?_⟩⟩
  · rw [List.getLast?_eq_getElem?, sound.settings]
    exact sound.current
  · intro k a b set next
    obtain ⟨a', o, set', -, rfl⟩ := sound.of_succ next
    obtain rfl := Option.some.inj (set.symm.trans set')
    exact add_le_following period a o
  · intro k o ended
    obtain ⟨inside, -⟩ := List.getElem?_eq_some_iff.mp ended
    have set : k < d.deadlines.length := by rw [sound.settings]; omega
    exact ⟨_, sound.chain k _ o (List.getElem?_eq_getElem set) ended, now_lt_following pos⟩
  · simp [step, Timer.step, asleep, due, Event.now]
  · have stops : d.step (.wake true now) =
        { d with timer := { d.timer with phase := .stopped } } := by
      simp [step, Timer.step, asleep]
    rw [run, List.foldl_cons, stops]
    exact begun_of_stopped rfl

-- woken too early, in time, over just within the period, then over a whole period late
def lateTick : List Event :=
  [.wake false 9, .wake false 10, .ticked false 19, .wake false 21, .ticked false 30,
    .wake false 40, .ticked false 41, .wake false 49]

theorem punctual_of_run_lateTick :
    ∃ d, (start 10 0).run lateTick = d ∧ 0 < 10 ∧ d.deadlines = [10, 20, 40, 50] ∧
      d.begun = [10, 21, 40] ∧ d.ended = [19, 30, 41] ∧
      d.begun.countP (· ≤ 40) ≤ 4 ∧ (d.run [.wake true 50, .wake false 60]).begun = d.begun := by
  have ran : (start 10 0).run lateTick = (start 10 0).run lateTick := rfl
  obtain ⟨-, -, -, -, -, count, -, -, stop⟩ := punctual_of_run (by decide) ran
  exact ⟨_, rfl, by decide, by decide, by decide, by decide, count 40, (stop (by decide) 50).2 _⟩

end Diary

end Framecast.Timer
