import Framecast.Proofs.Crowd.Conservation
import Framecast.Proofs.Crowd.Visits
import Framecast.Proofs.Device.Closed

set_option autoImplicit false

namespace Framecast.Device

variable {ω : Type}

namespace Crowd

def Move.place : Move ω → Nat → Option Nat
  | .leave j, i => if j = i then none else if j < i then some (i - 1) else some i
  | _, i => some i

def Move.own : Move ω → Nat → Nat
  | .advance j, i => if j = i then 1 else 0
  | _, _ => 0

-- where the visit at place `i` is in the end, unless it has left, and how many steps it made
def trace : List (Move ω) → Nat → Option (Nat × Nat)
  | [], i => some (i, 0)
  | m :: ms, i => (m.place i).bind fun j => (trace ms j).map fun (k, n) => (k, m.own i + n)

theorem Move.own_of_ne {m : Move ω} {i : Nat} (other : m ≠ .advance i) : m.own i = 0 := by
  cases m with
  | advance j =>
    refine if_neg fun same => other ?_
    rw [same]
  | _ => rfl

theorem trace_cons {m : Move ω} {ms : List (Move ω)} {i k n : Nat}
    (traced : trace (m :: ms) i = some (k, n)) :
    ∃ j n', m.place i = some j ∧ trace ms j = some (k, n') ∧ n = m.own i + n' := by
  obtain ⟨j, stays, rest⟩ := Option.bind_eq_some_iff.mp traced
  obtain ⟨⟨k', n'⟩, traced', same⟩ := Option.map_eq_some_iff.mp rest
  obtain ⟨rfl, rfl⟩ := Prod.mk.inj same
  exact ⟨j, n', stays, traced', rfl⟩

variable {c d : Crowd ω} {m : Move ω} {ms : List (Move ω)} {i j k n : Nat} {v w : Visit}

theorem visits_place (h : c.step m = some d) (at_i : c.visits[i]? = some v)
    (stays : m.place i = some j) : ∃ w, d.visits[j]? = some w ∧ v.Next c m i w := by
  cases m with
  | leave k =>
    refine ⟨v, ?_, .left (by simp)⟩
    rw [visits_leave h, List.getElem?_eraseIdx]
    simp only [Move.place] at stays
    split at stays
    next => simp at stays
    next other =>
      split at stays
      next before =>
        obtain rfl := Option.some.inj stays
        rw [if_neg (by omega), Nat.sub_add_cancel (by omega), at_i]
      next after =>
        obtain rfl := Option.some.inj stays
        rw [if_pos (by omega), at_i]
  | _ =>
    obtain rfl := Option.some.inj stays
    obtain ⟨inside, -⟩ := List.getElem?_eq_some_iff.mp at_i
    obtain ⟨r, mode, buffer, same, visits⟩ | ⟨k, same, -⟩ | ⟨length, onward⟩ := visits_step h
    · refine ⟨v, ?_, .left (by simp [same])⟩
      rw [visits, List.getElem?_append_left inside, at_i]
    · simp at same
    · obtain ⟨w, after⟩ : ∃ w, d.visits[i]? = some w :=
        ⟨_, List.getElem?_eq_getElem (length ▸ inside)⟩
      exact ⟨w, after, onward i v w at_i after⟩

end Crowd

/-- How many steps of its own a visit is away from what a closed device answers, unless it looked
before the device was closed. -/
def Visit.stepsLeft? (v : Visit) : Option Nat :=
  match v.mode, v.phase with
  | .blocking _, .looking => some 3
  | .blocking _, .observed _ => some 2
  | .blocking _, .missed _ => some 1
  | .blocking _, .done (.ok .endOfStream) => some 0
  | .nonblocking, .looking => some 2
  | .nonblocking, .observed _ => some 1
  | .nonblocking, .done (.error .wouldBlock) => some 0
  | _, _ => none

namespace Visit

variable {d : Device ω} {v w : Visit} {n : Nat}

theorem stepsLeft_start (r : Nat) (mode : Mode) {buffer : Option Bytes} (room : buffer ≠ some []) :
    (Visit.start r mode buffer).stepsLeft? = some (if mode = .nonblocking then 2 else 3) := by
  cases mode <;> simp [start, room, stepsLeft?]

theorem stepsLeft_advance (shut : d.Shut) (r : Reader) (left : v.stepsLeft? = some n) :
    (v.moveTo (Reader.advance v.mode (v.phase, r, d)).1).stepsLeft? = some (n - 1) ∧
      (Reader.advance v.mode (v.phase, r, d)).2 = (r, d) := by
  simp only [stepsLeft?] at left
  split at left <;> simp_all [stepsLeft?, Reader.advance, shut.collect, shut.closed]
  all_goals omega

theorem stepsLeft_roused (left : v.stepsLeft? = some n) : v.roused.stepsLeft? = some n := by
  simp only [stepsLeft?] at left
  split at left <;> simp_all [stepsLeft?, roused, Reader.Phase.roused]

theorem stepsLeft_of_suspended {e : UInt32} (asleep : v.phase = .suspended e) :
    v.stepsLeft? = none := by
  cases mode : v.mode <;> simp [stepsLeft?, asleep, mode]

theorem stepsLeft_of_woken {e : UInt32} (asleep : v.phase = .suspended e) :
    v.roused.stepsLeft?.isSome = true := by
  cases mode : v.mode <;> simp [stepsLeft?, roused, Reader.Phase.roused, asleep, mode]

theorem stepsLeft_next {c : Crowd ω} {m : Crowd.Move ω} {i : Nat} (shut : c.device.Shut)
    (next : v.Next c m i w) (left : v.stepsLeft? = some n) :
    w.stepsLeft? = some (n - m.own i) := by
  cases next with
  | left other => rwa [Crowd.Move.own_of_ne other]
  | roused other =>
    rw [Crowd.Move.own_of_ne other]
    exact stepsLeft_roused left
  | advanced own =>
    have same : m.own i = 1 := by rw [own]; exact if_pos rfl
    rw [same]
    exact (stepsLeft_advance shut _ left).1
  | interrupted hit asleep => simp [stepsLeft_of_suspended asleep] at left
  | expired late asleep => simp [stepsLeft_of_suspended asleep] at left

end Visit

namespace Crowd

variable {c d : Crowd ω} {m : Move ω} {ms : List (Move ω)} {i j k n : Nat} {v w : Visit}

theorem announced_step (announced : .shutting ∈ c.errands → c.device.closing = true)
    (h : c.step m = some d) (member : .shutting ∈ d.errands) : d.device.closing = true := by
  by_cases own : ∃ i, m = .errand i
  next =>
    obtain ⟨i, rfl⟩ := own
    obtain ⟨e, at_i, -, rfl⟩ := stepErrand_eq_some h
    rw [device_perform]
    rw [errands_perform] at member
    obtain ⟨-, begun⟩ | ⟨same, other⟩ := Errand.closing_step e c.device
    · exact begun
    · rw [same]
      refine announced ((List.mem_or_eq_of_mem_set member).resolve_right fun new => ?_)
      exact other new.symm
  next =>
    obtain ⟨i, e, rfl, -⟩ | ⟨-, -, -, same⟩ := still_step h
    · exact absurd ⟨i, rfl⟩ own
    rw [same]
    refine announced ?_
    obtain ⟨-, errands⟩ | ⟨o, -, errands⟩ | ⟨i, f, -, errands⟩ | ⟨i, e, rfl, -⟩ := errands_step h
    · exact errands ▸ member
    · rw [errands] at member
      refine (List.mem_append.mp member).resolve_right fun new => ?_
      cases o <;> simp [Order.errand] at new
    · rw [errands] at member
      exact (List.mem_append.mp member).resolve_right (by simp)
    · exact absurd ⟨i, rfl⟩ own

theorem announced_of_run {a : Device ω} {readers : Nat}
    (ran : (start a readers).run ms = some c) (member : .shutting ∈ c.errands) :
    c.device.closing = true :=
  run_invariant (P := fun c => .shutting ∈ c.errands → c.device.closing = true)
    (fun _ _ _ announced h => announced_step announced h) (by simp [start]) ran member

theorem device_step (shut : c.device.Shut) (h : c.step m = some d) :
    (∃ i e, m = .errand i ∧ c.errands[i]? = some e ∧
      d.device = (Errand.step (e, c.device)).2) ∨
    ∃ pool channel, d.device = { c.device with pool := pool, channel := channel } := by
  cases m with
  | errand i =>
    obtain ⟨e, at_i, -, rfl⟩ := stepErrand_eq_some h
    exact .inl ⟨i, e, rfl, at_i, device_perform i e⟩
  | order o =>
    obtain rfl | ⟨r, readers, -, rfl⟩ := undertake_eq_some h <;> exact .inr ⟨_, _, rfl⟩
  | visit r mode buffer =>
    obtain rfl := visit_eq_some h
    exact .inr ⟨_, _, rfl⟩
  | advance i =>
    obtain ⟨v, -, rfl⟩ := stepVisit_eq_some h
    exact .inr ⟨_, _, shut.advance _ _ _⟩
  | signal i =>
    obtain ⟨v, _, -, -, rfl⟩ := signal_eq_some h
    exact .inr ⟨_, _, rfl⟩
  | expire i =>
    obtain ⟨v, _, -, -, rfl⟩ := expire_eq_some h
    exact .inr ⟨_, _, congrArg Prod.snd shut.expire⟩
  | leave i =>
    obtain ⟨v, -, ⟨f, -, ⟨-, rfl⟩ | ⟨buffer, -, rfl⟩⟩ | ⟨r, -, -, rfl⟩⟩ := leave_eq_some h <;>
      exact .inr ⟨_, _, rfl⟩
  | drop k =>
    obtain ⟨f, -, -, rfl⟩ := drop_eq_some h
    obtain ⟨pool, same⟩ := drop_eq c.device f
    exact .inr ⟨pool, _, same⟩
  | detach k =>
    obtain ⟨f, -, rfl⟩ := detach_eq_some h
    exact .inr ⟨_, _, rfl⟩
  | _ =>
    obtain rfl := Option.some.inj h
    exact .inr ⟨_, _, rfl⟩

theorem shut_step (shut : c.device.Shut) (h : c.step m = some d) :
    d.device.Shut ∧ d.device.mailbox = c.device.mailbox := by
  obtain ⟨i, e, -, -, same⟩ | ⟨pool, channel, same⟩ := device_step shut h <;> rw [same]
  · exact ⟨shut.errand_shut e, (shut.errand e).2⟩
  · exact ⟨shut.of_same rfl rfl, rfl⟩

theorem shut_run (shut : c.device.Shut) (ran : c.run ms = some d) :
    d.device.Shut ∧ d.device.mailbox = c.device.mailbox := by
  refine run_invariant
    (P := fun d => d.device.Shut ∧ d.device.mailbox = c.device.mailbox) ?_ ⟨shut, rfl⟩ ran
  rintro d e m ⟨shut, same⟩ h
  obtain ⟨shut', same'⟩ := shut_step shut h
  exact ⟨shut', same'.trans same⟩

theorem counts_step (shut : c.device.Shut) (h : c.step m = some d)
    (idle : ∀ i e, m = .errand i → c.errands[i]? = some e → e.pending = false) :
    d.device.counts = c.device.counts := by
  obtain ⟨i, e, own, at_i, same⟩ | ⟨pool, channel, same⟩ := device_step shut h <;> rw [same]
  · exact (shut.counts_errand (idle i e own at_i)).1
  · rfl

/-- A call of `d` that may still count was begun before `c`, and could count then. -/
def Settled (c d : Crowd ω) : Prop :=
  ∀ (i : Nat) (e : Errand), d.errands[i]? = some e → e.pending = true →
    ∃ e' : Errand, c.errands[i]? = some e' ∧ e'.pending = true

theorem pending_orderErrand {o : Order} (untimed : o ≠ .tick) : o.errand.pending = false := by
  cases o with
  | tick => exact absurd rfl untimed
  | _ => rfl

theorem Settled.step {b : Crowd ω} (settled : b.Settled c) (shut : c.device.Shut)
    (untimed : m ≠ .order .tick) (h : c.step m = some d) : b.Settled d := by
  have appended {e : Errand} (idle : e.pending = false) (same : d.errands = c.errands ++ [e]) :
      b.Settled d := by
    intro k e' at_k pending
    rw [same, List.getElem?_append] at at_k
    split at at_k
    next => exact settled k e' at_k pending
    next =>
      rw [List.mem_singleton.mp (List.mem_of_getElem? at_k), idle] at pending
      simp at pending
  obtain ⟨-, same⟩ | ⟨o, rfl, same⟩ | ⟨i, f, -, same⟩ | ⟨i, e, -, at_i, same⟩ := errands_step h
  · intro k e at_k pending
    exact settled k e (same ▸ at_k) pending
  · exact appended (pending_orderErrand fun tick => untimed (tick ▸ rfl)) same
  · exact appended rfl same
  · intro k e' at_k pending
    rw [same] at at_k
    obtain ⟨rfl, rfl⟩ | ⟨-, still⟩ := getElem?_of_set at_k
    · cases before : e.pending with
      | true => exact settled k e at_i before
      | false => simp [(shut.counts_errand before).2] at pending
    · exact settled k e' still pending

theorem Settled.run {b : Crowd ω} (settled : b.Settled c) (shut : c.device.Shut)
    (untimed : .order .tick ∉ ms) (ran : c.run ms = some d) : b.Settled d := by
  induction ms generalizing c with
  | nil => exact Option.some.inj ran ▸ settled
  | cons m ms ih =>
    obtain ⟨a, first, rest⟩ := Option.bind_eq_some_iff.mp ran
    rw [List.mem_cons, not_or] at untimed
    exact ih (settled.step shut (fun tick => untimed.1 tick.symm) first) (shut_step shut first).1
      untimed.2 rest

theorem counts_run {b : Crowd ω} (settled : b.Settled c) (shut : c.device.Shut)
    (untimed : .order .tick ∉ ms) (ran : c.run ms = some d)
    (idle : ∀ i e, .errand i ∈ ms → b.errands[i]? = some e → e.pending = false) :
    d.device.counts = c.device.counts := by
  -- who could count now could count in `b`, and does not move
  induction ms generalizing c with
  | nil => rw [← Option.some.inj ran]
  | cons m ms ih =>
    obtain ⟨a, first, rest⟩ := Option.bind_eq_some_iff.mp ran
    rw [List.mem_cons, not_or] at untimed
    have settled' := settled.step shut (fun tick => untimed.1 tick.symm) first
    have later := ih settled' (shut_step shut first).1 untimed.2 rest fun i e member =>
      idle i e (List.mem_cons_of_mem _ member)
    refine later.trans (counts_step shut first fun i e own at_i => ?_)
    cases pending : e.pending with
    | false => rfl
    | true =>
      obtain ⟨e', at_i', pending'⟩ := settled i e at_i pending
      have idle' := idle i e' (by simp [own]) at_i'
      rw [pending'] at idle'
      exact idle'

theorem stepsLeft_run (shut : c.device.Shut) (ran : c.run ms = some d)
    (at_i : c.visits[i]? = some v) (left : v.stepsLeft? = some n)
    (traced : trace ms i = some (j, k)) :
    ∃ w, d.visits[j]? = some w ∧ w.mode = v.mode ∧ w.stepsLeft? = some (n - k) := by
  induction ms generalizing c i v n k with
  | nil =>
    obtain rfl := Option.some.inj ran
    obtain ⟨rfl, rfl⟩ := Prod.mk.inj (Option.some.inj traced)
    exact ⟨v, at_i, rfl, left⟩
  | cons m ms ih =>
    obtain ⟨b, first, rest⟩ := Option.bind_eq_some_iff.mp ran
    obtain ⟨i', k', stays, traced', rfl⟩ := trace_cons traced
    obtain ⟨u, there, next⟩ := visits_place first at_i stays
    have left' := Visit.stepsLeft_next shut next left
    obtain ⟨w, after, mode, left''⟩ := ih (shut_step shut first).1 rest there left' traced'
    exact ⟨w, after, mode.trans next.mode, by rw [left'', Nat.sub_sub]⟩

theorem done_run {r : Except ReadError Taken} (ran : c.run ms = some d)
    (at_i : c.visits[i]? = some v) (ended : v.phase = .done r)
    (traced : trace ms i = some (j, k)) :
    ∃ w, d.visits[j]? = some w ∧ w.mode = v.mode ∧ w.phase = .done r := by
  induction ms generalizing c i v k with
  | nil =>
    obtain rfl := Option.some.inj ran
    obtain ⟨rfl, rfl⟩ := Prod.mk.inj (Option.some.inj traced)
    exact ⟨v, at_i, rfl, ended⟩
  | cons m ms ih =>
    obtain ⟨b, first, rest⟩ := Option.bind_eq_some_iff.mp ran
    obtain ⟨i', k', stays, traced', rfl⟩ := trace_cons traced
    obtain ⟨u, there, next⟩ := visits_place first at_i stays
    have still : u.phase = .done r := by
      cases next <;> simp_all [Visit.roused, Reader.Phase.roused, Reader.advance]
    obtain ⟨w, after, mode, ended'⟩ := ih rest there still traced'
    exact ⟨w, after, mode.trans next.mode, ended'⟩

/-- A visit that was woken and goes on to its answer, unless a signal or its timeout came first. -/
def Released (ms : List (Move ω)) (w : Visit) : Prop :=
  w.stepsLeft?.isSome = true ∨
    (w.phase = .done (.error .interrupted) ∧ ∃ i, .signal i ∈ ms) ∨
    (w.phase = .done (.error .timedOut) ∧ ∃ i, .expire i ∈ ms)

theorem Released.cons (released : Released ms w) : Released (m :: ms) w := by
  rcases released with left | ⟨ended, i, hit⟩ | ⟨ended, i, late⟩
  · exact .inl left
  · exact .inr (.inl ⟨ended, i, List.mem_cons_of_mem _ hit⟩)
  · exact .inr (.inr ⟨ended, i, List.mem_cons_of_mem _ late⟩)

theorem errands_place {e : Errand} (h : c.step m = some d) (at_i : c.errands[i]? = some e) :
    (m ≠ .errand i ∧ d.errands[i]? = some e) ∨
      (m = .errand i ∧ d.errands[i]? = some (Errand.step (e, c.device)).1) := by
  obtain ⟨inside, -⟩ := List.getElem?_eq_some_iff.mp at_i
  obtain ⟨other, same⟩ | ⟨o, rfl, same⟩ | ⟨k, f, rfl, same⟩ | ⟨k, e', rfl, at_k, same⟩ :=
    errands_step h
  · exact .inl ⟨other i, by rw [same, at_i]⟩
  · refine .inl ⟨by simp, ?_⟩
    rw [same, List.getElem?_append_left inside, at_i]
  · refine .inl ⟨by simp, ?_⟩
    rw [same, List.getElem?_append_left inside, at_i]
  · by_cases own : k = i
    next =>
      subst own
      obtain rfl := Option.some.inj (at_k.symm.trans at_i)
      exact .inr ⟨rfl, by rw [same, List.getElem?_set_self inside]⟩
    next =>
      refine .inl ⟨by simpa using own, ?_⟩
      rw [same, List.getElem?_set_ne own, at_i]

theorem suspended_next {e : UInt32} (shut : c.device.Shut) (next : v.Next c m i w)
    (asleep : v.phase = .suspended e) :
    w.phase = .suspended e ∨ w.stepsLeft?.isSome = true ∨
      (w.phase = .done (.error .interrupted) ∧ m = .signal i) ∨
      (w.phase = .done (.error .timedOut) ∧ m = .expire i) := by
  cases next with
  | left other => exact .inl asleep
  | roused other => exact .inr (.inl (Visit.stepsLeft_of_woken asleep))
  | advanced own => exact .inl (by simp [asleep, Reader.advance])
  | interrupted hit _ => exact .inr (.inr (.inl ⟨rfl, hit⟩))
  | expired late _ => exact .inr (.inr (.inr ⟨by simp [shut.expire], late⟩))

-- call `i` closes the device and has yet to notify
def Closes (c : Crowd ω) (i : Nat) : Prop :=
  c.errands[i]? = some .alerting ∨ ∃ p, c.errands[i]? = some (.dropping p)

theorem closes_step {e : UInt32} (closes : c.Closes i) (h : c.step m = some d)
    (at_j : c.visits[j]? = some v) (asleep : v.phase = .suspended e) (stays : m.place j = some k) :
    d.Closes i ∨ ∃ w, d.visits[k]? = some w ∧ w.mode = v.mode ∧ w.stepsLeft?.isSome = true := by
  rcases closes with alerting | ⟨p, dropping⟩
  · rcases errands_place h alerting with ⟨-, still⟩ | ⟨rfl, -⟩
    · exact .inl (.inl still)
    · obtain rfl := Option.some.inj stays
      obtain ⟨e', at_i, -, rfl⟩ := stepErrand_eq_some h
      obtain rfl := Option.some.inj (at_i.symm.trans alerting)
      refine .inr ⟨v.roused, ?_, rfl, Visit.stepsLeft_of_woken asleep⟩
      rw [perform_of_notifies rfl]
      simp [rouse, at_j]
  · rcases errands_place h dropping with ⟨-, still⟩ | ⟨-, next⟩
    · exact .inl (.inr ⟨p, still⟩)
    · exact .inl (.inl next)

theorem closes_run (closes : c.Closes i) (ran : c.run ms = some d) :
    d.Closes i ∨ d.errands[i]? = some .finished := by
  refine run_invariant (P := fun d => d.Closes i ∨ d.errands[i]? = some .finished) ?_
    (.inl closes) ran
  rintro c d m ((alerting | ⟨p, dropping⟩) | finished) h
  · rcases errands_place h alerting with ⟨-, still⟩ | ⟨-, next⟩
    · exact .inl (.inl still)
    · exact .inr next
  · rcases errands_place h dropping with ⟨-, still⟩ | ⟨-, next⟩
    · exact .inl (.inr ⟨p, still⟩)
    · exact .inl (.inl next)
  · rcases errands_place h finished with ⟨-, still⟩ | ⟨-, next⟩
    · exact .inr still
    · exact .inr next

theorem released_run {e : UInt32} (shut : c.device.Shut) (closes : c.Closes i)
    (ran : c.run ms = some d) (finished : d.errands[i]? = some .finished)
    (at_j : c.visits[j]? = some v) (asleep : v.phase = .suspended e)
    (traced : trace ms j = some (k, n)) :
    ∃ w, d.visits[k]? = some w ∧ w.mode = v.mode ∧ Released ms w := by
  -- as long as the visit sleeps, the call has yet to notify; then it is on its way
  induction ms generalizing c j v n e with
  | nil =>
    obtain rfl := Option.some.inj ran
    rcases closes with at_i | ⟨p, at_i⟩ <;> simp [at_i] at finished
  | cons m ms ih =>
    obtain ⟨b, first, rest⟩ := Option.bind_eq_some_iff.mp ran
    obtain ⟨j', n', stays, traced', rfl⟩ := trace_cons traced
    have shut' := (shut_step shut first).1
    have woken {u : Visit} (there : b.visits[j']? = some u) (mode : u.mode = v.mode)
        (left : u.stepsLeft?.isSome = true) :
        ∃ w, d.visits[k]? = some w ∧ w.mode = v.mode ∧ Released (m :: ms) w := by
      obtain ⟨left, at_left⟩ := Option.isSome_iff_exists.mp left
      obtain ⟨w, after, mode', left'⟩ := stepsLeft_run shut' rest there at_left traced'
      exact ⟨w, after, mode'.trans mode, .inl (by simp [left'])⟩
    obtain closes' | ⟨u, there, mode, left⟩ := closes_step closes first at_j asleep stays
    · obtain ⟨u, there, next⟩ := visits_place first at_j stays
      obtain asleep' | left | ⟨ended, hit⟩ | ⟨ended, late⟩ := suspended_next shut next asleep
      · obtain ⟨w, after, mode, released⟩ := ih shut' closes' rest there asleep' traced'
        exact ⟨w, after, mode.trans next.mode, released.cons⟩
      · exact woken there next.mode left
      · obtain ⟨w, after, mode, ended'⟩ := done_run rest there ended traced'
        exact ⟨w, after, mode.trans next.mode, .inr (.inl ⟨ended', j, by simp [hit]⟩)⟩
      · obtain ⟨w, after, mode, ended'⟩ := done_run rest there ended traced'
        exact ⟨w, after, mode.trans next.mode, .inr (.inr ⟨ended', j, by simp [late]⟩)⟩
    · exact woken there mode left

def received (c : Crowd ω) : List Frame :=
  c.visits.flatMap (fun v => v.phase.frames) ++ c.held

theorem shut_of_shutting {i : Nat} (announced : .shutting ∈ c.errands → c.device.closing = true)
    (at_i : c.errands[i]? = some .shutting) (h : c.step (.errand i) = some d) :
    d.device.Shut ∧ d.device.mailbox = c.device.mailbox.close.2 ∧
      d.errands[i]? = some (.dropping c.device.mailbox.frame) ∧ d.received = c.received := by
  obtain ⟨inside, -⟩ := List.getElem?_eq_some_iff.mp at_i
  obtain ⟨e, at_i', -, rfl⟩ := stepErrand_eq_some h
  obtain rfl := Option.some.inj (at_i'.symm.trans at_i)
  rw [perform_of_quiet rfl]
  refine ⟨⟨announced (List.mem_of_getElem? at_i), rfl, rfl, rfl⟩, rfl, ?_, rfl⟩
  exact List.getElem?_set_self inside

theorem frames_next (shut : c.device.Shut) (next : v.Next c m i w) :
    w.phase.frames = v.phase.frames := by
  cases next with
  | left other => rfl
  | roused other => exact frames_roused v
  | advanced own =>
    rw [Visit.phase_moveTo]
    cases phase : v.phase with
    | observed e =>
      simp only [Reader.advance, shut.collect]
      split <;> simp_all [Reader.Phase.frames]
    | missed e | undeterred e | resigned e =>
      simp only [Reader.advance]
      split <;> rfl
    | _ => rfl
  | interrupted hit asleep => simp [asleep, Reader.Phase.frames]
  | expired late asleep => simp [asleep, shut.expire, Reader.Phase.frames]

theorem frames_onward (shut : c.device.Shut) (onward : c.Onward m d) :
    d.visits.flatMap (fun v => v.phase.frames) = c.visits.flatMap fun v => v.phase.frames := by
  obtain ⟨length, next⟩ := onward
  rw [List.flatMap_def, List.flatMap_def]
  congr 1
  refine List.ext_getElem (by simp [length]) fun j after before => ?_
  rw [List.length_map] at after before
  simp only [List.getElem_map]
  exact frames_next shut (next j _ _ (List.getElem?_eq_getElem before)
    (List.getElem?_eq_getElem after))

theorem frames_visits_step (shut : c.device.Shut) (h : c.step m = some d)
    (stays : ∀ i, m ≠ .leave i) :
    d.visits.flatMap (fun v => v.phase.frames) = c.visits.flatMap fun v => v.phase.frames := by
  obtain ⟨r, mode, buffer, -, visits⟩ | ⟨i, left, -⟩ | onward := visits_step h
  · rw [visits, List.flatMap_append, List.flatMap_singleton, frames_start_visit, List.append_nil]
  · exact absurd left (stays i)
  · exact frames_onward shut onward

theorem held_perform (i : Nat) (e : Errand) : (c.perform i e).held = c.held := by
  cases loud : e.notifies with
  | true => rw [perform_of_notifies loud]; rfl
  | false => rw [perform_of_quiet loud]

theorem received_leave (h : c.leave i = some d) : d.received.Subperm c.received := by
  obtain ⟨v, at_i, left⟩ := leave_eq_some h
  have frames : c.received.Perm
      (v.phase.frames ++ ((c.visits.eraseIdx i).flatMap (fun v => v.phase.frames) ++ c.held)) := by
    rw [← List.append_assoc]
    exact ((perm_eraseIdx at_i).flatMap_right fun v => v.phase.frames).append_right _
  obtain ⟨f, got, ⟨-, rfl⟩ | ⟨buffer, -, rfl⟩⟩ | ⟨r, -, -, rfl⟩ := left
  · refine (List.Perm.trans ?_ frames.symm).subperm
    rw [got]
    change ((c.visits.eraseIdx i).flatMap (fun v => v.phase.frames) ++ (c.held ++ [f])).Perm _
    rw [← List.append_assoc]
    exact List.perm_append_comm
  · exact (List.sublist_append_right _ _).subperm.trans frames.symm.subperm
  · exact (List.sublist_append_right _ _).subperm.trans frames.symm.subperm

theorem received_step (shut : c.device.Shut) (h : c.step m = some d) :
    d.received.Subperm c.received := by
  have same (stays : ∀ i, m ≠ .leave i) (held : d.held.Sublist c.held) :
      d.received.Subperm c.received := by
    rw [received, received, frames_visits_step shut h stays]
    exact (held.append_left _).subperm
  cases m with
  | leave i => exact received_leave h
  | errand i =>
    refine same (by simp) ?_
    obtain ⟨e, -, -, rfl⟩ := stepErrand_eq_some h
    rw [held_perform]
  | order o =>
    refine same (by simp) ?_
    obtain rfl | ⟨r, readers, -, rfl⟩ := undertake_eq_some h <;> exact List.Sublist.refl _
  | visit r mode buffer =>
    refine same (by simp) ?_
    obtain rfl := visit_eq_some h
    exact List.Sublist.refl _
  | advance i =>
    refine same (by simp) ?_
    obtain ⟨v, -, rfl⟩ := stepVisit_eq_some h
    exact List.Sublist.refl _
  | signal i =>
    refine same (by simp) ?_
    obtain ⟨v, _, -, -, rfl⟩ := signal_eq_some h
    exact List.Sublist.refl _
  | expire i =>
    refine same (by simp) ?_
    obtain ⟨v, _, -, -, rfl⟩ := expire_eq_some h
    exact List.Sublist.refl _
  | drop k =>
    refine same (by simp) ?_
    obtain ⟨f, -, -, rfl⟩ := drop_eq_some h
    exact List.eraseIdx_sublist _ _
  | detach k =>
    refine same (by simp) ?_
    obtain ⟨f, -, rfl⟩ := detach_eq_some h
    exact List.eraseIdx_sublist _ _
  | _ =>
    refine same (by simp) ?_
    obtain rfl := Option.some.inj h
    exact List.Sublist.refl _

theorem received_run (shut : c.device.Shut) (ran : c.run ms = some d) :
    d.received.Subperm c.received := by
  induction ms generalizing c with
  | nil => exact Option.some.inj ran ▸ List.Subperm.refl _
  | cons m ms ih =>
    obtain ⟨b, first, rest⟩ := Option.bind_eq_some_iff.mp ran
    exact (ih (shut_step shut first).1 rest).trans (received_step shut first)

theorem errand_made {e : Errand} (ran : c.run ms = some d) (at_i : c.errands[i]? = some e)
    (further : d.errands[i]? ≠ some e) :
    ∃ before after x y, ms = before ++ .errand i :: after ∧ c.run before = some x ∧
      x.errands[i]? = some e ∧ x.step (.errand i) = some y ∧ y.run after = some d := by
  induction ms generalizing c with
  | nil =>
    obtain rfl := Option.some.inj ran
    exact absurd at_i further
  | cons m ms ih =>
    obtain ⟨b, first, rest⟩ := Option.bind_eq_some_iff.mp ran
    rcases errands_place first at_i with ⟨-, still⟩ | ⟨rfl, -⟩
    · obtain ⟨before, after, x, y, rfl, ran', at_x, step, ran''⟩ := ih rest still
      refine ⟨m :: before, after, x, y, rfl, ?_, at_x, step, ran''⟩
      simp only [Crowd.run, first]
      exact ran'
    · exact ⟨[], ms, c, b, rfl, rfl, at_i, first, rest⟩

def Returned (c d : Crowd ω) (f : Frame) : Prop :=
  ∃ p q, c.device.pool = some p ∧ d.device.pool = some q ∧ q.toList = p.toList ++ [f.data] ∧
    q.len = p.len + 1

theorem returned_of_dropping {g : Geometry} {size fires : Nat} {f : Frame}
    (w : c.Conserved g size fires) (lent : c.Lent)
    (at_i : c.errands[i]? = some (.dropping (some f))) (h : c.step (.errand i) = some d) :
    c.Returned d f := by
  obtain ⟨taken, kept, s, -⟩ := w
  obtain ⟨e, at_i', free, rfl⟩ := stepErrand_eq_some h
  obtain rfl := Option.some.inj (at_i'.symm.trans at_i)
  have mine : f ∈ c.frames :=
    mem_frames.mpr (.inr (.inl ⟨_, List.mem_of_getElem? at_i, by simp [Errand.frames]⟩))
  have pooled : f.pooled = true := lent.pooled f mine
  -- the buffer is in the hands of the call, so that it is one of those that are out
  have s' : c.device.Stock g size taken kept
      (f.data :: { c with errands := c.errands.eraseIdx i }.out) := by
    have own : (Errand.dropping (some f)).inHand = [f.data] := by
      simp [Errand.inHand, Errand.frames, Frame.loan, pooled]
    have perm := (out_errand at_i).symm
    rw [own] at perm
    exact s.perm perm
  have free' : c.device.stalls f.data = false := by
    simpa [Errand.stalls, Errand.returns, Frame.loan, pooled] using free
  obtain ⟨p, here, -, len, contents, -⟩ := s'.pool_shows
  obtain ⟨q, here', -, len', contents', -⟩ := (s'.returnBuffer free').pool_shows
  refine ⟨p, q, here, ?_, by rw [contents', contents], by rw [len', len, List.length_append]; rfl⟩
  rw [device_perform]
  simpa [Errand.step, dropAny, Device.drop, pooled] using here'

end Crowd

end Framecast.Device
