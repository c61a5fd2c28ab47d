import Framecast.Pool.Queue
import Framecast.Proofs.Pool.Ring

set_option autoImplicit false

namespace Framecast.Pool

-- the pool stores what the queue does, from position `t` on
structure Refines (p : Pool) (t : Nat) (q : Queue) : Prop where
  ring : p.Ring t q.buffers
  capacity : p.cells.size = q.capacity
  bufLen : p.bufLen = q.bufLen

def Queue.stores (q : Queue) (cs : List Call) : Nat := (q.serve cs).1.count .stored

namespace Refines

variable {p : Pool} {t : Nat} {q : Queue}

theorem perform_push (r : p.Refines t q) (b : Bytes)
    (steady : Steady q.capacity (t + q.buffers.length)) :
    (p.perform (.push b)).1 = (q.perform (.push b)).1 ∧
      (p.perform (.push b)).2.Refines t (q.perform (.push b)).2 := by
  obtain ⟨ring, capacity, bufLen⟩ := r
  rw [← capacity] at steady
  by_cases length : b.length = q.bufLen
  next =>
    by_cases room : q.buffers.length < q.capacity
    next =>
      obtain ⟨push, next⟩ := ring.push_of_room (capacity ▸ room) steady (length.trans bufLen.symm)
      simp only [perform, push, Queue.perform, length, room, and_self, if_true, true_and]
      exact ⟨next, by simpa [Ring.stored] using capacity, bufLen⟩
    next =>
      have full : q.buffers.length = p.cells.size := by
        have fits := ring.fits
        omega
      simp only [perform, ring.push_of_full full steady, Queue.perform, room, and_false, if_false,
        true_and]
      exact ⟨ring, capacity, bufLen⟩
  next =>
    have wrong : b.length ≠ p.bufLen := fun same => length (same.trans bufLen)
    simp only [perform, Ring.push_of_length_ne wrong, Queue.perform, length, false_and, if_false,
      true_and]
    exact ⟨ring, capacity, bufLen⟩

theorem perform_pop (r : p.Refines t q) (steady : Steady q.capacity t) :
    ∃ t', (p.perform .pop).1 = (q.perform .pop).1 ∧
      (p.perform .pop).2.Refines t' (q.perform .pop).2 ∧
      t' + (q.perform .pop).2.buffers.length = t + q.buffers.length := by
  obtain ⟨ring, capacity, bufLen⟩ := r
  obtain ⟨cells, L, buffers⟩ := q
  rw [← capacity] at steady
  cases buffers with
  | nil =>
    refine ⟨t, ?_⟩
    simp only [perform, ring.pop_of_nil steady, Queue.perform, true_and]
    exact ⟨⟨ring, capacity, bufLen⟩, trivial⟩
  | cons b rest =>
    obtain ⟨pop, next⟩ := ring.pop_of_cons steady
    refine ⟨t + 1, ?_⟩
    simp only [perform, pop, Queue.perform, true_and]
    refine ⟨⟨next, by simpa [Ring.emptied] using capacity, bufLen⟩, ?_⟩
    rw [List.length_cons]
    omega

theorem perform (c : Call) (r : p.Refines t q)
    (words : q.capacity ∣ 2 ^ 64 ∨ t + q.buffers.length < 2 ^ 64) :
    (p.perform c).1 = (q.perform c).1 ∧
      ∃ t', (p.perform c).2.Refines t' (q.perform c).2 ∧
        t' + (q.perform c).2.buffers.length =
          t + q.buffers.length + if (q.perform c).1 = .stored then 1 else 0 := by
  cases c with
  | push b =>
    have steady : Steady q.capacity (t + q.buffers.length) := words.elim steady_of_dvd steady_of_lt
    obtain ⟨reply, next⟩ := r.perform_push b steady
    refine ⟨reply, t, next, ?_⟩
    by_cases fits : b.length = q.bufLen ∧ q.buffers.length < q.capacity <;>
      simp [Queue.perform, fits, Nat.add_assoc]
  | pop =>
    have steady : Steady q.capacity t :=
      words.elim steady_of_dvd fun few => steady_of_lt (by omega)
    obtain ⟨t', reply, next, count⟩ := r.perform_pop steady
    refine ⟨reply, t', next, ?_⟩
    have given : (q.perform .pop).1 ≠ .stored := by
      cases stored : q.buffers <;> simp [Queue.perform, stored]
    rw [if_neg given, count, Nat.add_zero]

end Refines

theorem Queue.capacity_perform (q : Queue) (c : Call) : (q.perform c).2.capacity = q.capacity := by
  cases c <;> simp only [perform] <;> split <;> rfl

theorem Queue.bufLen_perform (q : Queue) (c : Call) : (q.perform c).2.bufLen = q.bufLen := by
  cases c <;> simp only [perform] <;> split <;> rfl

theorem Queue.capacity_serve (q : Queue) (cs : List Call) :
    (q.serve cs).2.capacity = q.capacity := by
  induction cs generalizing q with
  | nil => rfl
  | cons c cs ih => exact (ih _).trans (q.capacity_perform c)

theorem Queue.bufLen_serve (q : Queue) (cs : List Call) : (q.serve cs).2.bufLen = q.bufLen := by
  induction cs generalizing q with
  | nil => rfl
  | cons c cs ih => exact (ih _).trans (q.bufLen_perform c)

theorem Queue.stores_cons (q : Queue) (c : Call) (cs : List Call) :
    q.stores (c :: cs) =
      (if (q.perform c).1 = .stored then 1 else 0) + (q.perform c).2.stores cs := by
  simp only [stores, serve, List.count_cons, beq_iff_eq]
  exact Nat.add_comm _ _

theorem Refines.serve {p : Pool} {t : Nat} {q : Queue} (r : p.Refines t q) (cs : List Call)
    (words : q.capacity ∣ 2 ^ 64 ∨ t + q.buffers.length + q.stores cs < 2 ^ 64) :
    (p.serve cs).1 = (q.serve cs).1 ∧
      ∃ t', (p.serve cs).2.Refines t' (q.serve cs).2 ∧
        t' + (q.serve cs).2.buffers.length = t + q.buffers.length + q.stores cs := by
  induction cs generalizing p t q with
  | nil => exact ⟨rfl, t, r, rfl⟩
  | cons c cs ih =>
    rw [Queue.stores_cons, ← Nat.add_assoc] at words ⊢
    obtain ⟨reply, t', next, count⟩ := r.perform c (words.imp_right fun few => by omega)
    have capacity := Queue.capacity_perform q c
    rw [← count] at words ⊢
    obtain ⟨replies, rest⟩ := ih next (capacity ▸ words)
    refine ⟨?_, rest⟩
    simp only [Pool.serve, Queue.serve, reply, replies]

theorem Queue.reply_perform (q : Queue) (c : Call) :
    (q.perform c).1 ≠ .again ∧ (q.perform c).1 ≠ .unfilled := by
  cases c <;> simp only [perform] <;> split <;> simp

theorem Queue.reply_mem {q : Queue} {cs : List Call} {r : Reply} (member : r ∈ (q.serve cs).1) :
    r ≠ .again ∧ r ≠ .unfilled := by
  induction cs generalizing q with
  | nil => simp [serve] at member
  | cons c cs ih =>
    rcases List.mem_cons.mp member with first | later
    · rw [first]
      exact q.reply_perform c
    · exact ih later

/--
Whatever is pushed and popped, a pool that starts with `n` zeroed buffers replies as the queue does
and stores the same buffers. No call has to look twice, and none reads a cell that holds no buffer.
Positions are words: unless laps go evenly into them, fewer than 2^64 buffers may ever be stored,
those at the start among them.
-/
theorem serve_eq_queue {limit capacity bufLen n : Nat} {p : Pool} (two_le : 2 ≤ capacity)
    (made : withBuffers limit capacity bufLen n = .ok p) (calls : List Call)
    (words : capacity ∣ 2 ^ 64 ∨ n + (Queue.zeroed capacity bufLen n).stores calls < 2 ^ 64) :
    (p.serve calls).1 = ((Queue.zeroed capacity bufLen n).serve calls).1 ∧
      (p.serve calls).2.toList = ((Queue.zeroed capacity bufLen n).serve calls).2.buffers ∧
      (p.serve calls).2.len = (p.serve calls).2.toList.length ∧
      (p.serve calls).2.capacity = capacity ∧
      (∀ b ∈ (p.serve calls).2.toList, b.length = bufLen) ∧
      ∀ r ∈ (p.serve calls).1, r ≠ .again ∧ r ≠ .unfilled := by
  obtain ⟨ring, size, length, -⟩ := ring_withBuffers two_le made
  have start : p.Refines 0 (Queue.zeroed capacity bufLen n) := ⟨ring, size, length⟩
  have stored : (Queue.zeroed capacity bufLen n).buffers.length = n := List.length_replicate
  have words' : capacity ∣ 2 ^ 64 ∨ 0 + (Queue.zeroed capacity bufLen n).buffers.length +
      (Queue.zeroed capacity bufLen n).stores calls < 2 ^ 64 := by
    rwa [stored, Nat.zero_add]
  obtain ⟨replies, t, next, count⟩ := start.serve calls words'
  have capacity' := Queue.capacity_serve (Queue.zeroed capacity bufLen n) calls
  have bufLen' := Queue.bufLen_serve (Queue.zeroed capacity bufLen n) calls
  have contents : (p.serve calls).2.toList =
      ((Queue.zeroed capacity bufLen n).serve calls).2.buffers := by
    apply next.ring.toList_eq
    intro i inside
    rw [next.capacity, capacity']
    exact words'.elim steady_of_dvd fun few => steady_of_lt (by omega)
  refine ⟨replies, contents, ?_, next.capacity.trans capacity', ?_, ?_⟩
  · rw [contents]
    exact next.ring.len_eq
  · rw [contents]
    intro b member
    exact (next.ring.lengths b member).trans (next.bufLen.trans bufLen')
  · rw [replies]
    exact fun r => Queue.reply_mem

-- a ring of three cells with two buffers that is gone round more than once
def secondLap : List Call :=
  [.pop, .push [7], .push [8], .push [9], .pop, .push [5, 5], .pop, .pop, .pop, .push [6]]

theorem serve_eq_queue_secondLap :
    ∃ p, withBuffers 1024 3 1 2 = .ok p ∧
      2 + (Queue.zeroed 3 1 2).stores secondLap < 2 ^ 64 ∧
      (p.serve secondLap).1 =
        [.given [0], .stored, .stored, .refused [9], .given [0], .refused [5, 5], .given [7],
          .given [8], .empty, .stored] ∧
      (p.serve secondLap).2.toList = [[6]] := by
  have few : 2 + (Queue.zeroed 3 1 2).stores secondLap < 2 ^ 64 := by decide
  have served (p : Pool) (made : withBuffers 1024 3 1 2 = .ok p) :
      (p.serve secondLap).1 = ((Queue.zeroed 3 1 2).serve secondLap).1 ∧
        (p.serve secondLap).2.toList = ((Queue.zeroed 3 1 2).serve secondLap).2.buffers := by
    obtain ⟨replies, contents, -⟩ := serve_eq_queue (by decide) made secondLap (.inr few)
    exact ⟨replies, contents⟩
  exact ⟨_, rfl, few, served _ rfl⟩

end Framecast.Pool
