import Framecast.Channel.Registry
import Mathlib.Algebra.GroupWithZero.Nat

set_option autoImplicit false

namespace Framecast

namespace WakerTable

variable {ω : Type} {t u : WakerTable ω} {r : Registration ω} {id : UInt64}

@[simp] theorem attached_nil : attached ([] : WakerTable ω) = [] := rfl

@[simp] theorem attached_none (cells : WakerTable ω) :
    attached (none :: cells) = attached cells := rfl

@[simp] theorem attached_some (r : Registration ω) (cells : WakerTable ω) :
    attached (some r :: cells) = r :: attached cells := rfl

theorem length_attached_le (t : WakerTable ω) : t.attached.length ≤ t.length :=
  List.length_filterMap_le _ _

theorem attach?_eq_none : t.attach? r = none ↔ t.attached.length = t.length := by
  induction t with
  | nil => simp [attach?]
  | cons cell cells ih =>
    cases cell with
    | none =>
      have few := length_attached_le cells
      simp only [attach?, attached_none, List.length_cons, reduceCtorEq, false_iff]
      omega
    | some s => simp [attach?, ih]

theorem attach?_eq_some (attached : t.attach? r = some u) :
    u.attached.Perm (r :: t.attached) ∧ u.length = t.length := by
  induction t generalizing u with
  | nil => simp [attach?] at attached
  | cons cell cells ih =>
    cases cell with
    | none =>
      rw [attach?, Option.some.injEq] at attached
      subst attached
      exact ⟨.refl _, rfl⟩
    | some s =>
      obtain ⟨cells', rest, rfl⟩ := Option.map_eq_some_iff.mp attached
      obtain ⟨members, size⟩ := ih rest
      exact ⟨(members.cons s).trans (.swap r s _), congrArg (· + 1) size⟩

theorem detach?_eq_none : t.detach? id = none ↔ id ∉ t.attached.map (·.id) := by
  induction t with
  | nil => simp [detach?]
  | cons cell cells ih =>
    cases cell with
    | none => simpa [detach?] using ih
    | some s =>
      by_cases same : s.id = id
      next => simp [detach?, same]
      next =>
        rw [detach?, if_neg same, Option.map_eq_none_iff, ih]
        simp [Ne.symm same]

theorem filter_of_not_mem {rs : List (Registration ω)} (missing : id ∉ rs.map (·.id)) :
    rs.filter (·.id ≠ id) = rs := by
  refine List.filter_eq_self.mpr fun r member => decide_eq_true fun same => missing ?_
  exact same ▸ List.mem_map_of_mem member

theorem detach?_eq_some (distinct : (t.attached.map (·.id)).Nodup)
    (detached : t.detach? id = some u) :
    u.attached = t.attached.filter (·.id ≠ id) ∧ u.length = t.length := by
  induction t generalizing u with
  | nil => simp [detach?] at detached
  | cons cell cells ih =>
    cases cell with
    | none =>
      obtain ⟨cells', rest, rfl⟩ := Option.map_eq_some_iff.mp detached
      obtain ⟨members, size⟩ := ih distinct rest
      exact ⟨members, congrArg (· + 1) size⟩
    | some s =>
      rw [attached_some, List.map_cons, List.nodup_cons] at distinct
      obtain ⟨new, distinct⟩ := distinct
      by_cases same : s.id = id
      next =>
        rw [detach?, if_pos same, Option.some.injEq] at detached
        subst detached
        refine ⟨?_, rfl⟩
        rw [attached_some, List.filter_cons_of_neg (by simpa using same),
          filter_of_not_mem (same ▸ new), attached_none]
      next =>
        rw [detach?, if_neg same] at detached
        obtain ⟨cells', rest, rfl⟩ := Option.map_eq_some_iff.mp detached
        obtain ⟨members, size⟩ := ih distinct rest
        refine ⟨?_, congrArg (· + 1) size⟩
        rw [attached_some, attached_some, List.filter_cons_of_pos (by simpa using same), members]

end WakerTable

namespace Registry

variable {ω : Type} {s : Registry ω} {w : ω} {id : UInt64}

structure Sound (s : Registry ω) : Prop where
  attached : s.channel.wakers.attached.Perm s.members
  size : s.channel.wakers.length = WakerTable.capacity
  next : s.channel.nextId = UInt64.ofNat s.attempts
  distinct : (s.members.map (·.id)).Nodup
  below : ∀ r ∈ s.members, r.id.toNat < s.attempts

theorem attempts_perform (s : Registry ω) (call : Call ω) (calls : List (Call ω)) :
    (s.perform call).attempts + calls.countP Call.registers =
      s.attempts + (call :: calls).countP Call.registers := by
  cases call with
  | register w =>
    rw [List.countP_cons_of_pos rfl, Nat.add_comm _ 1, ← Nat.add_assoc]
    rfl
  | deregister id => rw [List.countP_cons_of_neg Bool.false_ne_true, perform]
  | notifyAll => rw [List.countP_cons_of_neg Bool.false_ne_true, perform]

theorem attempts_run (s : Registry ω) (calls : List (Call ω)) :
    (s.run calls).attempts = s.attempts + calls.countP Call.registers := by
  induction calls generalizing s with
  | nil => rfl
  | cons call calls ih => exact (ih _).trans (s.attempts_perform call calls)

theorem sound_empty : ({} : Registry ω).Sound where
  attached := .refl _
  size := rfl
  next := rfl
  distinct := List.nodup_nil
  below := by simp

namespace Sound

theorem wakerCount (sound : s.Sound) : s.channel.wakerCount = s.members.length :=
  sound.attached.length_eq

theorem length_le (sound : s.Sound) : s.members.length ≤ WakerTable.capacity := by
  rw [← sound.attached.length_eq, ← sound.size]
  exact WakerTable.length_attached_le _

theorem register_of_lt (sound : s.Sound) (w : ω) (room : s.members.length < WakerTable.capacity) :
    ∃ t, s.channel.register w =
        (.ok (UInt64.ofNat s.attempts),
          { s.channel with nextId := s.channel.nextId + 1, wakers := t }) ∧
      t.attached.Perm (⟨UInt64.ofNat s.attempts, w⟩ :: s.members) ∧
      t.length = WakerTable.capacity := by
  have free : s.channel.wakers.attach? ⟨s.channel.nextId, w⟩ ≠ none := by
    rw [Ne, WakerTable.attach?_eq_none, sound.attached.length_eq, sound.size]
    omega
  obtain ⟨t, attach⟩ := Option.ne_none_iff_exists'.mp free
  obtain ⟨members, size⟩ := WakerTable.attach?_eq_some attach
  rw [← sound.next]
  refine ⟨t, ?_, members.trans (sound.attached.cons _), size.trans sound.size⟩
  simp only [Channel.register, attach]

theorem register_of_full (sound : s.Sound) (w : ω)
    (full : s.members.length = WakerTable.capacity) :
    s.channel.register w = (.error ⟨⟩, { s.channel with nextId := s.channel.nextId + 1 }) := by
  have none_free : s.channel.wakers.attach? ⟨s.channel.nextId, w⟩ = none := by
    rw [WakerTable.attach?_eq_none, sound.attached.length_eq, sound.size, full]
  simp only [Channel.register, none_free]

theorem deregister_of_mem (sound : s.Sound) (member : id ∈ s.members.map (·.id)) :
    ∃ t, s.channel.deregister id = (true, { s.channel with wakers := t }) ∧
      t.attached.Perm (s.members.filter (·.id ≠ id)) ∧ t.length = WakerTable.capacity := by
  have ids := sound.attached.map (·.id)
  have there : s.channel.wakers.detach? id ≠ none := by
    rw [Ne, WakerTable.detach?_eq_none, Classical.not_not]
    exact ids.mem_iff.mpr member
  obtain ⟨t, detach⟩ := Option.ne_none_iff_exists'.mp there
  obtain ⟨members, size⟩ :=
    WakerTable.detach?_eq_some (ids.nodup_iff.mpr sound.distinct) detach
  refine ⟨t, by simp only [Channel.deregister, detach], ?_, size.trans sound.size⟩
  exact members ▸ sound.attached.filter _

theorem deregister_of_not_mem (sound : s.Sound) (missing : id ∉ s.members.map (·.id)) :
    s.channel.deregister id = (false, s.channel) ∧ s.members.filter (·.id ≠ id) = s.members := by
  have nowhere : s.channel.wakers.detach? id = none := by
    rw [WakerTable.detach?_eq_none, (sound.attached.map (·.id)).mem_iff]
    exact missing
  exact ⟨by simp only [Channel.deregister, nowhere], WakerTable.filter_of_not_mem missing⟩

theorem attempts_not_mem (sound : s.Sound) (few : s.attempts < 2 ^ 64) :
    UInt64.ofNat s.attempts ∉ s.members.map (·.id) := by
  intro member
  obtain ⟨r, inside, same⟩ := List.mem_map.mp member
  have below := sound.below r inside
  rw [same, UInt64.toNat_ofNat_of_lt' few] at below
  exact Nat.lt_irrefl _ below

theorem next_succ (sound : s.Sound) : s.channel.nextId + 1 = UInt64.ofNat (s.attempts + 1) := by
  rw [sound.next, UInt64.ofNat_add]
  rfl

theorem perform (sound : s.Sound) (few : s.attempts < 2 ^ 64) (call : Call ω) :
    (s.perform call).Sound := by
  cases call with
  | register w =>
    by_cases room : s.members.length < WakerTable.capacity
    next =>
      obtain ⟨t, answer, attached, size⟩ := sound.register_of_lt w room
      simp only [Registry.perform, answer]
      constructor
      case attached => exact attached
      case size => exact size
      case next => exact sound.next_succ
      case distinct => exact List.nodup_cons.mpr ⟨sound.attempts_not_mem few, sound.distinct⟩
      case below =>
        intro r member
        rcases List.mem_cons.mp member with rfl | old
        · exact Nat.lt_succ_of_le (Nat.le_of_eq (UInt64.toNat_ofNat_of_lt' few))
        · exact Nat.lt_succ_of_lt (sound.below r old)
    next =>
      have full := sound.register_of_full w (Nat.le_antisymm sound.length_le (Nat.not_lt.mp room))
      simp only [Registry.perform, full]
      exact ⟨sound.attached, sound.size, sound.next_succ, sound.distinct, fun r member =>
        Nat.lt_succ_of_lt (sound.below r member)⟩
  | deregister id =>
    have distinct : ((s.members.filter (·.id ≠ id)).map (·.id)).Nodup :=
      sound.distinct.sublist (List.filter_sublist.map _)
    have below : ∀ r ∈ s.members.filter (·.id ≠ id), r.id.toNat < s.attempts := fun r member =>
      sound.below r (List.mem_filter.mp member).1
    by_cases member : id ∈ s.members.map (·.id)
    next =>
      obtain ⟨t, answer, attached, size⟩ := sound.deregister_of_mem member
      simp only [Registry.perform, answer]
      exact ⟨attached, size, sound.next, distinct, below⟩
    next =>
      obtain ⟨answer, same⟩ := sound.deregister_of_not_mem member
      simp only [Registry.perform, answer, same]
      exact ⟨sound.attached, sound.size, sound.next, sound.distinct, sound.below⟩
  | notifyAll => exact ⟨sound.attached, sound.size, sound.next, sound.distinct, sound.below⟩

theorem run (sound : s.Sound) {calls : List (Call ω)}
    (few : s.attempts + calls.countP Call.registers < 2 ^ 64) : (s.run calls).Sound := by
  induction calls generalizing s with
  | nil => exact sound
  | cons call calls ih =>
    have now : s.attempts < 2 ^ 64 := Nat.lt_of_le_of_lt (Nat.le_add_right _ _) few
    exact ih (sound.perform now call) (s.attempts_perform call calls ▸ few)

theorem notifyAll (sound : s.Sound) :
    ∃ rung, s.channel.notifyAll.rung = s.channel.rung ++ rung ∧
      rung.Perm (s.members.map (·.waker)) :=
  ⟨_, rfl, sound.attached.map _⟩

end Sound

/--
Whatever was registered, deregistered and rung before: a table that has room attaches the waker and
answers with the number of the attempt, and a full one refuses it and uses the number up. An
identifier is deregistered if and only if it is a member's, and then it is the only one to go. Each
member is rung once by each notification and nobody else is.
-/
theorem bounded_map_of_run {calls : List (Call ω)} {s : Registry ω}
    (few : calls.countP Call.registers < 2 ^ 64) (ran : ({} : Registry ω).run calls = s) :
    s.channel.wakers.attached.Perm s.members ∧
    s.channel.wakerCount = s.members.length ∧
    (s.members.map (·.id)).Nodup ∧
    (∀ r ∈ s.members, r.id.toNat < calls.countP Call.registers) ∧
    (∀ w, ∃ k : UInt64, k.toNat = calls.countP Call.registers ∧
      (s.members.length < 16 →
        (s.channel.register w).1 = .ok k ∧
        (s.channel.register w).2.wakers.attached.Perm (⟨k, w⟩ :: s.members)) ∧
      (¬ s.members.length < 16 →
        (s.channel.register w).1 = .error ⟨⟩ ∧
        (s.channel.register w).2.wakers = s.channel.wakers)) ∧
    (∀ id, ((s.channel.deregister id).1 = true ↔ id ∈ s.members.map (·.id)) ∧
      (s.channel.deregister id).2.wakers.attached.Perm (s.members.filter (·.id ≠ id))) ∧
    ∃ rung, s.channel.notifyAll.rung = s.channel.rung ++ rung ∧
      rung.Perm (s.members.map (·.waker)) ∧ s.channel.notifyAll.wakers = s.channel.wakers := by
  have attempts : s.attempts = calls.countP Call.registers := by
    rw [← ran, attempts_run, Nat.zero_add]
  have sound : s.Sound := ran ▸ sound_empty.run ((Nat.zero_add _).symm ▸ few)
  refine ⟨sound.attached, sound.wakerCount, sound.distinct, attempts ▸ sound.below, fun w => ?_,
    fun id => ?_, ?_⟩
  · refine ⟨UInt64.ofNat s.attempts, ?_, fun room => ?_, fun full => ?_⟩
    · rw [attempts, UInt64.toNat_ofNat_of_lt' few]
    · obtain ⟨t, answer, attached, -⟩ := sound.register_of_lt w room
      rw [answer]
      exact ⟨rfl, attached⟩
    · rw [sound.register_of_full w (Nat.le_antisymm sound.length_le (Nat.not_lt.mp full))]
      exact ⟨rfl, rfl⟩
  · by_cases member : id ∈ s.members.map (·.id)
    next =>
      obtain ⟨t, answer, attached, -⟩ := sound.deregister_of_mem member
      rw [answer]
      exact ⟨iff_of_true rfl member, attached⟩
    next =>
      obtain ⟨answer, same⟩ := sound.deregister_of_not_mem member
      rw [answer, same]
      exact ⟨iff_of_false Bool.false_ne_true member, sound.attached⟩
  · obtain ⟨rung, rings, members⟩ := sound.notifyAll
    exact ⟨rung, rings, members, rfl⟩

-- sixteen registrations of one waker, a refused one, and one of the sixteen taken off
def refilled : List (Call Nat) := List.replicate 17 (.register 0) ++ [.deregister 5]

theorem bounded_map_of_run_refilled :
    ∃ s : Registry Nat, ({} : Registry Nat).run refilled = s ∧
      refilled.countP Call.registers < 2 ^ 64 ∧ s.channel.wakerCount = 15 ∧
      (s.channel.register 3).1 = .ok 17 ∧ (s.channel.deregister 5).1 = false ∧
      (s.channel.deregister 6).1 = true := by
  have few : refilled.countP Call.registers < 2 ^ 64 := by decide
  obtain ⟨-, count, -, -, register, deregister, -⟩ := bounded_map_of_run few rfl
  refine ⟨_, rfl, few, count.trans (by decide), ?_, ?_, (deregister 6).1.mpr (by decide)⟩
  · obtain ⟨k, number, room, -⟩ := register 3
    have seventeen : k = 17 := UInt64.toNat_inj.mp (number.trans (by decide))
    exact seventeen ▸ (room (by decide)).1
  · exact Bool.eq_false_iff.mpr fun detached => absurd ((deregister 5).1.mp detached) (by decide)

end Registry

end Framecast
