import Framecast.Proofs.TicketLock.Turns

set_option autoImplicit false

namespace Framecast.TicketLock

variable {α : Type} {ms : List (Move α)} {m : Move α} {c d : Crowd α} {first : UInt32} {v : α}
variable {g : Log α} {i j k : Nat}

theorem flatten_modify_concat {β : Type} {xss : List (List β)} {x : β} (within : k < xss.length)
    (later : ∀ j xs, k < j → xss[j]? = some xs → xs = []) :
    (xss.modify k (· ++ [x])).flatten = xss.flatten ++ [x] := by
  induction xss generalizing k with
  | nil => simp at within
  | cons xs xss ih =>
    cases k with
    | zero =>
      have rest : xss.flatten = [] := by
        apply List.flatten_eq_nil_iff.mpr
        intro ys member
        obtain ⟨j, at_j⟩ := List.mem_iff_getElem?.mp member
        exact later (j + 1) ys (Nat.succ_pos j) at_j
      simp [rest]
    | succ k =>
      have tail := ih (Nat.lt_of_succ_lt_succ within) fun j xs after at_j =>
        later (j + 1) xs (Nat.succ_lt_succ after) at_j
      simp [tail]

/-- The value is what the stores make of it, and no section is begun before its caller enters. -/
structure Serial (v : α) (g : Log α) (c : Crowd α) : Prop where
  length : g.sections.length = g.drawn.length
  flatten : g.sections.flatten = g.stores
  unused : ∀ k fs, g.entered.length ≤ k → g.sections[k]? = some fs → fs = []
  value : c.lock.value = perform g.stores v
  seen : ∀ i t w, c.stage i = .inside t (some w) → w = c.lock.value

theorem serial_free (first : UInt32) (v : α) : Serial v {} (Crowd.free first v) where
  length := rfl
  flatten := rfl
  unused k fs _ at_k := by simp at at_k
  value := rfl
  seen i t w inside := by simp [Crowd.free] at inside

namespace Serial

theorem seen_put (serial : Serial v g c) {s : Stage α}
    (fresh : ∀ t w, s = .inside t (some w) → w = c.lock.value) :
    ∀ j t w, (c.put i s).stage j = .inside t (some w) → w = c.lock.value := by
  intro j t w inside
  by_cases own : j = i
  next =>
    rw [own, Crowd.stage_put_self] at inside
    exact fresh t w inside
  next =>
    rw [Crowd.stage_put_of_ne _ own] at inside
    exact serial.seen j t w inside

theorem draw (serial : Serial v g c) :
    Serial v (g.note (.draw i)) ({ c with lock := c.lock.draw.2 }.put i (.waiting c.lock.next)) where
  length := by simp [Log.note, serial.length]
  flatten := by simp [Log.note, serial.flatten]
  unused k fs late at_k := by
    rcases getElem?_concat_cases at_k with before | ⟨-, rfl⟩
    · exact serial.unused k fs late before
    · rfl
  value := serial.value
  seen := serial.seen_put (by simp)

theorem enter (serial : Serial v g c) (t : UInt32) :
    Serial v (g.note (.enter i)) (c.put i (.inside t none)) where
  length := serial.length
  flatten := serial.flatten
  unused k fs late at_k := by
    apply serial.unused k fs _ at_k
    simp only [Log.note, List.length_append] at late
    omega
  value := serial.value
  seen := serial.seen_put (by simp)

theorem load (serial : Serial v g c) (t : UInt32) :
    Serial v g (c.put i (.inside t (some c.lock.value))) :=
  { serial with seen := serial.seen_put (by simp) }

theorem store (serial : Serial v g c) (orderly : Orderly first g c) {t : UInt32} {w : α}
    (inside : c.stage i = .inside t (some w)) (f : α → α) :
    Serial v (g.note (.store i f))
      ({ c with lock := c.lock.update fun _ => f w }.put i (.inside t none)) := by
  have own : (c.stage i).isInside = true := by simp [inside, Stage.isInside]
  obtain ⟨served, full⟩ := orderly.turn_of_inside own
  have within : g.turn i < g.sections.length := by
    have front := orderly.entered_drawn.length_le
    rw [serial.length]
    omega
  constructor
  case length => simpa [Log.note] using serial.length
  case flatten =>
    simp only [Log.note]
    rw [flatten_modify_concat within fun j fs after => serial.unused j fs (by omega),
      serial.flatten]
  case unused =>
    intro k fs late at_k
    simp only [Log.note] at late at_k
    have other : g.turn i ≠ k := by omega
    rw [List.getElem?_modify_ne _ _ other] at at_k
    exact serial.unused k fs late at_k
  case value =>
    have current := serial.seen i t w inside
    simp [TicketLock.update, Log.note, current, serial.value, perform]
  case seen =>
    intro j t' w' inside'
    by_cases same : j = i
    next => simp [same] at inside'
    next =>
      rw [Crowd.stage_put_of_ne _ same] at inside'
      have intruder : (c.stage j).isInside = true := by
        simp only at inside'
        simp [inside', Stage.isInside]
      exact absurd (orderly.alone intruder own) same

theorem release (serial : Serial v g c) :
    Serial v (g.note (.release i)) ({ c with lock := c.lock.release }.put i .away) where
  length := serial.length
  flatten := serial.flatten
  unused := serial.unused
  value := serial.value
  seen := serial.seen_put (by simp)

end Serial

theorem step_note (orderly : Orderly first g c) (serial : Serial v g c)
    (few : g.outstanding < UInt32.size) (h : c.step m = some d) :
    Orderly first (g.note m) d ∧ Serial v (g.note m) d := by
  cases m with
  | draw i =>
    obtain ⟨away, rfl⟩ := Crowd.step_draw h
    exact ⟨orderly.draw away, serial.draw⟩
  | enter i =>
    obtain ⟨waiting, rfl⟩ := Crowd.step_enter h
    exact ⟨orderly.enter few waiting, serial.enter _⟩
  | load i =>
    obtain ⟨t, seen, inside, rfl⟩ := Crowd.step_load h
    exact ⟨orderly.work inside c.lock.value _, serial.load t⟩
  | store i f =>
    obtain ⟨t, w, inside, rfl⟩ := Crowd.step_store h
    have worked := orderly.work inside (f w) none
    exact ⟨{ worked with place := fun j present => { worked.place j present with } },
      serial.store orderly inside f⟩
  | release i =>
    obtain ⟨t, seen, inside, rfl⟩ := Crowd.step_release h
    exact ⟨orderly.release (by simp [inside, Stage.isInside]), serial.release⟩

theorem log_concat (ms : List (Move α)) (m : Move α) : log (ms ++ [m]) = (log ms).note m := by
  simp [log]

theorem orderly_serial_of_run (few : ∀ p, p <+: ms → (log p).outstanding < UInt32.size)
    (ran : (Crowd.free first v).run ms = some c) :
    Orderly first (log ms) c ∧ Serial v (log ms) c := by
  induction ms using List.reverseRecOn generalizing c with
  | nil =>
    obtain rfl := Option.some.inj ran
    exact ⟨orderly_free first v, serial_free first v⟩
  | append_singleton ms m ih =>
    rw [Crowd.run_concat] at ran
    obtain ⟨b, before, last⟩ := Option.bind_eq_some_iff.mp ran
    have front : ms <+: ms ++ [m] := List.prefix_append ms [m]
    obtain ⟨orderly, serial⟩ := ih (fun p earlier => few p (earlier.trans front)) before
    rw [log_concat]
    exact step_note orderly serial (few ms front) last

namespace Orderly

theorem exists_place (orderly : Orderly first g c) (some_out : 0 < g.outstanding) :
    ∃ i, c.stage i ≠ .away ∧ g.turn i = g.left.length := by
  have within : g.left.length < g.drawn.length := Nat.lt_of_sub_pos some_out
  exact ⟨_, orderly.held _ _ (Nat.le_refl _) (List.getElem?_eq_getElem within)⟩

theorem outstanding_pos_iff (orderly : Orderly first g c) :
    0 < g.outstanding ↔ ∃ i, c.stage i ≠ .away := by
  constructor
  · intro some_out
    obtain ⟨i, present, -⟩ := orderly.exists_place some_out
    exact ⟨i, present⟩
  · rintro ⟨i, present⟩
    have place := orderly.place i present
    obtain ⟨within, -⟩ := List.getElem?_eq_some_iff.mp place.drawn
    exact Nat.sub_pos_of_lt (Nat.lt_of_le_of_lt place.kept within)

theorem exists_served (orderly : Orderly first g c) (few : g.outstanding < UInt32.size)
    (some_out : 0 < g.outstanding) : ∃! i, (c.stage i).ticket? = some c.lock.serving := by
  obtain ⟨i, present, turn⟩ := orderly.exists_place some_out
  have place := orderly.place i present
  have served : (c.stage i).ticket? = some c.lock.serving := by
    rw [place.ticket, orderly.serving, turn]
  refine ⟨i, served, fun j served => ?_⟩
  have present' : c.stage j ≠ .away := fun away => by simp [away, Stage.ticket?] at served
  exact orderly.turn_injective present' present ((orderly.turn_of_served few served).trans turn.symm)

theorem locked_iff (orderly : Orderly first g c) (few : g.outstanding < UInt32.size) :
    c.lock.locked = true ↔ 0 < g.outstanding := by
  have front := orderly.left_entered.length_le.trans orderly.entered_drawn.length_le
  rw [locked, bne_iff_ne, orderly.serving, orderly.next, Log.outstanding, Nat.sub_pos_iff_lt]
  constructor
  · intro differ
    exact Nat.lt_of_le_of_ne front fun same => differ (by rw [same])
  · intro more same
    have near : g.drawn.length < g.left.length + UInt32.size := by
      rw [Log.outstanding] at few
      omega
    exact absurd (turn_eq_of_ticket_eq same front near) (Nat.ne_of_gt more)

end Orderly

theorem goes_on_of_served (served : (c.stage i).ticket? = some c.lock.serving) :
    (∃ d, c.step (.enter i) = some d) ∨ ∃ d, c.step (.release i) = some d := by
  cases stage : c.stage i with
  | away => simp [stage, Stage.ticket?] at served
  | waiting t =>
    have own : t = c.lock.serving := by simpa [stage, Stage.ticket?] using served
    left
    simp [Crowd.step, stage, serves, own]
  | inside t seen =>
    right
    simp [Crowd.step, stage]

theorem describe_eq (l : TicketLock α) :
    l.describe = if l.locked then "SpinLock \x7b locked: true, .. \x7d"
      else "SpinLock \x7b locked: false, .. \x7d" := by
  rw [describe]
  cases l.locked <;> rfl

/--
However callers get in each other's way, as long as fewer tickets are out than a word can tell
apart: one at most is inside; they enter and leave in the order in which they drew; while a ticket
is out, there is one caller whose ticket is served, and it can go on; the value is what the critical
sections make of it one after the other, in the order of their tickets, and no store is missing
from them; and the lock shows itself locked if and only if a ticket is out.
-/
theorem serialized_of_run (few : ∀ p, p <+: ms → (log p).outstanding < UInt32.size)
    (ran : (Crowd.free first v).run ms = some c) :
    (∀ i j, (c.stage i).isInside = true → (c.stage j).isInside = true → i = j) ∧
    ((log ms).entered <+: (log ms).drawn ∧ (log ms).left <+: (log ms).entered) ∧
    (0 < (log ms).outstanding ↔ ∃ i, c.stage i ≠ .away) ∧
    (0 < (log ms).outstanding → ∃! i, (c.stage i).ticket? = some c.lock.serving) ∧
    (∀ i, (c.stage i).ticket? = some c.lock.serving →
      (∃ d, c.step (.enter i) = some d) ∨ ∃ d, c.step (.release i) = some d) ∧
    c.lock.value = (log ms).sections.foldl (fun w fs => perform fs w) v ∧
    ((log ms).sections.length = (log ms).drawn.length ∧
      (log ms).sections.flatten = (log ms).stores) ∧
    c.lock.describe = if 0 < (log ms).outstanding then "SpinLock \x7b locked: true, .. \x7d"
      else "SpinLock \x7b locked: false, .. \x7d" := by
  obtain ⟨orderly, serial⟩ := orderly_serial_of_run few ran
  have now := few ms List.prefix_rfl
  refine ⟨fun i j => orderly.alone, ⟨orderly.entered_drawn, orderly.left_entered⟩,
    orderly.outstanding_pos_iff, orderly.exists_served now, fun i => goes_on_of_served, ?_,
    ⟨serial.length, serial.flatten⟩, ?_⟩
  · simp only [serial.value, ← serial.flatten, perform, List.foldl_flatten]
  · simp only [describe_eq, orderly.locked_iff now]

theorem outstanding_le_length (ms : List (Move α)) : (log ms).outstanding ≤ ms.length := by
  have drawn : (log ms).drawn.length ≤ ms.length := by
    induction ms using List.reverseRecOn with
    | nil => exact Nat.le_refl 0
    | append_singleton ms m ih =>
      rw [log_concat, List.length_append]
      cases m <;> simp [Log.note] <;> omega
  exact (Nat.sub_le _ _).trans drawn

-- the second ticket is drawn after the tickets have wrapped, and a third while the first is served
def wrapping : List (Move Nat) :=
  [.draw 0, .draw 1, .enter 0, .load 0, .draw 2, .store 0 (· + 1), .release 0, .enter 1, .load 1,
    .store 1 (· * 10)]

theorem serialized_of_run_wrapping :
    ∃ c, (Crowd.free 0xFFFFFFFF 1).run wrapping = some c ∧ c.stage 0 = .away ∧
      c.stage 1 = .inside 0 none ∧ c.stage 2 = .waiting 1 ∧ (log wrapping).outstanding = 2 ∧
      (log wrapping).drawn = [0, 1, 2] ∧ (log wrapping).entered = [0, 1] ∧
      (∃! i, (c.stage i).ticket? = some 0) ∧ c.lock.value = 20 ∧
      c.lock.describe = "SpinLock \x7b locked: true, .. \x7d" := by
  have few : ∀ p, p <+: wrapping → (log p).outstanding < UInt32.size := by
    intro p front
    have short : p.length ≤ 10 := front.length_le
    have out := outstanding_le_length p
    simp only [UInt32.size]
    omega
  refine ⟨_, rfl, rfl, rfl, rfl, rfl, rfl, rfl, ?_⟩
  obtain ⟨-, -, -, served, -, value, -, shown⟩ :=
    @serialized_of_run Nat wrapping _ 0xFFFFFFFF 1 few rfl
  exact ⟨served (by decide), value, shown⟩

end Framecast.TicketLock
