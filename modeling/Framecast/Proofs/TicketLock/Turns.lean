import Framecast.Proofs.Positions
import Framecast.TicketLock.Log
import Mathlib

set_option autoImplicit false

namespace Framecast.TicketLock

variable {α : Type} {ms : List (Move α)} {m : Move α} {c d : Crowd α} {first : UInt32}
variable {g : Log α} {i j k : Nat}

theorem Stage.ne_away_of_isInside {s : Stage α} (inside : s.isInside = true) : s ≠ .away := by
  rintro rfl
  simp [isInside] at inside

namespace Crowd

@[simp] theorem lock_put (s : Stage α) : (c.put i s).lock = c.lock := rfl

@[simp] theorem stage_put_self (s : Stage α) : (c.put i s).stage i = s := if_pos rfl

theorem stage_put_of_ne (s : Stage α) (other : j ≠ i) : (c.put i s).stage j = c.stage j :=
  if_neg other

theorem present_put {s : Stage α} (there : s ≠ .away) (present : c.stage j ≠ .away) :
    (c.put i s).stage j ≠ .away := by
  by_cases own : j = i
  next => rwa [own, stage_put_self]
  next => rwa [stage_put_of_ne _ own]

theorem step_draw (h : c.step (.draw i) = some d) :
    c.stage i = .away ∧ d = { c with lock := c.lock.draw.2 }.put i (.waiting c.lock.next) := by
  simp only [step] at h
  split at h
  next away => exact ⟨away, (Option.some.inj h).symm⟩
  next => simp at h

theorem step_enter (h : c.step (.enter i) = some d) :
    c.stage i = .waiting c.lock.serving ∧ d = c.put i (.inside c.lock.serving none) := by
  simp only [step, serves, beq_iff_eq] at h
  split at h
  next t waiting =>
    split at h
    next served => exact served ▸ ⟨waiting, (Option.some.inj h).symm⟩
    next => simp at h
  next => simp at h

theorem step_load (h : c.step (.load i) = some d) :
    ∃ t seen, c.stage i = .inside t seen ∧ d = c.put i (.inside t (some c.lock.value)) := by
  simp only [step] at h
  split at h
  next t seen inside => exact ⟨t, seen, inside, (Option.some.inj h).symm⟩
  next => simp at h

theorem step_store {f : α → α} (h : c.step (.store i f) = some d) :
    ∃ t w, c.stage i = .inside t (some w) ∧
      d = { c with lock := c.lock.update fun _ => f w }.put i (.inside t none) := by
  simp only [step] at h
  split at h
  next t w inside => exact ⟨t, w, inside, (Option.some.inj h).symm⟩
  next => simp at h

theorem step_release (h : c.step (.release i) = some d) :
    ∃ t seen, c.stage i = .inside t seen ∧
      d = { c with lock := c.lock.release }.put i .away := by
  simp only [step] at h
  split at h
  next t seen inside => exact ⟨t, seen, inside, (Option.some.inj h).symm⟩
  next => simp at h

theorem run_concat (c : Crowd α) (ms : List (Move α)) (m : Move α) :
    c.run (ms ++ [m]) = (c.run ms).bind fun d => d.step m := by
  induction ms generalizing c with
  | nil => simp [run]
  | cons n ms ih =>
    simp only [List.cons_append, run, Option.bind_assoc]
    exact Option.bind_congr fun d _ => ih d

end Crowd

theorem turn_eq_of_ticket_eq {a b : Nat} (same : first + a.toUInt32 = first + b.toUInt32)
    (le : a ≤ b) (near : b < a + UInt32.size) : b = a := by
  have words : a % UInt32.size = b % UInt32.size := by
    simpa using congrArg UInt32.toNat (add_left_cancel same)
  simp only [UInt32.size] at words near
  omega

theorem prefix_concat_of_getElem? {l l' : List Nat} (front : l <+: l')
    (next : l'[l.length]? = some i) : l ++ [i] <+: l' := by
  obtain ⟨rest, rfl⟩ := front
  rw [List.getElem?_append_right (Nat.le_refl _), Nat.sub_self] at next
  apply (List.prefix_append_right_inj l).mpr
  cases rest with
  | nil => simp at next
  | cons x rest => simp_all

/-- The caller `i` has drawn the ticket with the number `k` and is at stage `s` with it. -/
structure Place (first : UInt32) (g : Log α) (s : Stage α) (i k : Nat) : Prop where
  drawn : g.drawn[k]? = some i
  kept : g.left.length ≤ k
  ticket : s.ticket? = some (first + k.toUInt32)
  entered : s.isInside = true ↔ k < g.entered.length

structure Orderly (first : UInt32) (g : Log α) (c : Crowd α) : Prop where
  next : c.lock.next = first + g.drawn.length.toUInt32
  serving : c.lock.serving = first + g.left.length.toUInt32
  entered_drawn : g.entered <+: g.drawn
  left_entered : g.left <+: g.entered
  narrow : g.entered.length ≤ g.left.length + 1
  place : ∀ i, c.stage i ≠ .away → Place first g (c.stage i) i (g.turn i)
  held : ∀ k i, g.left.length ≤ k → g.drawn[k]? = some i → c.stage i ≠ .away ∧ g.turn i = k

theorem orderly_free (first : UInt32) (v : α) : Orderly first {} (Crowd.free first v) where
  next := by simp [Crowd.free]
  serving := by simp [Crowd.free]
  entered_drawn := List.prefix_rfl
  left_entered := List.prefix_rfl
  narrow := Nat.zero_le _
  place i present := absurd rfl present
  held k i _ at_k := by simp at at_k

namespace Orderly

theorem near (orderly : Orderly first g c)
    (few : g.outstanding < UInt32.size) (present : c.stage i ≠ .away) :
    g.turn i < g.left.length + UInt32.size := by
  have place := orderly.place i present
  obtain ⟨inside, -⟩ := List.getElem?_eq_some_iff.mp place.drawn
  rw [Log.outstanding] at few
  omega

theorem turn_injective (orderly : Orderly first g c)
    (present : c.stage i ≠ .away) (present' : c.stage j ≠ .away) (same : g.turn i = g.turn j) :
    i = j := by
  have at_i := (orderly.place i present).drawn
  rw [same, (orderly.place j present').drawn] at at_i
  exact (Option.some.inj at_i).symm

theorem turn_of_served (orderly : Orderly first g c) (few : g.outstanding < UInt32.size)
    (served : (c.stage i).ticket? = some c.lock.serving) : g.turn i = g.left.length := by
  have present : c.stage i ≠ .away := fun away => by simp [away, Stage.ticket?] at served
  have place := orderly.place i present
  rw [place.ticket, orderly.serving] at served
  exact turn_eq_of_ticket_eq (Option.some.inj served).symm place.kept (orderly.near few present)

theorem turn_of_inside (orderly : Orderly first g c)
    (inside : (c.stage i).isInside = true) :
    g.turn i = g.left.length ∧ g.entered.length = g.left.length + 1 := by
  have present := Stage.ne_away_of_isInside inside
  have place := orderly.place i present
  have entered := place.entered.mp inside
  have kept := place.kept
  have narrow := orderly.narrow
  omega

theorem alone (orderly : Orderly first g c) (inside : (c.stage i).isInside = true)
    (inside' : (c.stage j).isInside = true) : i = j := by
  apply orderly.turn_injective (Stage.ne_away_of_isInside inside) (Stage.ne_away_of_isInside inside')
  rw [(orderly.turn_of_inside inside).1, (orderly.turn_of_inside inside').1]

theorem draw (orderly : Orderly first g c) (away : c.stage i = .away) :
    Orderly first (g.note (.draw i))
      ({ c with lock := c.lock.draw.2 }.put i (.waiting c.lock.next)) := by
  have front := orderly.entered_drawn.length_le
  have behind := orderly.left_entered.length_le
  constructor <;> dsimp only [Log.note]
  case next => simp [TicketLock.draw, orderly.next, UInt32.ofNat_add, add_assoc]
  case serving => simpa [TicketLock.draw] using orderly.serving
  case entered_drawn => exact orderly.entered_drawn.trans (List.prefix_append _ _)
  case left_entered => exact orderly.left_entered
  case narrow => exact orderly.narrow
  case place =>
    intro j present
    by_cases own : j = i
    next =>
      subst own
      simp only [Crowd.stage_put_self, if_true]
      constructor
      case drawn => simp
      case kept => exact behind.trans front
      case ticket => simp [Stage.ticket?, orderly.next]
      case entered => simpa [Stage.isInside] using front
    next =>
      rw [Crowd.stage_put_of_ne _ own] at present ⊢
      rw [if_neg own]
      have place := orderly.place j present
      exact { place with drawn := getElem?_concat place.drawn i }
  case held =>
    intro k j late at_k
    rcases getElem?_concat_cases at_k with before | ⟨rfl, rfl⟩
    next =>
      obtain ⟨present, turned⟩ := orderly.held k j late before
      have other : j ≠ i := fun same => present (same ▸ away)
      rw [Crowd.stage_put_of_ne _ other, if_neg other]
      exact ⟨present, turned⟩
    next => simp

theorem enter (orderly : Orderly first g c) (few : g.outstanding < UInt32.size)
    (waiting : c.stage i = .waiting c.lock.serving) :
    Orderly first (g.note (.enter i)) (c.put i (.inside c.lock.serving none)) := by
  have present : c.stage i ≠ .away := by simp [waiting]
  have place := orderly.place i present
  have served : g.turn i = g.left.length :=
    orderly.turn_of_served few (by simp [waiting, Stage.ticket?])
  -- whoever is served and still waits has nobody inside before it
  have empty : g.entered.length = g.left.length := by
    have outside : ¬g.turn i < g.entered.length := by
      rw [← place.entered, waiting]
      simp [Stage.isInside]
    have behind := orderly.left_entered.length_le
    omega
  constructor <;> dsimp only [Log.note]
  case next => exact orderly.next
  case serving => exact orderly.serving
  case entered_drawn =>
    apply prefix_concat_of_getElem? orderly.entered_drawn
    rw [empty, ← served, place.drawn]
  case left_entered => exact orderly.left_entered.trans (List.prefix_append _ _)
  case narrow => simp [empty]
  case place =>
    intro j present'
    by_cases own : j = i
    next =>
      subst own
      rw [Crowd.stage_put_self]
      exact
        { drawn := place.drawn
          kept := place.kept
          ticket := by simp [Stage.ticket?, orderly.serving, served]
          entered := by simp [Stage.isInside, empty, served] }
    next =>
      rw [Crowd.stage_put_of_ne _ own] at present' ⊢
      have place' := orderly.place j present'
      refine { place' with entered := place'.entered.trans ?_ }
      have other : g.turn j ≠ g.turn i := mt (orderly.turn_injective present' present) own
      have kept := place'.kept
      dsimp only [Log.note]
      simp only [List.length_append, List.length_singleton]
      omega
  case held =>
    intro k j late at_k
    obtain ⟨present', turned⟩ := orderly.held k j late at_k
    exact ⟨Crowd.present_put (by simp) present', turned⟩

theorem work (orderly : Orderly first g c) {t : UInt32} {seen : Option α}
    (inside : c.stage i = .inside t seen) (w : α) (seen' : Option α) :
    Orderly first g ({ c with lock := c.lock.update fun _ => w }.put i (.inside t seen')) := by
  refine { orderly with place := fun j present => ?_, held := fun k j late at_k => ?_ }
  next =>
    by_cases own : j = i
    next =>
      subst own
      have place := orderly.place j (by simp [inside])
      rw [inside] at place
      rw [Crowd.stage_put_self]
      exact { place with }
    next =>
      rw [Crowd.stage_put_of_ne _ own] at present ⊢
      exact orderly.place j present
  next =>
    obtain ⟨present, turned⟩ := orderly.held k j late at_k
    exact ⟨Crowd.present_put (by simp) present, turned⟩

theorem release (orderly : Orderly first g c) (inside : (c.stage i).isInside = true) :
    Orderly first (g.note (.release i)) ({ c with lock := c.lock.release }.put i .away) := by
  have present := Stage.ne_away_of_isInside inside
  obtain ⟨served, full⟩ := orderly.turn_of_inside inside
  have place := orderly.place i present
  constructor <;> dsimp only [Log.note]
  case next => exact orderly.next
  case serving => simp [TicketLock.release, orderly.serving, UInt32.ofNat_add, add_assoc]
  case entered_drawn => exact orderly.entered_drawn
  case left_entered =>
    apply prefix_concat_of_getElem? orderly.left_entered
    have within : g.left.length < g.entered.length := by omega
    have same := List.prefix_iff_getElem?.mp orderly.entered_drawn _ within
    rw [List.getElem?_eq_getElem within, ← same, ← served, place.drawn]
  case narrow => simp [full]
  case place =>
    intro j present'
    by_cases own : j = i
    next => simp [own] at present'
    next =>
      rw [Crowd.stage_put_of_ne _ own] at present' ⊢
      have place' := orderly.place j present'
      have other : g.turn j ≠ g.turn i := mt (orderly.turn_injective present' present) own
      have kept := place'.kept
      exact { place' with kept := by simp; omega }
  case held =>
    intro k j late at_k
    rw [List.length_append, List.length_singleton] at late
    obtain ⟨present', turned⟩ := orderly.held k j (by omega) at_k
    have other : j ≠ i := fun same => by subst same; omega
    rw [Crowd.stage_put_of_ne _ other]
    exact ⟨present', turned⟩

end Orderly

end Framecast.TicketLock
