import Framecast.Pool
import Mathlib

set_option autoImplicit false

namespace Framecast.Pool

/-- The cell of a position is found although positions wrap. -/
def Steady (cells position : Nat) : Prop := position % 2 ^ 64 % cells = position % cells

theorem steady_of_lt {cells position : Nat} (h : position < 2 ^ 64) : Steady cells position := by
  rw [Steady, Nat.mod_eq_of_lt h]

theorem steady_of_dvd {cells position : Nat} (h : cells ∣ 2 ^ 64) : Steady cells position :=
  Nat.mod_mod_of_dvd position h

-- after the last word there are no more positions, unless the laps go on evenly
def InWords (cells position : Nat) : Prop := cells ∣ 2 ^ 64 ∨ position ≤ 2 ^ 64

theorem steady_of_inWords {cells position last : Nat} (h : InWords cells last)
    (before : position < last) : Steady cells position := by
  rcases h with even | words
  · exact steady_of_dvd even
  · exact steady_of_lt (by omega)

-- the cell of the `i`-th position from `t` on while `bs` is stored there
def cellAt (t : Nat) (bs : List Bytes) (i : Nat) : Cell :=
  ⟨UInt64.ofNat (t + i + if i < bs.length then 1 else 0), bs[i]?⟩

/-- The pool stores `bs`, the oldest of them at position `t`. -/
structure Ring (p : Pool) (t : Nat) (bs : List Bytes) : Prop where
  two_le : 2 ≤ p.cells.size
  small : p.cells.size ≤ 2 ^ 63
  fits : bs.length ≤ p.cells.size
  tail : p.tail = UInt64.ofNat t
  head : p.head = UInt64.ofNat (t + bs.length)
  cells : ∀ i, i < p.cells.size → p.cells[(t + i) % p.cells.size]? = some (cellAt t bs i)
  lengths : ∀ b ∈ bs, b.length = p.bufLen

theorem index_ofNat {p : Pool} {k : Nat} (steady : Steady p.cells.size k) :
    p.index (UInt64.ofNat k) = k % p.cells.size := by
  rw [index, UInt64.toNat_ofNat', steady]

theorem add_mod_ne_of_lt {t i j n : Nat} (lt : i < j) (hj : j < n) :
    (t + i) % n ≠ (t + j) % n := by
  intro same
  have whole : (t + j - (t + i)) % n = 0 := Nat.sub_mod_eq_zero_of_mod_eq same.symm
  have apart : t + j - (t + i) = j - i := by omega
  rw [apart, Nat.mod_eq_of_lt (by omega)] at whole
  omega

theorem add_mod_ne {t i j n : Nat} (hi : i < n) (hj : j < n) (different : i ≠ j) :
    (t + i) % n ≠ (t + j) % n := by
  rcases Nat.lt_or_gt_of_ne different with lt | gt
  · exact add_mod_ne_of_lt lt hj
  · exact (add_mod_ne_of_lt gt hi).symm

theorem toInt64_neg {x : UInt64} : x.toInt64 < 0 ↔ 2 ^ 63 ≤ x.toNat := by
  rw [Int64.lt_iff_toInt_lt]
  change x.toBitVec.toInt < 0 ↔ _
  rw [BitVec.toInt_neg_iff]
  change 2 ^ 64 ≤ 2 * x.toNat ↔ _
  omega

namespace Ring

variable {p : Pool} {t : Nat} {bs : List Bytes}

theorem size_pos (r : p.Ring t bs) : 0 < p.cells.size := Nat.lt_of_lt_of_le (by omega) r.two_le

theorem length_word (r : p.Ring t bs) : (p.head - p.tail).toNat = bs.length := by
  have fits := r.fits
  have small := r.small
  rw [r.head, r.tail, UInt64.ofNat_add, UInt64.add_comm, UInt64.add_sub_cancel,
    UInt64.toNat_ofNat']
  omega

theorem len_eq (r : p.Ring t bs) : p.len = bs.length := by
  rw [len, r.length_word]
  exact Nat.min_eq_left r.fits

def stored (p : Pool) (b : Bytes) : Pool :=
  { p with
    cells := p.cells.setIfInBounds (p.index p.head) ⟨p.head + 1, some b⟩
    head := p.head + 1 }

def emptied (p : Pool) : Pool :=
  { p with
    cells := p.cells.setIfInBounds (p.index p.tail) ⟨p.tail + p.cells.size.toUInt64, none⟩
    tail := p.tail + 1 }

theorem cellAt_concat_of_ne {i : Nat} {b : Bytes} (different : i ≠ bs.length) :
    cellAt t (bs ++ [b]) i = cellAt t bs i := by
  rcases Nat.lt_or_gt_of_ne different with before | after
  · have inside : i < (bs ++ [b]).length := by simp; omega
    rw [cellAt, cellAt, if_pos inside, if_pos before, List.getElem?_append_left before]
  · have outside : ¬i < (bs ++ [b]).length := by simp; omega
    have outside' : ¬i < bs.length := by omega
    rw [cellAt, cellAt, if_neg outside, if_neg outside',
      List.getElem?_eq_none_iff.mpr (by omega), List.getElem?_eq_none_iff.mpr (by omega)]

theorem cellAt_concat_length {b : Bytes} :
    cellAt t (bs ++ [b]) bs.length = ⟨UInt64.ofNat (t + bs.length) + 1, some b⟩ := by
  simp [cellAt]

theorem push_of_room (r : p.Ring t bs) (room : bs.length < p.cells.size)
    (steady : Steady p.cells.size (t + bs.length)) {b : Bytes} (length : b.length = p.bufLen) :
    p.push b = .stored (stored p b) ∧ (stored p b).Ring t (bs ++ [b]) := by
  have place : p.index p.head = (t + bs.length) % p.cells.size := by
    rw [r.head, index_ofNat steady]
  have free : p.cells[p.index p.head]? = some (cellAt t bs bs.length) := by
    rw [place, r.cells bs.length room]
  have turn : (cellAt t bs bs.length).turn - p.head = 0 := by simp [cellAt, r.head]
  have size : (stored p b).cells.size = p.cells.size := Array.size_setIfInBounds
  refine ⟨?_, ?_⟩
  · simp only [push, length, ne_eq, not_true_eq_false, if_false, free, turn, if_true]
    rfl
  · constructor
    case two_le => exact size ▸ r.two_le
    case small => exact size ▸ r.small
    case fits => rw [size, List.length_append]; exact room
    case tail => exact r.tail
    case head =>
      change p.head + 1 = _
      rw [r.head, List.length_append, List.length_singleton, ← Nat.add_assoc,
        UInt64.ofNat_add (t + bs.length)]
      rfl
    case cells =>
      intro i hi
      rw [size] at hi ⊢
      change (p.cells.setIfInBounds _ _)[_]? = _
      rw [place, Array.getElem?_setIfInBounds]
      by_cases last : i = bs.length
      next =>
        subst last
        rw [if_pos rfl, if_pos (Nat.mod_lt _ r.size_pos), cellAt_concat_length, r.head]
      next =>
        rw [if_neg (add_mod_ne room hi (Ne.symm last)), r.cells i hi, cellAt_concat_of_ne last]
    case lengths =>
      intro x member
      rcases List.mem_append.mp member with old | new
      · exact r.lengths x old
      · rw [List.mem_singleton.mp new]
        exact length

theorem push_of_full (r : p.Ring t bs) (full : bs.length = p.cells.size)
    (steady : Steady p.cells.size (t + bs.length)) (b : Bytes) : p.push b = .refused := by
  have two_le := r.two_le
  have small := r.small
  have oldest : p.cells[p.index p.head]? = some (cellAt t bs 0) := by
    rw [r.head, index_ofNat steady, full, Nat.add_mod_right, ← r.cells 0 r.size_pos]
    rfl
  -- the turn of the cell at the head is a lap behind, less one
  have behind : (cellAt t bs 0).turn - p.head = 1 - UInt64.ofNat bs.length := by
    have some_stored : 0 < bs.length := by omega
    simp only [cellAt, r.head, if_pos some_stored, UInt64.ofNat_add]
    grind
  have far : (1 - UInt64.ofNat bs.length).toNat = 2 ^ 64 + 1 - bs.length := by
    rw [UInt64.toNat_sub, UInt64.toNat_ofNat']
    simp
    omega
  have nonzero : 1 - UInt64.ofNat bs.length ≠ 0 := by
    intro zero
    rw [zero] at far
    simp at far
    omega
  have negative : (1 - UInt64.ofNat bs.length).toInt64 < 0 := toInt64_neg.mpr (by omega)
  simp only [push, oldest, behind, nonzero, negative, if_false, if_true, ite_self]

theorem push_of_length_ne {b : Bytes} (wrong : b.length ≠ p.bufLen) : p.push b = .refused := by
  rw [push, if_pos wrong]

theorem cellAt_tail {b : Bytes} {i : Nat} :
    cellAt (t + 1) bs i = cellAt t (b :: bs) (i + 1) := by
  simp only [cellAt, List.length_cons, List.getElem?_cons_succ, Nat.add_lt_add_iff_right]
  congr 2
  omega

theorem pop_of_cons {b : Bytes} (r : p.Ring t (b :: bs)) (steady : Steady p.cells.size t) :
    p.pop = .given b (emptied p) ∧ (emptied p).Ring (t + 1) bs := by
  have size_pos := r.size_pos
  have fits := r.fits
  have place : p.index p.tail = t % p.cells.size := by rw [r.tail, index_ofNat steady]
  have oldest : p.cells[p.index p.tail]? = some ⟨UInt64.ofNat (t + 1), some b⟩ := by
    rw [place, ← Nat.add_zero t, r.cells 0 size_pos]
    simp [cellAt]
  have turn : UInt64.ofNat (t + 1) - (p.tail + 1) = 0 := by
    rw [r.tail, UInt64.ofNat_add]
    exact UInt64.sub_self _
  have size : (emptied p).cells.size = p.cells.size := Array.size_setIfInBounds
  rw [List.length_cons] at fits
  refine ⟨?_, ?_⟩
  · simp only [pop, oldest, turn, if_true]
    rfl
  · constructor
    case two_le => exact size ▸ r.two_le
    case small => exact size ▸ r.small
    case fits => omega
    case tail =>
      change p.tail + 1 = _
      rw [r.tail, UInt64.ofNat_add]
      rfl
    case head =>
      change p.head = _
      rw [r.head, List.length_cons]
      congr 1
      omega
    case cells =>
      intro i hi
      rw [size] at hi ⊢
      change (p.cells.setIfInBounds _ _)[_]? = _
      rw [place, Array.getElem?_setIfInBounds, Nat.add_right_comm, Nat.add_assoc]
      by_cases last : i + 1 = p.cells.size
      next =>
        -- the cell that was emptied is the last of the next lap
        have outside : ¬i < bs.length := by omega
        rw [last, Nat.add_mod_right, if_pos rfl, if_pos (Nat.mod_lt _ size_pos), r.tail, cellAt,
          if_neg outside, List.getElem?_eq_none_iff.mpr (by omega)]
        have lap : t + 1 + i = t + p.cells.size := by omega
        rw [Nat.add_zero, lap, UInt64.ofNat_add]
      next =>
        have other :=
          add_mod_ne (t := t) size_pos (Nat.lt_of_le_of_ne hi last) (Nat.succ_ne_zero i).symm
        rw [Nat.add_zero] at other
        rw [if_neg other, r.cells (i + 1) (by omega), cellAt_tail]
    case lengths => exact fun x member => r.lengths x (List.mem_cons_of_mem _ member)

theorem pop_of_nil (r : p.Ring t []) (steady : Steady p.cells.size t) : p.pop = .empty := by
  have next : p.cells[p.index p.tail]? = some ⟨UInt64.ofNat t, none⟩ := by
    rw [r.tail, index_ofNat steady]
    exact r.cells 0 r.size_pos
  have behind : UInt64.ofNat t - (p.tail + 1) = -1 := by
    rw [r.tail]
    grind
  have negative : (-1 : UInt64).toInt64 < 0 := by decide
  have nonzero : (-1 : UInt64) ≠ 0 := by decide
  simp only [pop, next, behind, nonzero, negative, if_false, if_true]

theorem filterMap_getElem?_range (bs : List Bytes) :
    (List.range bs.length).filterMap (fun i => bs[i]?) = bs := by
  induction bs with
  | nil => rfl
  | cons b bs ih =>
    rw [List.length_cons, List.range_succ_eq_map, List.filterMap_cons, List.filterMap_map]
    exact congrArg (b :: ·) ih

theorem toList_eq (r : p.Ring t bs) (steady : ∀ i, i < bs.length → Steady p.cells.size (t + i)) :
    p.toList = bs := by
  have found : ∀ i ∈ List.range bs.length,
      (p.cells[p.index (p.tail + i.toUInt64)]?).bind (·.buffer) = bs[i]? := by
    intro i member
    have inside := List.mem_range.mp member
    have position : p.tail + i.toUInt64 = UInt64.ofNat (t + i) := by
      rw [r.tail, UInt64.ofNat_add]
    rw [position, index_ofNat (steady i inside), r.cells i (Nat.lt_of_lt_of_le inside r.fits)]
    rfl
  rw [toList, r.length_word, List.filterMap_congr found, filterMap_getElem?_range]

theorem first_cell (r : p.Ring t bs) :
    ∃ i, i < p.cells.size ∧ p.cells.size ∣ t + i ∧ p.cells[0]? = some (cellAt t bs i) := by
  have size_pos := r.size_pos
  have below := Nat.mod_lt t size_pos
  refine ⟨(p.cells.size - t % p.cells.size) % p.cells.size, Nat.mod_lt _ size_pos, ?_, ?_⟩
  all_goals
    have whole : (t + (p.cells.size - t % p.cells.size) % p.cells.size) % p.cells.size = 0 := by
      rw [Nat.add_mod_mod]
      have sum : t + (p.cells.size - t % p.cells.size) =
          p.cells.size * (t / p.cells.size) + p.cells.size := by
        have := Nat.div_add_mod t p.cells.size
        omega
      rw [sum, Nat.add_mod_right, Nat.mul_mod_right]
  · exact Nat.dvd_of_mod_eq_zero whole
  · rw [← r.cells _ (Nat.mod_lt _ size_pos), whole]

theorem push_after_words (r : p.Ring t bs) (pairs : 2 ∣ p.cells.size)
    (uneven : ¬p.cells.size ∣ 2 ^ 64) (last : t + bs.length = 2 ^ 64) (b : Bytes) (q : Pool) :
    p.push b ≠ .stored q := by
  have fits := r.fits
  have small := r.small
  have head : p.head = 0 := by rw [r.head, last]; rfl
  obtain ⟨i, inside, whole, first⟩ := r.first_cell
  have even : 2 ∣ t + i := Nat.dvd_trans pairs whole
  have other : t + i ≠ 2 ^ 64 := fun same => uneven (same ▸ whole)
  have turn : (cellAt t bs i).turn - p.head ≠ 0 := by
    -- its position is even and not 2 ^ 64, so neither it nor the one after it wraps to zero
    intro zero
    have value := congrArg UInt64.toNat zero
    simp only [head, UInt64.sub_zero, cellAt, UInt64.toNat_ofNat', UInt64.toNat_zero] at value
    split at value <;> omega
  have found : p.cells[p.index p.head]? = some (cellAt t bs i) := by
    rw [head, ← first]
    simp [index]
  by_cases length : b.length = p.bufLen
  next =>
    simp only [push, length, ne_eq, not_true_eq_false, if_false, found, turn]
    split <;> simp
  next => simp [push_of_length_ne length]

theorem pop_after_words (r : p.Ring t []) (pairs : 2 ∣ p.cells.size)
    (uneven : ¬p.cells.size ∣ 2 ^ 64) (last : t = 2 ^ 64) : p.pop = .overtaken := by
  have small := r.small
  have tail : p.tail = 0 := by rw [r.tail, last]; rfl
  obtain ⟨i, inside, whole, first⟩ := r.first_cell
  have even : 2 ∣ t + i := Nat.dvd_trans pairs whole
  have other : t + i ≠ 2 ^ 64 := fun same => uneven (same ▸ whole)
  have found : p.cells[p.index p.tail]? = some ⟨UInt64.ofNat i, none⟩ := by
    have wrapped : UInt64.ofNat (t + i) = UInt64.ofNat i := by
      rw [last, UInt64.ofNat_add]
      exact UInt64.zero_add _
    have cell : cellAt t [] i = ⟨UInt64.ofNat i, none⟩ := by simp [cellAt, wrapped]
    rw [tail, ← cell, ← first]
    simp [index]
  have ahead : (UInt64.ofNat i - (p.tail + 1)).toNat = i - 1 := by
    rw [tail, UInt64.zero_add, UInt64.toNat_sub, UInt64.toNat_ofNat']
    simp
    omega
  have nonzero : UInt64.ofNat i - (p.tail + 1) ≠ 0 := by
    intro zero
    rw [zero] at ahead
    simp at ahead
    omega
  have forward : ¬(UInt64.ofNat i - (p.tail + 1)).toInt64 < 0 := by
    rw [toInt64_neg]
    omega
  simp only [pop, found, nonzero, forward, if_false]

theorem push_cases (r : p.Ring t bs) (pairs : 2 ∣ p.cells.size) (room : bs.length < p.cells.size)
    (words : InWords p.cells.size (t + bs.length)) {b : Bytes} (length : b.length = p.bufLen) :
    (p.push b = .stored (stored p b) ∧ (stored p b).Ring t (bs ++ [b]) ∧
        InWords p.cells.size (t + (bs ++ [b]).length)) ∨
      ∀ q, p.push b ≠ .stored q := by
  by_cases even : p.cells.size ∣ 2 ^ 64
  next =>
    obtain ⟨push, ring⟩ := r.push_of_room room (steady_of_dvd even) length
    exact .inl ⟨push, ring, .inl even⟩
  next =>
    have within : t + bs.length ≤ 2 ^ 64 := words.resolve_left even
    by_cases last : t + bs.length = 2 ^ 64
    next => exact .inr (r.push_after_words pairs even last b)
    next =>
      obtain ⟨push, ring⟩ := r.push_of_room room (steady_of_lt (by omega)) length
      refine .inl ⟨push, ring, .inr ?_⟩
      rw [List.length_append, List.length_singleton]
      omega

theorem pop_cases (r : p.Ring t bs) (pairs : 2 ∣ p.cells.size)
    (words : InWords p.cells.size (t + bs.length)) :
    (∃ b rest, bs = b :: rest ∧ p.pop = .given b (emptied p) ∧ (emptied p).Ring (t + 1) rest) ∨
      (bs = [] ∧ (p.pop = .empty ∨ p.pop = .overtaken)) := by
  cases bs with
  | cons b rest =>
    obtain ⟨pop, ring⟩ := r.pop_of_cons (steady_of_inWords words (by simp))
    exact .inl ⟨b, rest, rfl, pop, ring⟩
  | nil =>
    refine .inr ⟨rfl, ?_⟩
    by_cases even : p.cells.size ∣ 2 ^ 64
    next => exact .inl (r.pop_of_nil (steady_of_dvd even))
    next =>
      have within : t ≤ 2 ^ 64 := words.resolve_left even
      by_cases last : t = 2 ^ 64
      next => exact .inr (r.pop_after_words pairs even last)
      next => exact .inl (r.pop_of_nil (steady_of_lt (by omega)))

end Ring

theorem ring_emptyRing {cells bufLen : Nat} (two_le : 2 ≤ cells) (small : cells ≤ 2 ^ 63) :
    (emptyRing cells bufLen).Ring 0 [] := by
  have size : (emptyRing cells bufLen).cells.size = cells := by simp [emptyRing]
  constructor
  case two_le =>
    rw [size]
    exact two_le
  case small =>
    rw [size]
    exact small
  case fits => exact Nat.zero_le _
  case tail => rfl
  case head => rfl
  case cells =>
    intro i hi
    rw [size] at hi ⊢
    rw [Nat.zero_add, Nat.mod_eq_of_lt hi]
    simp [emptyRing, cellAt, hi]
  case lengths => simp

theorem ring_fill {limit n t k : Nat} {p q : Pool}
    (r : p.Ring t (List.replicate k (Bytes.zeros p.bufLen))) (room : k + n ≤ p.cells.size)
    (steady : ∀ i, i < t + k + n → Steady p.cells.size i) (filled : fill limit n p = .ok q) :
    q.Ring t (List.replicate (k + n) (Bytes.zeros p.bufLen)) ∧
      q.cells.size = p.cells.size ∧ q.bufLen = p.bufLen := by
  induction n generalizing p k with
  | zero =>
    obtain rfl := Except.ok.inj filled
    exact ⟨r, rfl, rfl⟩
  | succ n ih =>
    have length : (List.replicate k (Bytes.zeros p.bufLen)).length = k := List.length_replicate
    obtain ⟨push, next⟩ := r.push_of_room (b := Bytes.zeros p.bufLen) (by omega)
      (steady _ (by omega)) (Bytes.length_zeros _)
    have size : (Ring.stored p (Bytes.zeros p.bufLen)).cells.size = p.cells.size :=
      Array.size_setIfInBounds
    have back : p.putBack (Bytes.zeros p.bufLen) = Ring.stored p (Bytes.zeros p.bufLen) := by
      rw [putBack, push]
    have rest : fill limit n (Ring.stored p (Bytes.zeros p.bufLen)) = .ok q := by
      simp only [fill, back] at filled
      cases reserved : reserve limit p.bufLen with
      | error e => simp [reserved, bind, Except.bind] at filled
      | ok u => simpa [reserved, bind, Except.bind] using filled
    rw [← List.replicate_succ'] at next
    have h := ih next (by rw [size]; omega) (fun i hi => size ▸ steady i (by omega)) rest
    rw [size] at h
    have count : k + (n + 1) = k + 1 + n := by omega
    exact count ▸ h

theorem reserve_eq_ok {limit bytes : Nat} {u : Unit} (h : reserve limit bytes = .ok u) :
    bytes ≤ Size.pieceLimit := by
  simp only [reserve] at h
  split at h
  next within => exact Nat.le_trans within (Nat.min_le_right _ _)
  next => simp at h

theorem bufLen_le_of_fill {limit n : Nat} {p q : Pool} (some_buffers : 0 < n)
    (filled : fill limit n p = .ok q) : p.bufLen ≤ Size.pieceLimit := by
  cases n with
  | zero => omega
  | succ n =>
    cases reserved : reserve limit p.bufLen with
    | error e => simp [fill, reserved, bind, Except.bind] at filled
    | ok u => exact reserve_eq_ok reserved

theorem ring_withBuffers {limit capacity bufLen n : Nat} {q : Pool} (two_le : 2 ≤ capacity)
    (made : withBuffers limit capacity bufLen n = .ok q) :
    q.Ring 0 (List.replicate n (Bytes.zeros bufLen)) ∧ q.cells.size = capacity ∧
      q.bufLen = bufLen ∧ capacity * cellSize ≤ Size.pieceLimit ∧
      (0 < n → bufLen ≤ Size.pieceLimit) := by
  simp only [withBuffers] at made
  split at made
  next => simp at made
  next =>
    split at made
    next => simp at made
    next room =>
      cases reserved : reserve limit (capacity * cellSize) with
      | error e => simp [reserved, bind, Except.bind] at made
      | ok u =>
        have filled : fill limit n (emptyRing capacity bufLen) = .ok q := by
          simpa [reserved, bind, Except.bind] using made
        have cells := reserve_eq_ok reserved
        have size : (emptyRing capacity bufLen).cells.size = capacity := by simp [emptyRing]
        have small : capacity ≤ 2 ^ 57 := by
          simp only [cellSize, Size.pieceLimit, UInt64.size] at cells
          omega
        have empty : (emptyRing capacity bufLen).Ring 0
            (List.replicate 0 (Bytes.zeros (emptyRing capacity bufLen).bufLen)) :=
          ring_emptyRing two_le (by omega)
        obtain ⟨ring, size', bufLen'⟩ :=
          ring_fill empty (by omega) (fun i hi => steady_of_lt (by omega)) filled
        rw [Nat.zero_add] at ring
        exact ⟨ring, size'.trans size, bufLen', cells, fun some_buffers =>
          bufLen_le_of_fill some_buffers filled⟩

end Framecast.Pool
