import Framecast.Proofs.Picture.Drawing
import Mathlib.Algebra.GroupWithZero.Nat

set_option autoImplicit false

namespace Framecast

theorem Bytes.write?_concat (front rest : Bytes) (old byte : UInt8) :
    Bytes.write? (front ++ old :: rest) front.length byte = some (front ++ byte :: rest) := by
  simp [Bytes.write?]

theorem Bytes.foldlM_write? {bytes : Nat → UInt8} (front buf : Bytes) {n : Nat}
    (room : n ≤ buf.length) :
    (List.range n).foldlM (fun buf b => Bytes.write? buf (front.length + b) (bytes b))
        (front ++ buf) =
      some (front ++ (List.range n).map bytes ++ buf.drop n) := by
  induction n with
  | zero => simp
  | succ n ih =>
    obtain ⟨old, rest, next⟩ : ∃ old rest, buf.drop n = old :: rest :=
      List.exists_cons_of_ne_nil (by simpa using Nat.lt_of_succ_le room)
    have after : buf.drop (n + 1) = rest := by rw [← List.drop_drop, next]; rfl
    have place : front.length + n = (front ++ (List.range n).map bytes).length := by simp
    rw [List.range_succ, List.foldlM_append, ih (by omega), next, after, Option.bind_eq_bind,
      Option.bind_some, List.foldlM_cons, place, Bytes.write?_concat]
    simp

namespace Pattern

theorem littleEndian_sample (s : UInt16) (b : Nat) :
    (littleEndian s.toNat)[b % 2]? =
      some (if b % 2 = 0 then s.toUInt8 else (s >>> 8).toUInt8) := by
  obtain ⟨low, high⟩ := toUInt8_sample (s := s) rfl
  rw [littleEndian, ← low, ← high]
  rcases Nat.mod_two_eq_zero_or_one b with even | odd
  · rw [even, if_pos rfl, List.getElem?_cons_zero]
  · rw [odd, if_neg (by decide), List.getElem?_cons_succ, List.getElem?_cons_zero]

theorem stroke?_concat {g : Geometry} (index : UInt64) (front buf : Bytes) {i : Nat}
    (wide : g.width.toNat ≠ 0) (place : front.length = i * g.bytesPerSample.toNat)
    (room : g.bytesPerSample.toNat ≤ buf.length) :
    stroke? g index (front ++ buf) i =
      some (front ++
        sampleBytes g.bytesPerSample.toNat
          (sample (i / g.width.toNat).toUInt32 (i % g.width.toNat).toUInt32 index) ++
        buf.drop g.bytesPerSample.toNat) := by
  have pair (v : Nat) : (littleEndian v).length = 2 := rfl
  simp only [stroke?, if_neg wide, pair, littleEndian_sample, Option.bind_some, ← place]
  exact Bytes.foldlM_write? front buf room

theorem foldlM_stroke? {g : Geometry} (index : UInt64) (buf : Bytes) {count : Nat}
    (wide : g.width.toNat ≠ 0) (room : count * g.bytesPerSample.toNat ≤ buf.length) :
    (List.range count).foldlM (stroke? g index) buf =
      some ((List.range count).flatMap
          (fun i => sampleBytes g.bytesPerSample.toNat
            (sample (i / g.width.toNat).toUInt32 (i % g.width.toNat).toUInt32 index)) ++
        buf.drop (count * g.bytesPerSample.toNat)) := by
  induction count with
  | zero => simp
  | succ count ih =>
    rw [Nat.succ_mul] at room
    have left : g.bytesPerSample.toNat ≤ (buf.drop (count * g.bytesPerSample.toNat)).length := by
      rw [List.length_drop]
      omega
    have drawn : ((List.range count).flatMap fun i => sampleBytes g.bytesPerSample.toNat
        (sample (i / g.width.toNat).toUInt32 (i % g.width.toNat).toUInt32 index)).length =
          count * g.bytesPerSample.toNat := by
      simp only [List.length_flatMap, length_sampleBytes, List.map_const', List.length_range,
        List.sum_replicate_nat]
    rw [List.range_succ, List.foldlM_append, ih (by omega), List.flatMap_append,
      List.flatMap_singleton, Nat.succ_mul, ← List.drop_drop]
    simpa using stroke?_concat index _ _ wide drawn left

theorem drawByLoop?_eq {g : Geometry} {index : UInt64} {buf : Bytes}
    (length : buf.length = g.frameSize) :
    drawByLoop? g index buf = some (drawGradient g index buf) := by
  by_cases deep : g.bytesPerSample.toNat = 0
  next => simp [drawByLoop?, drawGradient, deep]
  next =>
    rw [drawByLoop?, if_neg deep]
    by_cases wide : g.width.toNat = 0
    next =>
      have empty : buf = [] :=
        List.length_eq_zero_iff.mp (length.trans (g.frameSize_eq_zero.mpr (.inl wide)))
      simp [empty, drawGradient]
    next => exact foldlM_stroke? index buf wide (Nat.div_mul_le_self _ _)

theorem place_lt {rows width row col : Nat} (below : row < rows) (within : col < width) :
    row * width + col < rows * width := by
  have next : (row + 1) * width ≤ rows * width := Nat.mul_le_mul_right width below
  rw [Nat.succ_mul] at next
  omega

theorem gradientByte_place {g : Geometry} (index row : Nat) {col b : Nat}
    (within : col < g.width.toNat) (inside : b < g.bytesPerSample.toNat) :
    (littleEndian (gradientSample row col index))[b % 2]? =
      some (gradientByte g index
        ((row * g.width.toNat + col) * g.bytesPerSample.toNat + b)) := by
  obtain ⟨place, offset⟩ := place_div_mod (row * g.width.toNat + col) inside
  obtain ⟨row_eq, col_eq⟩ := place_div_mod row within
  rw [gradientByte, place, offset, row_eq, col_eq, littleEndian]
  rcases Nat.mod_two_eq_zero_or_one b with even | odd
  · rw [even, if_pos rfl, List.getElem?_cons_zero]
  · rw [odd, if_neg (by decide), List.getElem?_cons_succ, List.getElem?_cons_zero]

theorem exists_place {g : Geometry} {i : Nat}
    (inside : i < g.width.toNat * g.height.toNat * g.bytesPerSample.toNat) :
    ∃ row < g.height.toNat, ∃ col < g.width.toNat, ∃ b < g.bytesPerSample.toNat,
      i = (row * g.width.toNat + col) * g.bytesPerSample.toNat + b := by
  have deep : 0 < g.bytesPerSample.toNat :=
    Nat.pos_of_ne_zero fun zero => by simp [zero] at inside
  have wide : 0 < g.width.toNat := Nat.pos_of_ne_zero fun zero => by simp [zero] at inside
  have sample : i / g.bytesPerSample.toNat < g.height.toNat * g.width.toNat := by
    rw [Nat.mul_comm g.height.toNat]
    exact Nat.div_lt_of_lt_mul (by rwa [Nat.mul_comm])
  refine ⟨i / g.bytesPerSample.toNat / g.width.toNat, ?_,
    i / g.bytesPerSample.toNat % g.width.toNat, Nat.mod_lt _ wide,
    i % g.bytesPerSample.toNat, Nat.mod_lt _ deep, ?_⟩
  · exact Nat.div_lt_of_lt_mul (by rwa [Nat.mul_comm])
  · rw [Nat.div_add_mod', Nat.div_add_mod']

theorem frameSize_eq_of_le {g : Geometry}
    (fits : g.width.toNat * g.height.toNat * g.bytesPerSample.toNat ≤ 2 ^ 63 - 1) :
    g.frameSize = g.width.toNat * g.height.toNat * g.bytesPerSample.toNat := by
  have volume := frameSize_eq_min g
  simp only [Size.limit, UInt64.size] at volume
  omega

theorem getElem?_drawGradient {g : Geometry} {index : UInt64} {buf : Bytes} {row col b : Nat}
    (fits : g.frameSize ≤ Size.pieceLimit) (length : buf.length = g.frameSize)
    (below : row < g.height.toNat) (within : col < g.width.toNat)
    (inside : b < g.bytesPerSample.toNat) :
    (drawGradient g index buf)[(row * g.width.toNat + col) * g.bytesPerSample.toNat + b]? =
      (littleEndian (gradientSample row col index.toNat))[b % 2]? := by
  have place : (row * g.width.toNat + col) * g.bytesPerSample.toNat + b < g.frameSize := by
    rw [frameSize_eq_mul fits, Nat.mul_comm g.width.toNat]
    exact place_lt (place_lt below within) inside
  rw [drawGradient_eq fits length, gradientByte_place _ _ within inside, List.getElem?_map,
    List.getElem?_range place, Option.map_some]

/--
A gradient is drawn without a fault and without a division by zero or a step outside the buffer,
also where a picture has no bytes at all. Where it has some, each of them is a byte of the sample at
its row and column, computed in unbounded numbers, and no byte is left out.
-/
theorem gradient_pixelwise (g : Geometry) (index : UInt64) {buf : Bytes}
    (length : buf.length = g.frameSize) :
    gradient.draw g index buf = ⟨drawGradient g index buf, none⟩ ∧
    drawByLoop? g index buf = some (drawGradient g index buf) ∧
    (g.width.toNat = 0 ∨ g.height.toNat = 0 ∨ g.bytesPerSample.toNat = 0 →
      drawGradient g index buf = []) ∧
    (g.width.toNat * g.height.toNat * g.bytesPerSample.toNat ≤ 2 ^ 63 - 1 →
      buf.length = g.width.toNat * g.height.toNat * g.bytesPerSample.toNat ∧
      (drawGradient g index buf).length = buf.length ∧
      (∀ row < g.height.toNat, ∀ col < g.width.toNat, ∀ b < g.bytesPerSample.toNat,
        (drawGradient g index buf)[(row * g.width.toNat + col) * g.bytesPerSample.toNat + b]? =
          (littleEndian ((row + col + 10 * index.toNat) * 16 % 4096))[b % 2]?) ∧
      ∀ i < buf.length, ∃ row < g.height.toNat, ∃ col < g.width.toNat,
        ∃ b < g.bytesPerSample.toNat,
          i = (row * g.width.toNat + col) * g.bytesPerSample.toNat + b) := by
  refine ⟨by simp [draw, length], drawByLoop?_eq length, fun flat => ?_, fun fits => ?_⟩
  · have empty : (drawGradient g index buf).length = 0 := by
      rw [length_drawGradient, length, g.frameSize_eq_zero.mpr flat]
    exact List.length_eq_zero_iff.mp empty
  · have size := frameSize_eq_of_le fits
    have short : g.frameSize ≤ Size.pieceLimit := size ▸ fits
    refine ⟨length.trans size, length_drawGradient g index buf, ?_, fun i inside => ?_⟩
    · intro row below col within b inside
      exact getElem?_drawGradient short length below within inside
    · exact exists_place (size ▸ length ▸ inside)

theorem gradient_pixelwise_lastIndex :
    (List.replicate 18 255 : Bytes).length = Geometry.frameSize ⟨3, 2, 3⟩ ∧
      (3 * 2 * 3 : Nat) ≤ 2 ^ 63 - 1 ∧
      (drawGradient ⟨3, 2, 3⟩ 0xFFFFFFFFFFFFFFFF (List.replicate 18 255))[16]? = some 15 := by
  have length : (List.replicate 18 255 : Bytes).length = Geometry.frameSize ⟨3, 2, 3⟩ := by decide
  obtain ⟨-, -, -, bytes⟩ := gradient_pixelwise ⟨3, 2, 3⟩ 0xFFFFFFFFFFFFFFFF length
  obtain ⟨-, -, byte, -⟩ := bytes (by decide)
  refine ⟨length, by decide, ?_⟩
  exact (byte 1 (by decide) 2 (by decide) 1 (by decide)).trans (by decide)

def lap (g : Geometry) : Nat := if g.bytesPerSample.toNat = 1 then 8 else 128

theorem littleEndian_low (v : Nat) : (littleEndian v)[0 % 2]? = some v.toUInt8 := rfl

theorem littleEndian_high (v : Nat) : (littleEndian v)[1 % 2]? = some (v / 256).toUInt8 := rfl

theorem mod_lap_of_first {bytes i j : Nat} (deep : 1 ≤ bytes)
    (same : ∀ b < bytes,
      (littleEndian (gradientSample 0 0 i))[b % 2]? =
        (littleEndian (gradientSample 0 0 j))[b % 2]?) :
    i % (if bytes = 1 then 8 else 128) = j % (if bytes = 1 then 8 else 128) := by
  have low := same 0 deep
  rw [littleEndian_low, littleEndian_low, Option.some.injEq, ← UInt8.toNat_inj] at low
  simp only [gradientSample, Nat.toUInt8, UInt8.toNat_ofNat'] at low
  split
  next => omega
  next =>
    have high := same 1 (by omega)
    rw [littleEndian_high, littleEndian_high, Option.some.injEq, ← UInt8.toNat_inj] at high
    simp only [gradientSample, Nat.toUInt8, UInt8.toNat_ofNat'] at high
    omega

theorem littleEndian_of_mod_lap {bytes i j : Nat} (row col : Nat)
    (same : i % (if bytes = 1 then 8 else 128) = j % (if bytes = 1 then 8 else 128)) :
    ∀ b < bytes, (littleEndian (gradientSample row col i))[b % 2]? =
      (littleEndian (gradientSample row col j))[b % 2]? := by
  intro b inside
  split at same
  next one =>
    obtain rfl : b = 0 := by omega
    rw [littleEndian_low, littleEndian_low, Option.some.injEq, ← UInt8.toNat_inj]
    simp only [gradientSample, Nat.toUInt8, UInt8.toNat_ofNat']
    omega
  next =>
    have sample : gradientSample row col i = gradientSample row col j := by
      simp only [gradientSample]
      omega
    rw [sample]

theorem drawGradient_eq_iff {g : Geometry} {i j : UInt64} {buf buf' : Bytes}
    (wide : 1 ≤ g.width.toNat) (high : 1 ≤ g.height.toNat) (deep : 1 ≤ g.bytesPerSample.toNat)
    (fits : g.width.toNat * g.height.toNat * g.bytesPerSample.toNat ≤ 2 ^ 63 - 1)
    (length : buf.length = g.frameSize) (length' : buf'.length = g.frameSize) :
    drawGradient g i buf = drawGradient g j buf' ↔ i.toNat % lap g = j.toNat % lap g := by
  have size := frameSize_eq_of_le fits
  have short : g.frameSize ≤ Size.pieceLimit := size ▸ fits
  constructor
  · intro same
    refine mod_lap_of_first deep fun b inside => ?_
    rw [← getElem?_drawGradient short length high wide inside,
      ← getElem?_drawGradient short length' high wide inside, same]
  · intro same
    refine List.ext_getElem? fun k => ?_
    by_cases inside : k < g.frameSize
    next =>
      obtain ⟨row, below, col, within, b, place, rfl⟩ := exists_place (size ▸ inside)
      rw [getElem?_drawGradient short length below within place,
        getElem?_drawGradient short length' below within place]
      exact littleEndian_of_mod_lap row col same b place
    next =>
      rw [List.getElem?_eq_none (by rw [length_drawGradient]; omega),
        List.getElem?_eq_none (by rw [length_drawGradient]; omega)]

/--
Two gradients of one layout are the same if and only if their numbers agree modulo 128, or modulo 8
where only the low byte of a sample is kept. So a frame differs from the next, and tells its number
among as many successive ones.
-/
theorem gradient_coincide_iff {g : Geometry} {i j : UInt64} {buf buf' : Bytes}
    (wide : 1 ≤ g.width.toNat) (high : 1 ≤ g.height.toNat) (deep : 1 ≤ g.bytesPerSample.toNat)
    (fits : g.width.toNat * g.height.toNat * g.bytesPerSample.toNat ≤ 2 ^ 63 - 1)
    (length : buf.length = g.frameSize) (length' : buf'.length = g.frameSize) :
    (2 ≤ g.bytesPerSample.toNat →
      (gradient.draw g i buf = gradient.draw g j buf' ↔ i.toNat % 128 = j.toNat % 128) ∧
      ∀ first, first ≤ i.toNat → i.toNat < first + 128 → first ≤ j.toNat → j.toNat < first + 128 →
        gradient.draw g i buf = gradient.draw g j buf' → i = j) ∧
    (g.bytesPerSample.toNat = 1 →
      (gradient.draw g i buf = gradient.draw g j buf' ↔ i.toNat % 8 = j.toNat % 8) ∧
      ∀ first, first ≤ i.toNat → i.toNat < first + 8 → first ≤ j.toNat → j.toNat < first + 8 →
        gradient.draw g i buf = gradient.draw g j buf' → i = j) ∧
    (j = i + 1 → gradient.draw g i buf ≠ gradient.draw g j buf') := by
  have drawn (n : UInt64) {bs : Bytes} (h : bs.length = g.frameSize) :
      gradient.draw g n bs = ⟨drawGradient g n bs, none⟩ := by simp [draw, h]
  have coincide : gradient.draw g i buf = gradient.draw g j buf' ↔
      i.toNat % lap g = j.toNat % lap g := by
    rw [drawn i length, drawn j length', Drawing.mk.injEq, and_iff_left rfl]
    exact drawGradient_eq_iff wide high deep fits length length'
  refine ⟨fun two => ?_, fun one => ?_, ?_⟩
  · have laps : lap g = 128 := if_neg (by omega)
    rw [coincide, laps]
    refine ⟨Iff.rfl, fun first _ _ _ _ same => UInt64.toNat_inj.mp (by omega)⟩
  · have laps : lap g = 8 := if_pos one
    rw [coincide, laps]
    refine ⟨Iff.rfl, fun first _ _ _ _ same => UInt64.toNat_inj.mp (by omega)⟩
  · rintro rfl
    rw [Ne, coincide]
    simp only [lap, UInt64.toNat_add, UInt64.reduceToNat]
    split <;> omega

-- 2 ^ 64 - 3 and 125 agree modulo 128, and what was in the buffers does not show
theorem gradient_coincide_iff_wrapped :
    (2 * 1 * 2 : Nat) ≤ 2 ^ 63 - 1 ∧ Geometry.frameSize ⟨2, 1, 2⟩ = 4 ∧
      gradient.draw ⟨2, 1, 2⟩ 0xFFFFFFFFFFFFFFFD [1, 2, 3, 4] =
        gradient.draw ⟨2, 1, 2⟩ 125 [5, 6, 7, 8] ∧
      gradient.draw ⟨2, 1, 2⟩ 124 [1, 2, 3, 4] ≠ gradient.draw ⟨2, 1, 2⟩ 125 [5, 6, 7, 8] := by
  have law (i : UInt64) := @gradient_coincide_iff ⟨2, 1, 2⟩ i 125 [1, 2, 3, 4] [5, 6, 7, 8]
    (by decide) (by decide) (by decide) (by decide) (by decide) (by decide)
  obtain ⟨wrapped, -⟩ := (law 0xFFFFFFFFFFFFFFFD).1 (by decide)
  obtain ⟨-, -, next⟩ := law 124
  exact ⟨by decide, by decide, wrapped.mpr (by decide), next (by decide)⟩

end Pattern

end Framecast
