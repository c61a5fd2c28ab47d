import Framecast.Frame.Picture

set_option autoImplicit false

namespace Framecast.Pattern

theorem length_drawGradient (g : Geometry) (index : UInt64) (buf : Bytes) :
    (drawGradient g index buf).length = buf.length := by
  have whole := Nat.div_mul_le_self buf.length g.bytesPerSample.toNat
  simp only [drawGradient, List.length_append, List.length_flatMap, length_sampleBytes,
    List.map_const', List.length_range, List.sum_replicate_nat, List.length_drop]
  omega

theorem length_drawText (index : UInt64) (buf : Bytes) :
    (drawText index buf).buffer.length = buf.length := by
  simp only [drawText]
  split
  next fits =>
    simp only [List.length_append, Bytes.length_zeros]
    omega
  next => exact Bytes.length_overlay _ _

theorem length_draw (p : Pattern) (g : Geometry) (index : UInt64) (buf : Bytes) :
    (p.draw g index buf).buffer.length = buf.length := by
  simp only [draw]
  split
  next =>
    cases p with
    | gradient => exact length_drawGradient g index buf
    | text => exact length_drawText index buf
  next => rfl

theorem map_range_mul (f : Nat → UInt8) (count step : Nat) :
    (List.range (count * step)).map f =
      (List.range count).flatMap fun i => (List.range step).map fun b => f (i * step + b) := by
  induction count with
  | zero => simp
  | succ count ih =>
    rw [Nat.succ_mul, List.range_add, List.map_append, ih, List.range_succ, List.flatMap_append,
      List.map_map, List.flatMap_singleton]
    rfl

theorem toNat_sample (row col : Nat) (index : UInt64) :
    (sample row.toUInt32 col.toUInt32 index).toNat = gradientSample row col index.toNat := by
  simp only [sample, gradientSample, Nat.toUInt32, UInt32.toNat_toUInt16, UInt32.toNat_mod,
    UInt32.toNat_mul, UInt32.toNat_add, UInt32.toNat_ofNat', UInt64.toNat_toUInt32,
    UInt32.reduceToNat]
  omega

theorem toUInt8_sample {s : UInt16} {value : Nat} (same : s.toNat = value) :
    s.toUInt8 = value.toUInt8 ∧ (s >>> 8).toUInt8 = (value / 256).toUInt8 := by
  refine ⟨UInt8.toNat_inj.mp ?_, UInt8.toNat_inj.mp ?_⟩
  · simp [same]
  · simp [same, Nat.shiftRight_eq_div_pow]

theorem place_div_mod (i : Nat) {width b : Nat} (within : b < width) :
    (i * width + b) / width = i ∧ (i * width + b) % width = b := by
  refine ⟨?_, ?_⟩
  · rw [Nat.mul_comm, Nat.mul_add_div (by omega), Nat.div_eq_of_lt within, Nat.add_zero]
  · rw [Nat.mul_comm, Nat.mul_add_mod, Nat.mod_eq_of_lt within]

theorem sampleBytes_eq {g : Geometry} {index : UInt64} (i : Nat) :
    sampleBytes g.bytesPerSample.toNat
        (sample (i / g.width.toNat).toUInt32 (i % g.width.toNat).toUInt32 index) =
      (List.range g.bytesPerSample.toNat).map fun b =>
        gradientByte g index.toNat (i * g.bytesPerSample.toNat + b) := by
  refine List.map_congr_left fun b member => ?_
  obtain ⟨place, offset⟩ := place_div_mod i (List.mem_range.mp member)
  obtain ⟨low, high⟩ :=
    toUInt8_sample (toNat_sample (i / g.width.toNat) (i % g.width.toNat) index)
  rw [gradientByte, place, offset, low, high]

theorem frameSize_eq_min (g : Geometry) :
    g.frameSize = min (g.width.toNat * g.height.toNat * g.bytesPerSample.toNat) Size.limit := by
  have area : g.width.toNat * g.height.toNat ≤ Size.limit := by
    have width := g.width.toNat_lt
    have height := g.height.toNat_lt
    have product : g.width.toNat * g.height.toNat ≤ (2 ^ 32 - 1) * (2 ^ 32 - 1) :=
      Nat.mul_le_mul (by omega) (by omega)
    simp only [Size.limit, UInt64.size]
    omega
  rw [Geometry.frameSize, Size.mul_of_le area, Size.mul]

theorem frameSize_eq_mul {g : Geometry} (fits : g.frameSize ≤ Size.pieceLimit) :
    g.frameSize = g.width.toNat * g.height.toNat * g.bytesPerSample.toNat := by
  have volume := frameSize_eq_min g
  simp only [Size.limit, Size.pieceLimit, UInt64.size] at volume fits
  omega

theorem drawGradient_eq {g : Geometry} {index : UInt64} {buf : Bytes}
    (fits : g.frameSize ≤ Size.pieceLimit) (length : buf.length = g.frameSize) :
    drawGradient g index buf = (List.range g.frameSize).map (gradientByte g index.toNat) := by
  have whole : buf.length / g.bytesPerSample.toNat * g.bytesPerSample.toNat = buf.length := by
    rw [length, frameSize_eq_mul fits]
    exact Nat.div_mul_cancel (Nat.dvd_mul_left _ _)
  simp only [drawGradient, sampleBytes_eq]
  rw [← map_range_mul, whole, List.drop_length, List.append_nil, length]

theorem picture_of_draw {p : Pattern} {g : Geometry} {index : UInt64} {buf : Bytes}
    (fits : g.frameSize ≤ Size.pieceLimit) (drawn : (p.draw g index buf).fault = none) :
    p.picture g index = some (p.draw g index buf).buffer := by
  by_cases length : buf.length = g.frameSize
  next =>
    cases p with
    | gradient => simp [draw, length, picture, drawGradient_eq fits length]
    | text =>
      simp only [draw, length, if_true, drawText] at drawn ⊢
      split at drawn
      next short =>
        rw [if_pos short]
        simp [picture, textPicture, short]
      next => simp at drawn
  next => simp [draw, length] at drawn

end Framecast.Pattern
