import Framecast.Proofs.Picture.Drawing
import Framecast.Proofs.Text.Numerals

set_option autoImplicit false

namespace Framecast

namespace Cursor

theorem write_of_le {c : Cursor} {piece : Bytes} (fits : piece.length ≤ c.room.length) :
    c.write piece = .ok ⟨c.filled ++ piece, c.room.drop piece.length⟩ := by
  simp only [write, if_pos fits, List.take_of_length_le fits]

theorem write_of_lt {c : Cursor} {piece : Bytes} (beyond : c.room.length < piece.length) :
    c.write piece = .error ⟨c.filled ++ piece.take c.room.length, []⟩ := by
  simp only [write, if_neg (Nat.not_le.mpr beyond), List.drop_of_length_le (Nat.le_of_lt beyond)]

theorem writeAll_of_le {c : Cursor} {pieces : List Bytes}
    (fits : pieces.flatten.length ≤ c.room.length) :
    c.writeAll pieces = .ok ⟨c.filled ++ pieces.flatten, c.room.drop pieces.flatten.length⟩ := by
  induction pieces generalizing c with
  | nil => simp [writeAll]
  | cons piece pieces ih =>
    rw [List.flatten_cons, List.length_append] at fits
    simp only [writeAll, write_of_le (Nat.le_of_add_right_le fits)]
    rw [ih (by rw [List.length_drop]; omega), List.flatten_cons, List.length_append,
      List.append_assoc, List.drop_drop]

theorem writeAll_of_lt {c : Cursor} {pieces : List Bytes}
    (beyond : c.room.length < pieces.flatten.length) :
    c.writeAll pieces = .error ⟨c.filled ++ pieces.flatten.take c.room.length, []⟩ := by
  induction pieces generalizing c with
  | nil => simp at beyond
  | cons piece pieces ih =>
    rw [List.flatten_cons, List.length_append] at beyond
    rw [List.flatten_cons, List.take_append]
    by_cases fits : piece.length ≤ c.room.length
    next =>
      simp only [writeAll, write_of_le fits]
      rw [ih (by rw [List.length_drop]; omega), List.take_of_length_le fits, List.length_drop,
        List.append_assoc]
    next =>
      -- the piece breaks off, and what follows it is not looked at
      have left : c.room.length - piece.length = 0 := by omega
      simp only [writeAll, write_of_lt (Nat.not_le.mp fits), left, List.take_zero, List.append_nil]

end Cursor

namespace Pattern

theorem drawPieces_eq {index : UInt64} {pieces : List Bytes} (buf : Bytes)
    (whole : pieces.flatten = record index) : drawPieces index pieces buf = drawText index buf := by
  by_cases fits : (record index).length ≤ buf.length
  next =>
    have room : pieces.flatten.length ≤ (⟨[], buf⟩ : Cursor).room.length := whole ▸ fits
    simp only [drawPieces, Cursor.writeAll_of_le room, whole, drawText, if_pos fits,
      List.nil_append, List.length_drop]
  next =>
    have short := Nat.not_le.mp fits
    have beyond : (⟨[], buf⟩ : Cursor).room.length < pieces.flatten.length := whole ▸ short
    simp only [drawPieces, Cursor.writeAll_of_lt beyond, whole, drawText, if_neg fits,
      List.nil_append, List.append_nil, Bytes.overlay_of_ge (Nat.le_of_lt short)]

theorem record_eq (index : UInt64) :
    record index = Bytes.ofAscii ("frame " ++ index.toNat.repr ++ "\n").toList := by
  simp [record, Nat.repr, Numeral.write_eq_toDigits]

theorem recordLength_eq (index : UInt64) : recordLength index = (record index).length := by
  have digits : (if index = 0 then 1 else Numeral.log10 index.toNat + 1) =
      (Numeral.write 10 index.toNat).length := by
    rw [Numeral.length_write_eq_log10]
    split
    next zero => rw [zero, UInt64.toNat_zero, Numeral.log10, if_pos (by decide)]
    next => rfl
  simp only [recordLength, digits, record, Bytes.length_ofAscii, List.length_append,
    List.length_cons, List.length_nil]

theorem narrow_of_mem_line {index : UInt64} {c : Char}
    (member : c ∈ ['f', 'r', 'a', 'm', 'e', ' '] ++ Numeral.write 10 index.toNat ++ ['\n']) :
    0 < c.toNat ∧ c.toNat < 128 := by
  rw [List.mem_append, List.mem_append] at member
  rcases member with (word | digit) | newline
  · have all : ∀ c ∈ ['f', 'r', 'a', 'm', 'e', ' '], 0 < c.toNat ∧ c.toNat < 128 := by simp
    exact all c word
  · rw [Numeral.write_eq_toDigits (by decide) (by decide)] at digit
    have range : 48 ≤ c.toNat ∧ c.toNat ≤ 57 :=
      Char.isDigit_iff_toNat.mp (Nat.isDigit_of_mem_toDigits (by decide) (by decide) digit)
    omega
  · rw [List.mem_singleton.mp newline]
    decide

theorem toNat_toUInt8 {c : Char} (narrow : c.toNat < 128) : c.toUInt8.toNat = c.toNat := by
  have wide : c.val.toNat < 2 ^ 8 := Nat.lt_trans narrow (by decide)
  exact (UInt32.toNat_toUInt8 c.val).trans (Nat.mod_eq_of_lt wide)

theorem chars_record (index : UInt64) :
    (record index).map Char.ofUInt8 =
      ['f', 'r', 'a', 'm', 'e', ' '] ++ Numeral.write 10 index.toNat ++ ['\n'] := by
  rw [record, Bytes.ofAscii, List.map_map]
  refine (List.map_congr_left fun c member => ?_).trans (List.map_id _)
  apply Char.toNat_inj.mp
  exact (UInt8.toNat_toUInt32 c.toUInt8).trans (toNat_toUInt8 (narrow_of_mem_line member).2)

theorem ne_zero_of_mem_record {index : UInt64} {b : UInt8} (member : b ∈ record index) :
    b ≠ 0 := by
  obtain ⟨c, inside, rfl⟩ := List.mem_map.mp member
  obtain ⟨pos, narrow⟩ := narrow_of_mem_line inside
  intro zero
  have value := toNat_toUInt8 narrow
  rw [zero, UInt8.toNat_zero] at value
  omega

theorem takeWhile_record (index : UInt64) (n : Nat) :
    (record index ++ Bytes.zeros n).takeWhile (· != 0) = record index := by
  have line : ∀ b ∈ record index, (b != 0) = true := fun b member => by
    simpa using ne_zero_of_mem_record member
  rw [List.takeWhile_append_of_pos line]
  cases n <;> simp [Bytes.zeros, List.replicate_succ]

theorem eq_of_record {i j : UInt64} {m n : Nat}
    (same : record i ++ Bytes.zeros m = record j ++ Bytes.zeros n) : i = j := by
  -- no byte of a line is zero, so the line ends where the zeros begin
  have lines : record i = record j := by
    rw [← takeWhile_record i m, same, takeWhile_record]
  have chars := congrArg (List.map Char.ofUInt8) lines
  rw [chars_record, chars_record, List.append_left_inj, List.append_right_inj] at chars
  exact UInt64.toNat_inj.mp (Numeral.write_injective (by decide) (by decide) chars)

theorem drawText_of_le {index : UInt64} {buf : Bytes} (fits : (record index).length ≤ buf.length) :
    drawText index buf =
      ⟨record index ++ Bytes.zeros (buf.length - (record index).length), none⟩ := by
  rw [drawText, if_pos fits]

theorem drawText_of_lt {index : UInt64} {buf : Bytes}
    (beyond : buf.length < (record index).length) :
    drawText index buf =
      ⟨(record index).take buf.length,
        some (.tooSmall (record index).length buf.length)⟩ := by
  rw [drawText, if_neg (Nat.not_le.mpr beyond), Bytes.overlay_of_ge (Nat.le_of_lt beyond),
    recordLength_eq]

theorem buffer_of_clean {g : Geometry} {index : UInt64} {buf : Bytes}
    (clean : (text.draw g index buf).fault = none) :
    ∃ n, (text.draw g index buf).buffer = record index ++ Bytes.zeros n := by
  simp only [draw, drawText] at clean ⊢
  split at clean
  next length =>
    split at clean
    next fits => exact ⟨_, by rw [if_pos length, if_pos fits]⟩
    next => simp at clean
  next => simp at clean

/--
A line of text is drawn if and only if it fits: then the buffer is the line and zeros after it,
whatever it held, and else it is as much of the line as there is room for. However the line is cut
into pieces on its way, the length that is complained of is the length of the line that is written.
A line that fits tells its number.
-/
theorem text_exact (g : Geometry) (index : UInt64) (buf : Bytes) :
    record index = Bytes.ofAscii ("frame " ++ index.toNat.repr ++ "\n").toList ∧
    recordLength index = (record index).length ∧
    (buf.length ≠ g.frameSize →
      text.draw g index buf = ⟨buf, some (.sizeMismatch g.frameSize buf.length)⟩) ∧
    (buf.length = g.frameSize →
      ((text.draw g index buf).fault = none ↔ (record index).length ≤ buf.length) ∧
      ((record index).length ≤ buf.length →
        text.draw g index buf =
          ⟨record index ++ Bytes.zeros (buf.length - (record index).length), none⟩) ∧
      (buf.length < (record index).length →
        text.draw g index buf =
          ⟨(record index).take buf.length,
            some (.tooSmall (record index).length buf.length)⟩) ∧
      ∀ pieces : List Bytes, pieces.flatten = record index →
        drawPieces index pieces buf = text.draw g index buf) ∧
    ∀ (g' : Geometry) (other : UInt64) (buf' : Bytes),
      (text.draw g index buf).fault = none → (text.draw g' other buf').fault = none →
        (text.draw g index buf).buffer = (text.draw g' other buf').buffer → index = other := by
  refine ⟨record_eq index, recordLength_eq index, fun wrong => ?_, fun length => ?_, ?_⟩
  · simp [draw, wrong]
  · have drawn : text.draw g index buf = drawText index buf := by simp [draw, length]
    rw [drawn]
    refine ⟨⟨fun clean => ?_, fun fits => ?_⟩, drawText_of_le, drawText_of_lt, fun _ whole =>
      drawPieces_eq buf whole⟩
    · refine Nat.not_lt.mp fun beyond => ?_
      rw [drawText_of_lt beyond] at clean
      simp at clean
    · rw [drawText_of_le fits]
  · intro g' other buf' clean clean' same
    obtain ⟨n, shown⟩ := buffer_of_clean clean
    obtain ⟨n', shown'⟩ := buffer_of_clean clean'
    rw [shown, shown'] at same
    exact eq_of_record same

-- one digit more, and the line does not fit any longer
theorem text_exact_hundred :
    text.draw ⟨3, 3, 1⟩ 99 (List.replicate 9 170) = ⟨record 99, none⟩ ∧
      text.draw ⟨3, 3, 1⟩ 100 (List.replicate 9 170) =
        ⟨(record 100).take 9, some (.tooSmall 10 9)⟩ := by
  obtain ⟨line, -, -, drawn, -⟩ := text_exact ⟨3, 3, 1⟩ 99 (List.replicate 9 170)
  obtain ⟨line', -, -, drawn', -⟩ := text_exact ⟨3, 3, 1⟩ 100 (List.replicate 9 170)
  have short : (record 99).length = 9 := by rw [line]; decide
  have long : (record 100).length = 10 := by rw [line']; decide
  obtain ⟨-, whole, -⟩ := drawn (by decide)
  obtain ⟨-, -, cut, -⟩ := drawn' (by decide)
  rw [short] at whole
  rw [long] at cut
  exact ⟨(whole (by decide)).trans (by simp [Bytes.zeros]), cut (by decide)⟩

end Pattern

end Framecast
