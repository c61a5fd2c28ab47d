import Framecast.Text.Numeral
import Mathlib.Algebra.GroupWithZero.Nat

set_option autoImplicit false

namespace Framecast.Numeral

variable {base n d k : Nat} {c : Char}

theorem digit?_digitChar (small : base ≤ 16) (digit : d < base) :
    digit? base (digitChar d) = some d := by
  have all : ∀ base < 17, ∀ d < base, digit? base (digitChar d) = some d := by decide
  exact all base (by omega) d digit

theorem digitChar_eq (digit : d < 16) : digitChar d = Nat.digitChar d := by
  have all : ∀ d < 16, digitChar d = Nat.digitChar d := by decide
  exact all d digit

theorem isDigit_digitChar (small : base ≤ 16) (digit : d < base) :
    isDigit base (digitChar d) = true := by
  simp [isDigit, digit?_digitChar small digit]

theorem write_of_lt (digit : n < base) : write base n = [digitChar n] := by
  rw [write, dif_pos (.inl digit)]

theorem write_of_le (two : 2 ≤ base) (large : base ≤ n) :
    write base n = write base (n / base) ++ [digitChar (n % base)] := by
  rw [write, dif_neg (by omega)]

-- a number has one digit, or it is what its front digits stand for and one digit more
theorem digit_induction {motive : Nat → Prop} (two : 2 ≤ base)
    (digit : ∀ n < base, motive n)
    (next : ∀ n, base ≤ n → motive (n / base) → motive n) (n : Nat) : motive n := by
  induction n using Nat.strongRecOn with
  | ind n ih =>
    rcases Nat.lt_or_ge n base with small | large
    · exact digit n small
    · exact next n large (ih (n / base) (Nat.div_lt_self (by omega) two))

theorem write_eq_toDigits (two : 2 ≤ base) (small : base ≤ 16) (n : Nat) :
    write base n = Nat.toDigits base n := by
  induction n using digit_induction two with
  | digit n digit =>
    rw [write_of_lt digit, Nat.toDigits_of_lt_base digit, digitChar_eq (by omega)]
  | next n large ih =>
    have last : n % base < base := Nat.mod_lt n (by omega)
    rw [Nat.toDigits_eq_if two, if_neg (by omega), write_of_le two large, ih,
      digitChar_eq (by omega)]

theorem write_ne_nil (base n : Nat) : write base n ≠ [] := by
  rw [write]
  split <;> simp

theorem exists_digit_of_mem_write (two : 2 ≤ base) (member : c ∈ write base n) :
    ∃ d < base, c = digitChar d := by
  induction n using digit_induction two with
  | digit n digit =>
    rw [write_of_lt digit, List.mem_singleton] at member
    exact ⟨n, digit, member⟩
  | next n large ih =>
    rw [write_of_le two large, List.mem_append, List.mem_singleton] at member
    rcases member with front | last
    · exact ih front
    · exact ⟨n % base, Nat.mod_lt n (by omega), last⟩

theorem isDigit_of_mem_write (two : 2 ≤ base) (small : base ≤ 16) (member : c ∈ write base n) :
    isDigit base c = true := by
  obtain ⟨d, digit, rfl⟩ := exists_digit_of_mem_write two member
  exact isDigit_digitChar small digit

theorem isUpper_of_mem_write (two : 2 ≤ base) (small : base ≤ 16) (member : c ∈ write base n) :
    c.isUpper = false := by
  have all : ∀ d < 16, (digitChar d).isUpper = false := by decide
  obtain ⟨d, digit, rfl⟩ := exists_digit_of_mem_write two member
  exact all d (by omega)

theorem length_write_le (two : 2 ≤ base) (small : base ≤ 16) (pos : 0 < k) (bound : n < base ^ k) :
    (write base n).length ≤ k := by
  rw [write_eq_toDigits two small]
  exact (Nat.length_toDigits_le_iff two pos).mpr bound

theorem length_write_eq_log10 (n : Nat) : (write 10 n).length = log10 n + 1 := by
  induction n using digit_induction (by decide : 2 ≤ 10) with
  | digit n digit => rw [log10, if_pos digit, write_of_lt digit, List.length_singleton]
  | next n large ih =>
    rw [log10, if_neg (by omega), write_of_le (by decide) large, List.length_append, ih,
      List.length_singleton]

theorem head?_write_ne (two : 2 ≤ base) (small : base ≤ 16) (pos : 0 < n) :
    (write base n).head? ≠ some '0' := by
  induction n using digit_induction two with
  | digit n digit =>
    have all : ∀ d < 16, 0 < d → digitChar d ≠ '0' := by decide
    rw [write_of_lt digit, List.head?_cons, Ne, Option.some.injEq]
    exact all n (by omega) pos
  | next n large ih =>
    have front : (write base (n / base)).head?.isSome :=
      List.isSome_head?.mpr (write_ne_nil base _)
    -- the front digits are those of a smaller number, which is not zero either
    rw [write_of_le two large, List.head?_append, Option.or_of_isSome front]
    exact ih (Nat.div_pos large (by omega))

theorem readFrom_append (base acc : Nat) (cs ds : List Char) :
    readFrom base acc (cs ++ ds) =
      (readFrom base acc cs).bind fun n => readFrom base n ds := by
  induction cs generalizing acc with
  | nil => rfl
  | cons c cs ih =>
    rw [List.cons_append, readFrom, readFrom, Option.bind_assoc]
    simp only [ih]

theorem readFrom_write (two : 2 ≤ base) (small : base ≤ 16) (n : Nat) :
    readFrom base 0 (write base n) = some n := by
  induction n using digit_induction two with
  | digit n digit =>
    rw [write_of_lt digit, readFrom, digit?_digitChar small digit]
    simp [readFrom]
  | next n large ih =>
    have last : n % base < base := Nat.mod_lt n (by omega)
    rw [write_of_le two large, readFrom_append, ih, Option.bind_some, readFrom,
      digit?_digitChar small last, Option.bind_some, readFrom, Nat.mul_comm, Nat.div_add_mod]

theorem read?_write (two : 2 ≤ base) (small : base ≤ 16) (n : Nat) :
    read? base (write base n) = some n := by
  rw [← readFrom_write two small n]
  cases written : write base n with
  | nil => exact absurd written (write_ne_nil base n)
  | cons c cs => rfl

theorem write_injective (two : 2 ≤ base) (small : base ≤ 16) {m n : Nat}
    (same : write base m = write base n) : m = n := by
  have value := read?_write two small m
  rw [same, read?_write two small n] at value
  exact (Option.some.inj value).symm

end Framecast.Numeral
