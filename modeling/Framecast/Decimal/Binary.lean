set_option autoImplicit false

namespace Framecast.Decimal

structure Binary where
  significand : Nat
  exponent : Int
  deriving DecidableEq, Repr

namespace Binary

def lowestExponent : Int := -1074

def highestExponent : Int := 971

def zero : Binary := ⟨0, lowestExponent⟩

end Binary

def roundHalfEven (num den : Nat) : Nat :=
  let q := num / den
  let twice := 2 * (num % den)
  if twice < den then q
  else if den < twice then q + 1
  else if q % 2 = 0 then q
  else q + 1

def scaleDown (num den : Nat) (e : Int) : Nat × Nat :=
  if 0 ≤ e then (num, den * Nat.pow 2 e.toNat) else (num * Nat.pow 2 (-e).toNat, den)

def Binary.ofFraction? (num den : Nat) : Option Binary :=
  if num = 0 then some .zero
  else
    let guess : Int := (num.log2 : Int) - den.log2 - 53
    let (n, d) := scaleDown num den guess
    let fitted := if Nat.pow 2 53 ≤ n / d then guess + 1 else guess
    let e := max fitted lowestExponent
    let (n, d) := scaleDown num den e
    let m := roundHalfEven n d
    let b : Binary := if m = Nat.pow 2 53 then ⟨Nat.pow 2 52, e + 1⟩ else ⟨m, e⟩
    if highestExponent < b.exponent then none else some b

/--
The nearest double to `digits * 10 ^ exponent`, where `digits` is written with `count` digits. A
large exponent leads beyond every double, and a small one below half the smallest.
-/
def nearest? (digits count : Nat) (exponent : Int) : Option Binary :=
  if digits = 0 then some .zero
  else if 400 < exponent then none
  else if (count : Int) + exponent < -400 then some .zero
  else if 0 ≤ exponent then Binary.ofFraction? (digits * Nat.pow 10 exponent.toNat) 1
  else Binary.ofFraction? digits (Nat.pow 10 (-exponent).toNat)

end Framecast.Decimal
