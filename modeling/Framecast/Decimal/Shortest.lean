import Framecast.Decimal.Binary
import Framecast.Text.Numeral

set_option autoImplicit false

namespace Framecast.Decimal

structure Digits where
  digits : Nat
  exponent : Int
  deriving DecidableEq, Repr

/-- The reals that round to a double, as numerators over one denominator. -/
structure Interval where
  low : Nat
  value : Nat
  high : Nat
  den : Nat
  -- whether the two ends round to the double as well
  closed : Bool
  deriving DecidableEq, Repr

-- the distance to the double below is halved at a power of two
def Binary.interval (b : Binary) : Interval :=
  let m := b.significand
  let below := if m = Nat.pow 2 52 ∧ lowestExponent < b.exponent then 1 else 2
  let e := b.exponent - 2
  let scale (n : Nat) : Nat := if 0 ≤ e then n * Nat.pow 2 e.toNat else n
  { low := scale (4 * m - below)
    value := scale (4 * m)
    high := scale (4 * m + 2)
    den := if 0 ≤ e then 1 else Nat.pow 2 (-e).toNat
    closed := m % 2 = 0 }

namespace Interval

def holds (i : Interval) (n : Nat) (e : Int) : Bool :=
  let up := if 0 ≤ e then Nat.pow 10 e.toNat else 1
  let down := if 0 ≤ e then 1 else Nat.pow 10 (-e).toNat
  let point := n * up * i.den
  if i.closed then i.low * down ≤ point && point ≤ i.high * down
  else i.low * down < point && point < i.high * down

def neighbours (i : Interval) (e : Int) : List Nat :=
  let num := if 0 ≤ e then i.value else i.value * Nat.pow 10 (-e).toNat
  let den := if 0 ≤ e then i.den * Nat.pow 10 e.toNat else i.den
  let below := num / den
  if 2 * (num % den) < den then [below, below + 1] else [below + 1, below]

-- the point on the grid of `10 ^ e` that stands for the value, if there is one
def point? (i : Interval) (e : Int) : Option Nat :=
  (i.neighbours e).find? fun n => i.holds n e

end Interval

/-- The coarsest grid, from `10 ^ top` down, with a point that stands for the value. -/
def searchGrid (i : Interval) : Nat → Int → Option Digits
  | 0, _ => none
  | steps + 1, e =>
    match i.point? e with
    | some n => if n = 0 then searchGrid i steps (e - 1) else some ⟨n, e⟩
    | none => searchGrid i steps (e - 1)

-- a power of ten above the value: three bits make less than a digit
def topExponent (b : Binary) : Int :=
  let bits := (b.significand.log2 : Int) + b.exponent
  if 0 ≤ bits then bits / 3 + 1 else -(-bits * 3 / 10) + 1

def Digits.trim : Nat → Digits → Digits
  | 0, d => d
  | fuel + 1, d =>
    if d.digits ≠ 0 ∧ d.digits % 10 = 0 then trim fuel ⟨d.digits / 10, d.exponent + 1⟩ else d

def shortest (b : Binary) : Digits :=
  if b.significand = 0 then ⟨0, 0⟩
  else
    match searchGrid b.interval 400 (topExponent b) with
    | some d => d.trim 400
    | none => ⟨b.significand, 0⟩

def Digits.positional (d : Digits) : List Char :=
  let ds := Numeral.write 10 d.digits
  if 0 ≤ d.exponent then
    (if d.digits = 0 then ds else ds ++ List.replicate d.exponent.toNat '0') ++ ['.', '0']
  else
    let places := (-d.exponent).toNat
    if places < ds.length then
      ds.take (ds.length - places) ++ '.' :: ds.drop (ds.length - places)
    else '0' :: '.' :: List.replicate (places - ds.length) '0' ++ ds

end Framecast.Decimal
