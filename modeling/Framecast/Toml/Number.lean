import Framecast.Toml.Item
import Framecast.Toml.Scan

set_option autoImplicit false

namespace Framecast.Toml

def smallest : Int := -9223372036854775808

def largest : Int := 9223372036854775807

def inRange (n : Int) : Option Int := if smallest ≤ n ∧ n ≤ largest then some n else none

def sign : Chars → Bool × Chars
  | '+' :: cs => (false, cs)
  | '-' :: cs => (true, cs)
  | cs => (false, cs)

def applySign (negative : Bool) (n : Nat) : Int := if negative then -(n : Int) else n

def wholeDigits : Scan Chars
  | '0' :: cs => some (['0'], cs)
  | cs => digits 10 cs

def valueOf (base : Nat) (ds : Chars) : Nat := (Numeral.read? base ds).getD 0

def prefixed (base : Nat) (cs : Chars) : Option (Int × Chars) := do
  let (ds, rest) ← digits base cs
  return (← inRange (valueOf base ds), rest)

def integer : Scan Int
  | '0' :: 'x' :: cs => prefixed 16 cs
  | '0' :: 'o' :: cs => prefixed 8 cs
  | '0' :: 'b' :: cs => prefixed 2 cs
  | cs => do
    let (negative, cs) := sign cs
    let (ds, rest) ← wholeDigits cs
    return (← inRange (applySign negative (valueOf 10 ds)), rest)

def fraction : Scan Chars
  | '.' :: cs => digits 10 cs
  | _ => none

def power : Scan Int
  | c :: cs =>
    if c = 'e' ∨ c = 'E' then do
      let (negative, cs) := sign cs
      let (ds, rest) ← digits 10 cs
      return (applySign negative (valueOf 10 ds), rest)
    else none
  | [] => none

def rounded (negative : Bool) (ds : Chars) (exponent : Int) : Option FloatValue :=
  match Decimal.nearest? (valueOf 10 ds) ds.length exponent with
  | some b => some (.finite negative b)
  | none => if negative then some (.infinite true) else none

inductive Fractional where
  -- neither a fraction nor a power follows the digits
  | absent
  | present (value : Option FloatValue) (rest : Chars)

def fractional (cs : Chars) : Fractional :=
  let (negative, cs) := sign cs
  match wholeDigits cs with
  | none => .absent
  | some (whole, cs) =>
    match power cs with
    | some (e, rest) => .present (rounded negative whole e) rest
    | none =>
      match fraction cs with
      | none => .absent
      | some (part, cs) =>
        let (e, rest) := (power cs).getD (0, cs)
        .present (rounded negative (whole ++ part) (e - part.length)) rest

def special (cs : Chars) : Option (FloatValue × Chars) :=
  let (negative, cs) := sign cs
  match cs with
  | 'i' :: 'n' :: 'f' :: rest => some (.infinite negative, rest)
  | 'n' :: 'a' :: 'n' :: rest => some (.nan, rest)
  | _ => none

def number (cs : Chars) : Option (Item × Chars) :=
  match fractional cs with
  | .present value rest => value.map fun x => (.float x, rest)
  | .absent =>
    match special cs with
    | some (x, rest) => some (.float x, rest)
    | none => (integer cs).map fun (n, rest) => (.integer n, rest)

end Framecast.Toml
