import Framecast.Toml.Scan

set_option autoImplicit false

namespace Framecast.Toml

def fixedWithin (n low high : Nat) (cs : Chars) : Option (Nat × Chars) :=
  (fixedDigits 10 n cs).bind fun (v, rest) => if low ≤ v ∧ v ≤ high then some (v, rest) else none

def isLeapYear (y : Nat) : Bool := y % 4 = 0 ∧ (y % 100 ≠ 0 ∨ y % 400 = 0)

def daysInMonth (year month : Nat) : Nat :=
  if month = 2 then (if isLeapYear year then 29 else 28)
  else if month = 4 ∨ month = 6 ∨ month = 9 ∨ month = 11 then 30
  else 31

def date (cs : Chars) : Option Chars := do
  let (year, cs) ← fixedDigits 10 4 cs
  let (month, cs) ← fixedWithin 2 1 12 (← exactly '-' cs)
  let (_, cs) ← fixedWithin 2 1 (daysInMonth year month) (← exactly '-' cs)
  return cs

def clock (cs : Chars) : Option Chars := do
  let (_, cs) ← fixedWithin 2 0 23 cs
  let (_, cs) ← fixedWithin 2 0 59 (← exactly ':' cs)
  return cs

def time (cs : Chars) : Option Chars := do
  let cs ← clock cs
  let (_, cs) ← fixedWithin 2 0 60 (← exactly ':' cs)
  match cs with
  | '.' :: d :: rest =>
    if Numeral.isDigit 10 d then some (rest.dropWhile (Numeral.isDigit 10)) else none
  | '.' :: [] => none
  | _ => some cs

def offset : Chars → Option Chars
  | 'Z' :: cs => some cs
  | 'z' :: cs => some cs
  | '+' :: cs => clock cs
  | '-' :: cs => clock cs
  | _ => none

def isDelimiter (c : Char) : Bool := c == 'T' || c == 't' || c == ' '

def timeAfterDate : Chars → Option Chars
  | c :: cs =>
    if isDelimiter c then (time cs).map fun rest => (offset rest).getD rest else none
  | [] => none

def dateTime (cs : Chars) : Option Chars :=
  match date cs with
  | some rest => some ((timeAfterDate rest).getD rest)
  | none => time cs

end Framecast.Toml
