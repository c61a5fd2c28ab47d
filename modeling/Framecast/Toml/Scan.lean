import Framecast.Text.Numeral

set_option autoImplicit false

namespace Framecast.Toml

abbrev Chars := List Char

abbrev Scan (α : Type) := Chars → Option (α × Chars)

def isBlank (c : Char) : Bool := c == ' ' || c == '\t'

def skipBlanks (cs : Chars) : Chars := cs.dropWhile isBlank

def exactly (c : Char) : Chars → Option Chars
  | [] => none
  | d :: cs => if d = c then some cs else none

def newline : Chars → Option Chars
  | '\n' :: cs => some cs
  | '\r' :: '\n' :: cs => some cs
  | _ => none

def inComment (c : Char) : Bool := c == '\t' || (' ' ≤ c && c ≤ '~') || '\x80' ≤ c

def skipComment : Chars → Chars
  | '#' :: cs => cs.dropWhile inComment
  | cs => cs

def endOfLine (cs : Chars) : Option Chars :=
  match skipComment (skipBlanks cs) with
  | [] => some []
  | rest => newline rest

def skipLines : Nat → Chars → Chars
  | 0, cs => cs
  | fuel + 1, cs =>
    let cs := skipBlanks cs
    match newline (skipComment cs) with
    | some rest => skipLines fuel rest
    | none => cs

def skipGap (cs : Chars) : Chars := skipLines (cs.length + 1) cs

-- as many digits as there are, single underscores between them, and without the underscores
def digitRun (base : Nat) : Chars → Chars × Chars
  | '_' :: c :: cs =>
    if Numeral.isDigit base c then
      let (ds, rest) := digitRun base cs
      (c :: ds, rest)
    else ([], '_' :: c :: cs)
  | c :: cs =>
    if Numeral.isDigit base c then
      let (ds, rest) := digitRun base cs
      (c :: ds, rest)
    else ([], c :: cs)
  | [] => ([], [])

def digits (base : Nat) : Scan Chars
  | c :: cs =>
    if Numeral.isDigit base c then
      let (ds, rest) := digitRun base cs
      some (c :: ds, rest)
    else none
  | [] => none

def fixedDigits (base n : Nat) (cs : Chars) : Option (Nat × Chars) :=
  let front := cs.take n
  if front.length = n ∧ front.all (Numeral.isDigit base) then
    (Numeral.read? base front).map fun v => (v, cs.drop n)
  else none

end Framecast.Toml
