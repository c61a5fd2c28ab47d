import Framecast.Toml.Scan

set_option autoImplicit false

namespace Framecast.Toml

def escaped : Char → Option Char
  | 'b' => some '\x08'
  | 't' => some '\t'
  | 'n' => some '\n'
  | 'f' => some '\x0c'
  | 'r' => some '\r'
  | '"' => some '"'
  | '\\' => some '\\'
  | _ => none

def scalar (n : Nat) : Option Char := if n.isValidChar then some (Char.ofNat n) else none

def escape : Scan Char
  | 'u' :: cs => (fixedDigits 16 4 cs).bind fun (n, rest) => (scalar n).map (·, rest)
  | 'U' :: cs => (fixedDigits 16 8 cs).bind fun (n, rest) => (scalar n).map (·, rest)
  | c :: cs => (escaped c).map (·, cs)
  | [] => none

def isPlain (quote : Char) (escapes : Bool) (c : Char) : Bool :=
  inComment c && c != quote && !(escapes && c == '\\')

def singleLine (quote : Char) (escapes : Bool) : Nat → Scan Chars
  | 0, _ => none
  | _, [] => none
  | fuel + 1, c :: cs =>
    if c = quote then some ([], cs)
    else if escapes && c == '\\' then do
      let (e, rest) ← escape cs
      let (s, rest) ← singleLine quote escapes fuel rest
      return (e :: s, rest)
    else if isPlain quote escapes c then do
      let (s, rest) ← singleLine quote escapes fuel cs
      return (c :: s, rest)
    else none

def skipContinued : Nat → Chars → Chars
  | 0, cs => cs
  | fuel + 1, cs =>
    let cs := skipBlanks cs
    match newline cs with
    | some rest => skipContinued fuel rest
    | none => cs

/--
The rest of a string on several lines. Three quotes end it, and up to two more directly before them
belong to it.
-/
def multiLine (quote : Char) (escapes : Bool) : Nat → Scan Chars
  | 0, _ => none
  | _, [] => none
  | fuel + 1, c :: cs =>
    if c = quote then
      let more := (cs.takeWhile (· == quote)).length
      if more < 2 then do
        let (s, rest) ← multiLine quote escapes fuel cs
        return (c :: s, rest)
      else
        let kept := min (more - 2) 2
        some (List.replicate kept quote, cs.drop (kept + 2))
    else if escapes && c == '\\' then
      match newline (skipBlanks cs) with
      | some rest => multiLine quote escapes fuel (skipContinued fuel rest)
      | none => do
        let (e, rest) ← escape cs
        let (s, rest) ← multiLine quote escapes fuel rest
        return (e :: s, rest)
    else
      match newline (c :: cs) with
      | some rest => do
        let (s, rest) ← multiLine quote escapes fuel rest
        return ('\n' :: s, rest)
      | none =>
        if isPlain quote escapes c then do
          let (s, rest) ← multiLine quote escapes fuel cs
          return (c :: s, rest)
        else none

def lineText (quote : Char) (cs : Chars) : Option (String × Chars) :=
  (singleLine quote (quote == '"') (cs.length + 1) cs).map fun (s, rest) =>
    (String.ofList s, rest)

def blockText (quote : Char) (cs : Chars) : Option (String × Chars) :=
  let cs := (newline cs).getD cs
  (multiLine quote (quote == '"') (cs.length + 1) cs).map fun (s, rest) =>
    (String.ofList s, rest)

def textAfter (quote : Char) : Scan String
  | a :: b :: cs =>
    if a = quote ∧ b = quote then blockText quote cs else lineText quote (a :: b :: cs)
  | cs => lineText quote cs

end Framecast.Toml
