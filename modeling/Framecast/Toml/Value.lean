import Framecast.Toml.DateTime
import Framecast.Toml.Number
import Framecast.Toml.Table
import Framecast.Toml.Text

set_option autoImplicit false

namespace Framecast.Toml

def nestingLimit : Nat := 80

def inBareKey (c : Char) : Bool := c.isAlphanum || c == '_' || c == '-'

def keyPart : Scan String
  | '"' :: cs => lineText '"' cs
  | '\'' :: cs => lineText '\'' cs
  | cs =>
    match cs.takeWhile inBareKey with
    | [] => none
    | bare => some (String.ofList bare, cs.dropWhile inBareKey)

def keyParts : Nat → Scan (List String)
  | 0, _ => none
  | fuel + 1, cs => do
    let (k, rest) ← keyPart (skipBlanks cs)
    match skipBlanks rest with
    | '.' :: rest => do
      let (ks, rest) ← keyParts fuel rest
      return (k :: ks, rest)
    | rest => return ([k], rest)

def key (cs : Chars) : Option ((List String × String) × Chars) := do
  let (ks, rest) ← keyParts nestingLimit cs
  let k ← ks.getLast?
  if ks.length < nestingLimit then return ((ks.dropLast, k), rest) else none

def plainValue (cs : Chars) : Option (Item × Chars) :=
  match cs with
  | 't' :: 'r' :: 'u' :: 'e' :: rest => some (.boolean true, rest)
  | 'f' :: 'a' :: 'l' :: 's' :: 'e' :: rest => some (.boolean false, rest)
  | _ =>
    match dateTime cs with
    | some rest => some (.dateTime, rest)
    | none => number cs

mutual

def value : Nat → Nat → Scan Item
  | 0, _, _ => none
  | fuel + 1, depth, cs =>
    match cs with
    | '"' :: rest => (textAfter '"' rest).map fun (s, rest) => (.text s, rest)
    | '\'' :: rest => (textAfter '\'' rest).map fun (s, rest) => (.text s, rest)
    | '[' :: rest =>
      if depth + 1 < nestingLimit then
        (elements fuel (depth + 1) rest).map fun (xs, rest) => (.array xs, rest)
      else none
    | '\x7b' :: rest =>
      if depth + 1 < nestingLimit then
        match skipBlanks rest with
        | '\x7d' :: rest => some (.table true .written [], rest)
        | rest =>
          (pairs fuel (depth + 1) [] rest).map fun (es, rest) => (.table true .written es, rest)
      else none
    | cs => plainValue cs

def elements : Nat → Nat → Scan (List Item)
  | 0, _, _ => none
  | fuel + 1, depth, cs =>
    match skipGap cs with
    | ']' :: rest => some ([], rest)
    | cs => do
      let (x, rest) ← value fuel depth cs
      match skipGap rest with
      | ']' :: rest => return ([x], rest)
      | ',' :: rest => do
        let (xs, rest) ← elements fuel depth rest
        return (x :: xs, rest)
      | _ => none

def pairs : Nat → Nat → Entries → Scan Entries
  | 0, _, _, _ => none
  | fuel + 1, depth, es, cs => do
    let ((path, k), rest) ← key cs
    let (v, rest) ← value fuel depth (skipBlanks (← exactly '=' rest))
    let es ← addDotted true path k v es
    match skipBlanks rest with
    | '\x7d' :: rest => return (es, rest)
    | ',' :: rest => pairs fuel depth es rest
    | _ => none

end

end Framecast.Toml
