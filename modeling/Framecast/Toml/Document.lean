import Framecast.Toml.Value

set_option autoImplicit false

namespace Framecast.Toml

def header (b : Builder) (cs : Chars) : Option (Builder × Chars) := do
  match cs with
  | '[' :: cs =>
    let ((path, k), rest) ← key cs
    let rest ← endOfLine (← exactly ']' (← exactly ']' rest))
    return (← b.openListed path k, rest)
  | cs =>
    let ((path, k), rest) ← key cs
    let rest ← endOfLine (← exactly ']' rest)
    return (← b.openTable path k, rest)

def entry (b : Builder) (cs : Chars) : Option (Builder × Chars) := do
  let ((path, k), rest) ← key cs
  let rest := skipBlanks (← exactly '=' rest)
  let (v, rest) ← value (2 * rest.length + 2) 0 rest
  let rest ← endOfLine rest
  return (← b.add path k v, rest)

-- the rest of a document; the measure is the length of the text
def lines : Nat → Builder → Chars → Option Entries
  | 0, _, _ => none
  | fuel + 1, b, cs =>
    match skipBlanks cs with
    | [] => b.finish
    | '#' :: cs => (endOfLine ('#' :: cs)).bind (lines fuel b)
    | '[' :: cs => (header b cs).bind fun (b, rest) => lines fuel b rest
    | cs =>
      match newline cs with
      | some rest => lines fuel b rest
      | none => (entry b cs).bind fun (b, rest) => lines fuel b rest

def parse? (s : String) : Option Entries :=
  let cs :=
    match s.toList with
    | '\uFEFF' :: cs => cs
    | cs => cs
  lines (cs.length + 1) {} cs

end Framecast.Toml
