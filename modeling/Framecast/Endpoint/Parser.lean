import Framecast.Endpoint.Basic
import Framecast.Text.Numeral

set_option autoImplicit false

namespace Framecast.Endpoint

def expect (c : Char) : List Char → Option (List Char)
  | [] => none
  | d :: cs => if d = c then some cs else none

-- a numeral of at most `limit`, with no more digits than `most` if that is given
def number (base : Nat) (most : Option Nat) (leadingZero : Bool) (limit : Nat) (cs : List Char) :
    Option (Nat × List Char) :=
  let digits := cs.takeWhile (Numeral.isDigit base)
  let rest := cs.dropWhile (Numeral.isDigit base)
  if most.any (· < digits.length) then none
  else if !leadingZero && digits.head? == some '0' && 1 < digits.length then none
  else
    match Numeral.read? base digits with
    | some n => if n ≤ limit then some (n, rest) else none
    | none => none

def octet (cs : List Char) : Option (UInt8 × List Char) :=
  (number 10 (some 3) false 255 cs).map fun (n, rest) => (n.toUInt8, rest)

def ipv4 (cs : List Char) : Option (IPv4 × List Char) := do
  let (a, cs) ← octet cs
  let (b, cs) ← octet (← expect '.' cs)
  let (c, cs) ← octet (← expect '.' cs)
  let (d, cs) ← octet (← expect '.' cs)
  return (⟨a, b, c, d⟩, cs)

def separated (first : Bool) (cs : List Char) : Option (List Char) :=
  if first then some cs else expect ':' cs

def embedded (first : Bool) (cs : List Char) : Option (IPv4 × List Char) :=
  (separated first cs).bind ipv4

def group (first : Bool) (cs : List Char) : Option (UInt16 × List Char) :=
  ((separated first cs).bind (number 16 (some 4) true 0xffff)).map fun (n, rest) =>
    (n.toUInt16, rest)

/--
Up to `room` groups, and whether they ended in an address with dots. Such an address fills two
groups and is the last.
-/
def groups : Nat → Bool → List Char → List UInt16 × Bool × List Char
  | 0, _, cs => ([], false, cs)
  | room + 1, first, cs =>
    match if 0 < room then embedded first cs else none with
    | some (ip, rest) => (ip.toGroups, true, rest)
    | none =>
      match group first cs with
      | some (g, rest) =>
        let (gs, dotted, rest) := groups room false rest
        (g :: gs, dotted, rest)
      | none => ([], false, cs)

def ipv6 (cs : List Char) : Option (IPv6 × List Char) := do
  let (front, dotted, cs) := groups 8 true cs
  if front.length = 8 then
    return (← IPv6.ofGroups? front, cs)
  else if dotted then none
  else
    let cs ← expect ':' (← expect ':' cs)
    let (back, _, cs) := groups (7 - front.length) true cs
    let zeros := List.replicate (8 - front.length - back.length) 0
    return (← IPv6.ofGroups? (front ++ zeros ++ back), cs)

def portAfter (cs : List Char) : Option (UInt16 × List Char) := do
  let (n, cs) ← number 10 none true 0xffff (← expect ':' cs)
  return (n.toUInt16, cs)

def scopeAfter (cs : List Char) : Option (UInt32 × List Char) := do
  let (n, cs) ← number 10 none true 0xffffffff (← expect '%' cs)
  return (n.toUInt32, cs)

def addressV4 (cs : List Char) : Option (Endpoint × List Char) := do
  let (ip, cs) ← ipv4 cs
  let (port, cs) ← portAfter cs
  return (.v4 ip port, cs)

def addressV6 (cs : List Char) : Option (Endpoint × List Char) := do
  let (ip, cs) ← ipv6 (← expect '[' cs)
  let (scope, cs) := (scopeAfter cs).getD (0, cs)
  let (port, cs) ← portAfter (← expect ']' cs)
  return (.v6 ip port scope, cs)

def read? (cs : List Char) : Option Endpoint :=
  match addressV4 cs <|> addressV6 cs with
  | some (e, []) => some e
  | _ => none

def parse? (s : String) : Option Endpoint := read? s.toList

structure SyntaxError where
  deriving DecidableEq, Repr

def SyntaxError.message (_ : SyntaxError) : String := "invalid socket address syntax"

end Framecast.Endpoint
