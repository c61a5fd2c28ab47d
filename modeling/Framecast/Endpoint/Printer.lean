import Framecast.Endpoint.Basic
import Framecast.Text.Numeral

set_option autoImplicit false

namespace Framecast

def IPv4.write (ip : IPv4) : List Char :=
  ['.'].intercalate ([ip.a, ip.b, ip.c, ip.d].map fun o => Numeral.write 10 o.toNat)

namespace IPv6

def leadingZeros (gs : List UInt16) : Nat := (gs.takeWhile (· == 0)).length

/-- Where the first longest run of zero groups starts, and how long it is. -/
def longestZeros : List UInt16 → Nat × Nat
  | [] => (0, 0)
  | g :: gs =>
    let here := leadingZeros (g :: gs)
    let (start, length) := longestZeros gs
    if length ≤ here then (0, here) else (start + 1, length)

def writeGroups (gs : List UInt16) : List Char :=
  [':'].intercalate (gs.map fun g => Numeral.write 16 g.toNat)

def writeCompressed (gs : List UInt16) : List Char :=
  let (start, length) := longestZeros gs
  if 1 < length then
    writeGroups (gs.take start) ++ [':', ':'] ++ writeGroups (gs.drop (start + length))
  else writeGroups gs

def write (ip : IPv6) : List Char :=
  match ip.groups with
  | [0, 0, 0, 0, 0, 0xffff, high, low] =>
    [':', ':', 'f', 'f', 'f', 'f', ':'] ++ (IPv4.ofGroups high low).write
  | gs => writeCompressed gs

end IPv6

namespace Endpoint

def writePort (port : UInt16) : List Char := ':' :: Numeral.write 10 port.toNat

def writeScope (scope : UInt32) : List Char :=
  if scope = 0 then [] else '%' :: Numeral.write 10 scope.toNat

def write : Endpoint → List Char
  | .v4 ip port => ip.write ++ writePort port
  | .v6 ip port scope => '[' :: ip.write ++ writeScope scope ++ ']' :: writePort port

def writeIP : Endpoint → List Char
  | .v4 ip _ => ip.write
  | .v6 ip _ _ => ip.write

def display (e : Endpoint) : String := String.ofList e.write

end Endpoint

end Framecast
