set_option autoImplicit false

namespace Framecast.Numeral

def digitChar (d : Nat) : Char :=
  if d < 10 then Char.ofNat (48 + d) else Char.ofNat (87 + d)

def write (base n : Nat) : List Char :=
  if _h : n < base ∨ base < 2 then [digitChar n]
  else write base (n / base) ++ [digitChar (n % base)]
termination_by n
decreasing_by exact Nat.div_lt_self (by omega) (by omega)

def digit? (base : Nat) (c : Char) : Option Nat :=
  let d :=
    if '0' ≤ c ∧ c ≤ '9' then c.toNat - 48
    else if 'a' ≤ c ∧ c ≤ 'f' then c.toNat - 87
    else if 'A' ≤ c ∧ c ≤ 'F' then c.toNat - 55
    else base
  if d < base then some d else none

def readFrom (base acc : Nat) : List Char → Option Nat
  | [] => some acc
  | c :: cs => (digit? base c).bind fun d => readFrom base (acc * base + d) cs

def read? (base : Nat) : List Char → Option Nat
  | [] => none
  | cs => readFrom base 0 cs

def isDigit (base : Nat) (c : Char) : Bool := (digit? base c).isSome

def decimal (n : Nat) : String := String.ofList (write 10 n)

def signed (n : Int) : String :=
  if n < 0 then "-" ++ decimal n.natAbs else decimal n.natAbs

def log10 (n : Nat) : Nat :=
  if n < 10 then 0 else log10 (n / 10) + 1
termination_by n
decreasing_by omega

end Framecast.Numeral
