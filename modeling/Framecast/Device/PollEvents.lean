import Framecast.Text.Numeral

set_option autoImplicit false

namespace Framecast

structure PollEvents where
  bits : UInt8
  deriving DecidableEq, Repr

namespace PollEvents

def none : PollEvents := ⟨0⟩

def readable : PollEvents := ⟨1⟩

def writable : PollEvents := ⟨2⟩

def hangup : PollEvents := ⟨4⟩

def contains (a b : PollEvents) : Bool := a.bits &&& b.bits == b.bits

def union (a b : PollEvents) : PollEvents := ⟨a.bits ||| b.bits⟩

def only (flag : Bool) (b : PollEvents) : PollEvents := if flag then b else none

def isEmpty (a : PollEvents) : Bool := a.bits == 0

def all : List (String × PollEvents) :=
  [("readable", readable), ("writable", writable), ("hangup", hangup)]

def names (a : PollEvents) : List String :=
  (all.filter fun e => a.contains e.2).map (·.1)

def ofNames (ns : List String) : PollEvents :=
  ns.foldl (fun a n => a.union ((all.lookup n).getD none)) none

def describe (a : PollEvents) : String :=
  "PollEvents(" ++ Numeral.decimal a.bits.toNat ++ ")"

end PollEvents

end Framecast
