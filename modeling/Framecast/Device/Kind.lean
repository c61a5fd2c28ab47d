import Framecast.Frame.Pattern

set_option autoImplicit false

namespace Framecast

structure Millis where
  count : UInt64
  deriving DecidableEq, Repr

namespace Millis

def seconds (t : Millis) : Nat := t.count.toNat / 1000

def subsecNanos (t : Millis) : Nat := t.count.toNat % 1000 * 1000000

def fractionDigits (ms : Nat) : List Char :=
  let ds := Numeral.write 10 (1000 + ms) |>.drop 1
  (ds.reverse.dropWhile (· == '0')).reverse

def describe (t : Millis) : String :=
  let ms := t.count.toNat % 1000
  if t.count = 0 then "0ns"
  else if t.seconds = 0 then Numeral.decimal ms ++ "ms"
  else if ms = 0 then Numeral.decimal t.seconds ++ "s"
  else Numeral.decimal t.seconds ++ "." ++ String.ofList (fractionDigits ms) ++ "s"

end Millis

namespace Device

inductive Kind where
  -- each write of at most `capacity` bytes becomes a frame
  | simple (capacity : UInt64)
  -- each tick draws a frame; without a period there are no ticks of its own
  | frames (geometry : Geometry) (pattern : Pattern) (period : Option Millis)
  deriving DecidableEq, Repr

namespace Kind

def defaultPeriod : Millis := ⟨2000⟩

def camera : Kind := .frames .vga .gradient (some defaultPeriod)

def frameSize : Kind → Nat
  | .simple capacity => capacity.toNat
  | .frames geometry _ _ => geometry.frameSize

def describe : Kind → String
  | .simple capacity => Record.text "SimpleBuffer" [("capacity", Numeral.decimal capacity.toNat)]
  | .frames geometry pattern period =>
    Record.text "FrameProducing"
      [("geometry", geometry.describe),
       ("pattern", pattern.name),
       ("period", Record.optional (period.map Millis.describe))]

end Kind

end Device

end Framecast
