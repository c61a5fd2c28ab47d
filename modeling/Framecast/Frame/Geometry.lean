import Framecast.Size
import Framecast.Text.Numeral
import Framecast.Text.Record

set_option autoImplicit false

namespace Framecast

structure Geometry where
  width : UInt32
  height : UInt32
  -- two bytes hold one twelve-bit sample
  bytesPerSample : UInt32
  deriving DecidableEq, Repr

namespace Geometry

def vga : Geometry := ⟨640, 480, 2⟩

def frameSize (g : Geometry) : Nat :=
  Size.mul (Size.mul g.width.toNat g.height.toNat) g.bytesPerSample.toNat

theorem frameSize_eq_zero (g : Geometry) :
    g.frameSize = 0 ↔
      g.width.toNat = 0 ∨ g.height.toNat = 0 ∨ g.bytesPerSample.toNat = 0 := by
  simp [frameSize, or_assoc]

def describe (g : Geometry) : String :=
  Record.text "FrameGeometry"
    [("width", Numeral.decimal g.width.toNat),
     ("height", Numeral.decimal g.height.toNat),
     ("bytes_per_sample", Numeral.decimal g.bytesPerSample.toNat)]

end Geometry

end Framecast
