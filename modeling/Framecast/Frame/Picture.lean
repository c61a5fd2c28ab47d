import Framecast.Frame.Pattern

set_option autoImplicit false

namespace Framecast.Pattern

def gradientSample (row col index : Nat) : Nat := (row + col + 10 * index) * 16 % 4096

/-- Byte `i` of the gradient: the low and the high byte of its sample in turn. -/
def gradientByte (g : Geometry) (index i : Nat) : UInt8 :=
  let sample := i / g.bytesPerSample.toNat
  let value := gradientSample (sample / g.width.toNat) (sample % g.width.toNat) index
  if i % g.bytesPerSample.toNat % 2 = 0 then value.toUInt8 else (value / 256).toUInt8

def textPicture (n : Nat) (index : UInt64) : Option Bytes :=
  let line := record index
  if line.length ≤ n then some (line ++ Bytes.zeros (n - line.length)) else none

def picture (p : Pattern) (g : Geometry) (index : UInt64) : Option Bytes :=
  match p with
  | .gradient => some ((List.range g.frameSize).map (gradientByte g index.toNat))
  | .text => textPicture g.frameSize index

theorem length_picture {p : Pattern} {g : Geometry} {index : UInt64} {bs : Bytes}
    (h : p.picture g index = some bs) : bs.length = g.frameSize := by
  cases p with
  | gradient =>
    simp only [picture, Option.some.injEq] at h
    simp [← h]
  | text =>
    simp only [picture, textPicture] at h
    split at h
    next fits =>
      simp only [Option.some.injEq] at h
      simp only [← h, List.length_append, Bytes.length_zeros]
      omega
    next => simp at h

end Framecast.Pattern
