set_option autoImplicit false

namespace Framecast

abbrev Bytes := List UInt8

namespace Bytes

def zeros (n : Nat) : Bytes := List.replicate n 0

@[simp] theorem length_zeros (n : Nat) : (zeros n).length = n := List.length_replicate

def overlay (src dst : Bytes) : Bytes := src.take dst.length ++ dst.drop src.length

@[simp] theorem length_overlay (src dst : Bytes) : (overlay src dst).length = dst.length := by
  simp only [overlay, List.length_append, List.length_take, List.length_drop]
  omega

theorem overlay_of_ge {src dst : Bytes} (h : dst.length ≤ src.length) :
    overlay src dst = src.take dst.length := by
  rw [overlay, List.drop_of_length_le h, List.append_nil]

def write? (buf : Bytes) (i : Nat) (byte : UInt8) : Option Bytes :=
  if i < buf.length then some (buf.set i byte) else none

def ofAscii (cs : List Char) : Bytes := cs.map fun c => c.toUInt8

@[simp] theorem length_ofAscii (cs : List Char) : (ofAscii cs).length = cs.length := by
  simp [ofAscii]

end Bytes

end Framecast
