import Framecast.Bytes
import Framecast.Text.Numeral
import Framecast.Text.Record

set_option autoImplicit false

namespace Framecast

structure Frame where
  seq : UInt64
  data : Bytes
  -- whether the buffer goes back to the device's pool when the frame is dropped
  pooled : Bool := false
  deriving DecidableEq, Repr

namespace Frame

def copyTo (f : Frame) (dst : Bytes) : Nat × Bytes :=
  (min dst.length f.data.length, Bytes.overlay f.data dst)

-- the buffer that the frame has on loan
def loan (f : Frame) : List Bytes := if f.pooled then [f.data] else []

def describe (f : Frame) : String :=
  Record.text "Frame"
    [("seq", Numeral.decimal f.seq.toNat),
     ("data", Record.list (f.data.map fun b => Numeral.decimal b.toNat)),
     ("home", Record.optional (if f.pooled then some "(Weak)" else none))]

end Frame

end Framecast
