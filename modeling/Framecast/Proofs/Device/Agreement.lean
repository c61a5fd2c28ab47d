import Framecast.Proofs.Device.Steps

set_option autoImplicit false

namespace Framecast

namespace Device

variable {ω : Type}

def emptied (d : Device ω) : Device ω :=
  { d with mailbox := { d.mailbox with frame := none, ready := false } }

variable {d d' : Device ω} {r r' : Reader} {mode : Mode} {buffer : Bytes}

end Device

end Framecast
