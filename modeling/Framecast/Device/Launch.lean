import Framecast.Device.Basic

set_option autoImplicit false

namespace Framecast.Device

def Kind.period? : Kind → Option Millis
  | .simple _ => none
  | .frames _ _ period => period

inductive LaunchError where
  | device (cause : Error)
  -- there is no thread for the timer
  | spawn (cause : String)
  deriving DecidableEq, Repr

def LaunchError.message : LaunchError → String
  | .device cause => cause.message
  | .spawn cause => "failed to spawn producer thread: " ++ cause

variable {ω : Type}

/-- Opens a device and starts its timer; `thread` is what the machine says to a new thread. -/
def launch (memory : Nat) (thread : Except String Unit) (kind : Kind) (buffers : UInt64) :
    Except LaunchError (Device ω) :=
  match openWith memory kind buffers with
  | .error e => .error (.device e)
  | .ok d =>
    match kind.period?, thread with
    | some _, .error cause => .error (.spawn cause)
    | _, _ => .ok d

end Framecast.Device
