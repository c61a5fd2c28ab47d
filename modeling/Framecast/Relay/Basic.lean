import Framecast.Config.Basic
import Framecast.Device.Reader
import Framecast.Endpoint.Printer
import Framecast.Host

set_option autoImplicit false

namespace Framecast

namespace Relay

def shutdownGrace : Millis := ⟨1000⟩

inductive End where
  | budgetReached
  | deviceClosed
  | shutdown
  deriving DecidableEq, Repr

def End.name : End → String
  | .budgetReached => "BudgetReached"
  | .deviceClosed => "DeviceClosed"
  | .shutdown => "Shutdown"

structure Report where
  -- the client, if one came
  peer : Option Endpoint := none
  -- how many frames were written whole
  frames : Nat := 0
  -- how many bytes were written; the count wraps
  bytes : UInt64 := 0
  -- how many writes took only a part of what was offered
  shortWrites : UInt64 := 0
  -- whether a frame was cut off because the client did not read on
  truncated : Bool := false
  reason : End := .shutdown
  deriving DecidableEq, Repr

inductive Error where
  -- nobody can listen at the address
  | bind (address : Endpoint) (cause : BindError)
  -- waiting for the sockets failed
  | poll (cause : String)
  | accept (cause : String)
  -- the connection broke when so many frames were written whole
  | connection (peer : Option Endpoint) (frames : Nat) (cause : String)
  | read (cause : Device.ReadError)
  deriving DecidableEq, Repr

def Error.message : Error → String
  | .bind address cause => "failed to bind " ++ address.display ++ ": " ++ cause.message
  | .poll cause => "poll failed: " ++ cause
  | .accept cause => "accept failed: " ++ cause
  | .connection peer frames cause =>
    "connection to " ++ (peer.map Endpoint.display).getD "nobody" ++ " lost after " ++
      Numeral.decimal frames ++ " frames: " ++ cause
  | .read cause => "reading from device failed: " ++ cause.message

end Relay

structure Relay where
  config : RelayConfig
  -- where it listens
  address : Endpoint
  deriving DecidableEq, Repr

def RelayConfig.describe (c : RelayConfig) : String :=
  Record.text "RelayConfig"
    [("bind", "Endpoint(" ++ c.bind.display ++ ")"),
     ("frame_budget", Numeral.decimal c.frameBudget.toNat),
     ("poll_interval_ms", Numeral.decimal c.pollInterval.count.toNat),
     ("send_buffer_size",
       Record.optional (c.sendBufferSize.map fun n => Numeral.decimal n.toNat))]

namespace Relay

def bind (host : Host) (listening : List Endpoint) (config : RelayConfig) : Except Error Relay :=
  match host.bind listening config.bind with
  | .ok address => .ok { config := config, address := address }
  | .error cause => .error (.bind config.bind cause)

def describe (r : Relay) : String :=
  Record.openText "Relay"
    [("local", Record.optional (some ("Endpoint(" ++ r.address.display ++ ")"))),
     ("config", r.config.describe)]

end Relay

end Framecast
