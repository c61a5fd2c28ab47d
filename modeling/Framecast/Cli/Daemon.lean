import Framecast.Cli.Arguments
import Framecast.Relay.Broadcast

set_option autoImplicit false

namespace Framecast.Cli

def version : String := "simcam 0.1.0"

def baseConfig (host : Host) (o : Options) : Except Config.LoadError Config :=
  match o.config with
  | some path => Config.load path (host.read path)
  | none => .ok {}

/-- The configuration that is in force. -/
def effectiveConfig (host : Host) (o : Options) : Except Config.LoadError Config :=
  match baseConfig host o with
  | .ok base => Config.checked (o.apply base)
  | .error e => .error e

inductive Outcome where
  | misuse
  | help
  | version
  | misconfigured (cause : Config.LoadError)
  | deviceFailed (config : Config) (cause : Device.Error)
  | relayFailed (config : Config) (cause : Relay.Error)
  -- it waits for its client
  | serving (config : Config) (device : Device String) (relay : Relay)

def start (host : Host) (c : Config) : Outcome :=
  match Device.openWith host.memory c.device.kind c.device.buffers with
  | .error e => .deviceFailed c e
  | .ok device =>
    match Relay.bind host [] c.relay with
    | .error e => .relayFailed c e
    | .ok relay => .serving c device relay

def run (host : Host) (args : List String) : Outcome :=
  match parse args with
  | .misuse => .misuse
  | .help => .help
  | .version => .version
  | .run o =>
    match effectiveConfig host o with
    | .error e => .misconfigured e
    | .ok c => start host c

def pieces (n : Nat) (bs : Bytes) : List Bytes :=
  if _h : bs.length = 0 ∨ n = 0 then []
  else bs.take n :: pieces n (bs.drop n)
termination_by bs.length
decreasing_by
  simp only [List.length_drop]
  omega

open Relay (Broadcast)

def publications (c : Config) (input : Bytes) : List (Option Bytes) :=
  match c.device.kind with
  | .simple capacity => (pieces capacity.toNat input).map some
  | .frames .. => List.replicate c.relay.frameBudget.toNat none

/-- What a client gets that is there from the start and reads to the end. -/
def transmission (host : Host) (c : Config) (device : Device String) (relay : Relay)
    (input : Bytes) : Except ConnectError Bytes :=
  match (Broadcast.ofDevice host relay device).perform .connect with
  | .error e => .error e
  | .ok (_, b) => do
    let (_, b) ← b.perform .run
    let b ← (publications c input).foldlM (fun b p => (·.2) <$> b.perform (.publish p)) b
    return b.finish.2.sent

end Framecast.Cli
