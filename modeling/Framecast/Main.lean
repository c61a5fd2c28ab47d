import Framecast.Cli.Daemon
import Framecast.Timer
import Std.Async.Signal
import Std.Async.TCP

set_option autoImplicit false

namespace Framecast

open Std.Async (Async AsyncTask Signal)
open Std.Async.TCP.Socket (Server Client)

structure Service where
  server : Server
  stopSignals : List (AsyncTask Int)
  device : Device String
  timer : Option Timer
  -- the input that has come and is not written yet
  input : IO.Ref ByteArray
  session : Relay.Session
  client : Option Client := none
  -- a write to the client that is going on
  output : Option (Task (Except IO.Error Unit)) := none

namespace Service

def socketAddress : Endpoint → Std.Net.SocketAddress
  | .v4 ip port => .v4 { addr := ⟨#v[ip.a, ip.b, ip.c, ip.d]⟩, port := port }
  | .v6 ip port _ =>
    .v6 { addr := ⟨Vector.ofFn fun i => ip.groups[i.val]?.getD 0⟩, port := port }

def endpoint : Std.Net.SocketAddress → Endpoint
  | .v4 a =>
    .v4 ⟨a.addr.octets[0], a.addr.octets[1], a.addr.octets[2], a.addr.octets[3]⟩ a.port
  | .v6 a => .v6 ⟨a.addr.segments.toList, by simp⟩ a.port 0

def stopping (s : Service) : IO Bool := s.stopSignals.anyM fun t => IO.hasFinished t

def now : IO Nat := IO.monoMsNow

def tick (s : Service) : IO Service := do
  let some timer := s.timer | return s
  let awake := timer.step (.wake false (← now))
  if awake.phase = .ticking then
    let (r, d) := s.device.fire
    let closed := match r with
      | .ok _ => false
      | .error _ => true
    return { s with device := d, timer := some (awake.step (.ticked closed (← now))) }
  else return { s with timer := some awake }

partial def gather (stdin : IO.FS.Stream) (input : IO.Ref ByteArray) : IO Unit := do
  let bytes ← stdin.read 1
  unless bytes.isEmpty do
    input.modify (· ++ bytes)
    gather stdin input

def feed (s : Service) : IO Service := do
  let n := s.device.frameSize
  let bytes ← s.input.modifyGet fun bs => (bs.extract 0 n, bs.extract n bs.size)
  if bytes.isEmpty then return s
  return { s with device := (s.device.write Host.connected.memory bytes.toList).2 }

def answer (s : Service) : IO (Option Relay.Answer × Service) := do
  match s.session.stage with
  | .listening =>
    match ← s.server.tryAccept.toBaseIO with
    | .error e => return (some (.failed (toString e)), s)
    | .ok none => return (some (.client none), s)
    | .ok (some client) =>
      try client.noDelay catch _ => pure ()
      let peer ← try endpoint <$> client.getPeerName catch _ => pure Endpoint.default
      return (some (.client (some peer)), { s with client := some client })
  | .unserved | .between => return (some (.stop (← s.stopping)), s)
  | .taking =>
    match s.device.take {} (.blocking (some ⟨0⟩)) with
    | (.done result, _, d) => return (some (.taken result), { s with device := d })
    | (.suspended _, _, d) => return (none, { s with device := d })
  | .writing _ rest _ =>
    match s.output, s.client with
    | some task, _ =>
      if ← IO.hasFinished task then
        let a := match task.get with
          | .ok () => Relay.Answer.accepted rest.length
          | .error e => .failed (toString e)
        return (some a, { s with output := none })
      else return (some .full, s)
    | none, some client =>
      let task ← IO.asTask (client.send ⟨rest.toArray⟩).block
      return (none, { s with output := some task })
    | none, none => return (some (.failed "not connected"), s)
  | .stalled .. => return (some (.time (← s.stopping) (← now)), s)
  | .ended _ => return (none, s)

/-- One answer; a frame that is done with is dropped. -/
def turn (s : Service) : IO Service := do
  let (a, s) ← (← (← s.tick).feed).answer
  match a.bind s.session.step with
  | none => return s
  | some session =>
    let d := if session.inFlight.isNone then s.device.dropAny s.session.inFlight else s.device
    return { s with session := session, device := d }

partial def serve (s : Service) : IO (Except Relay.Error Relay.Report) := do
  let s ← s.turn
  match s.session.result? with
  | some r =>
    if let (some client, none) := (s.client, s.output) then
      try client.shutdown.block catch _ => pure ()
    return r
  | none =>
    IO.sleep 1
    s.serve

def ofDaemon (c : Config) (d : Device String) (relay : Relay) : IO Service := do
  let server ← Server.mk
  server.bind (socketAddress relay.config.bind)
  server.listen 128
  let stopSignals ← [Signal.sigint, .sigterm].mapM fun signal => do
    (← Signal.Waiter.mk signal false).wait
  let timer ← match c.device.kind with
    | .frames _ _ (some period) => do pure (some (Timer.start period.count.toNat (← now)))
    | _ => pure none
  let input ← IO.mkRef ByteArray.empty
  if c.device.variant = .simpleBuffer then
    let _ ← IO.asTask (gather (← IO.getStdin) input) .dedicated
  return {
    server := server
    stopSignals := stopSignals
    device := d
    timer := timer
    input := input
    session := .new relay.config }

end Service

def readInto (host : Host) (path : String) : IO Host := do
  try return host.withFile path (← IO.FS.readBinFile path).toList
  catch
    | .inappropriateType .. => return { host with directories := path :: host.directories }
    | _ => return host

def fail (message : String) : IO UInt32 := do
  IO.eprintln ("simcam failed: " ++ message)
  return 1

def flagLines : List String :=
  Cli.flags.map fun f =>
    "  " ++ ((f.short.map fun c => "-" ++ c.toString ++ ", ").getD "    ") ++ "--" ++ f.long

def usage : String :=
  "\n".intercalate ("Usage: simcam [OPTIONS]" :: "" :: "Options:" :: flagLines)

def runProgram (args : List String) : IO UInt32 := do
  let machine : Host := { Host.connected with directories := [], files := [] }
  let host ← match Cli.parse args with
    | .run { config := some path, .. } => readInto machine path
    | _ => pure machine
  match Cli.run host args with
  | .misuse => do
    IO.eprintln usage
    return 2
  | .help => do
    IO.println usage
    return 0
  | .version => do
    IO.println Cli.version
    return 0
  | .misconfigured e => fail e.message
  | .deviceFailed _ e => fail e.message
  | .relayFailed _ e => fail e.message
  | .serving c d relay => do
    match ← (Service.ofDaemon c d relay).toBaseIO with
    | .error e => fail ("failed to bind " ++ relay.config.bind.display ++ ": " ++ toString e)
    | .ok service =>
      match ← service.serve with
      | .ok _ => return 0
      | .error e => fail e.message

end Framecast

def main (args : List String) : IO UInt32 := Framecast.runProgram args
