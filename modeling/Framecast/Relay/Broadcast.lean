import Framecast.Relay.Session

set_option autoImplicit false

namespace Framecast.Relay

inductive Client where
  | absent
  | reading
  -- connected, but it reads nothing
  | dozing
  | gone
  deriving DecidableEq, Repr

structure Broadcast (ω : Type) where
  host : Host
  relay : Relay
  device : Device ω
  -- the session, from the time the relay runs
  session : Option Session := none
  -- whether the relay is asked to stop
  stop : Bool := false
  client : Client := .absent

namespace Broadcast

inductive Call where
  -- writes `data`, or makes a tick
  | publish (data : Option Bytes)
  -- the same while the client reads nothing
  | publishDozing (data : Option Bytes)
  | connect
  | run
  | shutdown
  | close
  -- a signal hits the relay and changes nothing
  | signal
  -- the client goes away, and the device publishes
  | disconnect (data : Option Bytes)
  -- another reader takes a frame if one is ready
  | take
  deriving DecidableEq, Repr

inductive Outcome where
  | done
  | notPossible
  | wrote (result : Except Device.Error Nat)
  | fired (result : Except Device.Error Device.Fired)
  | taken (result : Except Device.ReadError Device.Taken)
  | lost

variable {ω : Type}

def ofDevice (host : Host) (relay : Relay) (d : Device ω) : Broadcast ω :=
  { host := host, relay := relay, device := d }

def running (b : Broadcast ω) : Option Session :=
  match b.session with
  | some s => if s.result?.isNone then some s else none
  | none => none

def result? (b : Broadcast ω) : Option (Except Error Report) := b.session.bind Session.result?

def sent (b : Broadcast ω) : Bytes := (b.session.map (·.sent)).getD []

def halted (b : Broadcast ω) : Bool :=
  match b.running with
  | some s => s.inFlight.isSome
  | none => false

def peer (b : Broadcast ω) : Endpoint := .localhost (Host.freePort [b.relay.address])

def brokenPipe : String := "Broken pipe (os error 32)"

/-- The answer to the session's question and the device after it; `none` if the session waits. -/
def answer (b : Broadcast ω) (s : Session) : Option (Answer × Device ω) :=
  match s.stage, b.client with
  | .listening, .absent => if b.stop then some (.client none, b.device) else none
  | .listening, _ => some (.client (some b.peer), b.device)
  | .unserved, _ | .between, _ => some (.stop b.stop, b.device)
  | .taking, _ =>
    match b.device.collect with
    | (some f, d) => some (.taken (.ok (.frame f)), d)
    | (none, d) =>
      if d.mailbox.closed then some (.taken (.ok .endOfStream), d)
      else if b.stop then some (.taken (.error .timedOut), d)
      else none
  | .writing _ rest _, .reading => some (.accepted rest.length, b.device)
  | .writing .., .dozing => some (.full, b.device)
  | .stalled .., .dozing => none
  | .stalled .., .reading => some (.time b.stop 0, b.device)
  | .writing .., _ | .stalled .., _ => some (.failed brokenPipe, b.device)
  | .ended _, _ => none

def advance (b : Broadcast ω) : Option (Broadcast ω) := do
  let s ← b.session
  let (a, d) ← b.answer s
  let t ← s.step a
  let d := if t.inFlight.isNone then d.dropAny s.inFlight else d
  return { b with session := some t, device := d }

def proceed : Nat → Broadcast ω → Broadcast ω
  | 0, b => b
  | n + 1, b =>
    match b.advance with
    | some b => proceed n b
    | none => b

-- a session waits after a few steps at the latest: there is one client to be met, and the mailbox
-- holds one frame
def settle (b : Broadcast ω) : Broadcast ω := proceed 16 b

def produce (memory : Nat) (d : Device ω) : Option Bytes → Outcome × Device ω
  | some data =>
    let (r, d) := d.write memory data
    (.wrote r, d)
  | none =>
    let (r, d) := d.fire
    (.fired r, d)

def publish (b : Broadcast ω) (data : Option Bytes) : Outcome × Broadcast ω :=
  let (r, d) := produce b.host.memory b.device data
  (r, { b with device := d }.settle)

def lulled : Client → Client
  | .reading => .dozing
  | c => c

def roused : Client → Client
  | .dozing => .reading
  | c => c

def perform (b : Broadcast ω) : Call → Except ConnectError (Outcome × Broadcast ω)
  | .publish data => .ok (b.publish data)
  | .publishDozing data =>
    .ok ({ b with client := lulled b.client }.publish data)
  | .connect =>
    if b.client ≠ .absent ∨ b.result?.isSome then .ok (.notPossible, b)
    else
      match b.host.connect with
      | .error e => .error e
      | .ok () => .ok (.done, { b with client := .reading }.settle)
  | .run =>
    if b.session.isSome then .ok (.notPossible, b)
    else .ok (.done, { b with session := some (.new b.relay.config) }.settle)
  | .shutdown => .ok (.done, { b with stop := true, client := roused b.client }.settle)
  | .close => .ok (.done, { b with device := b.device.close }.settle)
  | .signal => .ok (.done, b)
  | .disconnect data => .ok (.lost, ({ b with client := .gone }.publish data).2)
  | .take =>
    let (p, _, d) := b.device.take {} .nonblocking
    match p with
    | .done (.ok (.frame f)) => .ok (.taken (.ok (.frame f)), { b with device := d.drop f })
    | .done result => .ok (.taken result, { b with device := d })
    | .suspended _ => .ok (.done, { b with device := d })

def finish (b : Broadcast ω) : Option (Except Error Report) × Broadcast ω :=
  let after := { b with stop := true, client := roused b.client }.settle
  (if b.running.isSome then after.result? else none, after)

end Broadcast

end Framecast.Relay
