import Framecast.Relay.Basic

/-!
A session of a relay: it asks one question after the other of its surroundings (is there a client,
shall I stop, is there a frame, does the socket take these bytes), and each answer leads to the next
question or to the end. A frame that was begun is finished before the session stops, unless the
client does not read on in time.
-/

set_option autoImplicit false

namespace Framecast.Relay

/-- The question that a session asks next. -/
inductive Stage where
  -- is there a client?
  | listening
  -- there is none: shall the session stop?
  | unserved
  -- frames are left to send: shall the session stop?
  | between
  -- is there a frame?
  | taking
  -- does the socket take some of `rest`, the bytes of `frame` that are left?
  | writing (frame : Frame) (rest : Bytes) (giveUp : Option Nat)
  -- the socket takes nothing: shall the session stop, and what time is it?
  | stalled (frame : Frame) (rest : Bytes) (giveUp : Option Nat)
  | ended (result : Except Error Report)

inductive Answer where
  | client (peer : Option Endpoint)
  -- a client came, but its connection cannot be waited for
  | unwatched (peer : Endpoint) (cause : String)
  | stop (flag : Bool)
  | taken (result : Except Device.ReadError Device.Taken)
  -- the socket took so many bytes
  | accepted (n : Nat)
  -- the socket can take nothing now
  | full
  -- a signal came before the socket answered
  | interrupted
  -- the machine cannot do what it was asked to, or can no longer wait
  | failed (cause : String)
  | time (flag : Bool) (now : Nat)

structure Session where
  -- how many frames are sent at most
  budget : Nat
  report : Report := {}
  stage : Stage := .listening
  -- the bytes that the socket took
  sent : Bytes := []
  -- the frames that were taken from the device, the oldest first
  takenFrames : List Frame := []

namespace Session

def new (config : RelayConfig) : Session := { budget := config.frameBudget.toNat }

def finish (s : Session) (result : Except Error Report) : Session :=
  { s with stage := .ended result }

def conclude (s : Session) (reason : End) : Session :=
  let report := { s.report with reason := reason }
  { s with report := report, stage := .ended (.ok report) }

-- the budget counts before anything else
def next (s : Session) : Session :=
  if s.report.frames < s.budget then { s with stage := .between } else s.conclude .budgetReached

def lost (s : Session) (cause : String) : Session :=
  s.finish (.error (.connection s.report.peer s.report.frames cause))

-- goes on with the bytes that are left of a frame; when none is left the frame counts
def proceed (s : Session) (f : Frame) (rest : Bytes) (giveUp : Option Nat) : Session :=
  if rest.isEmpty then { s with report := { s.report with frames := s.report.frames + 1 } }.next
  else { s with stage := .writing f rest giveUp }

def wrote (s : Session) (offered taken : Bytes) : Session :=
  { s with
    sent := s.sent ++ taken
    report :=
      { s.report with
        bytes := s.report.bytes + .ofNat taken.length
        shortWrites := s.report.shortWrites + if taken.length < offered.length then 1 else 0 } }

def deadline (giveUp : Option Nat) (flag : Bool) (now : Nat) : Option Nat :=
  if giveUp.isNone && flag then some (now + shutdownGrace.count.toNat) else giveUp

def wake (s : Session) (f : Frame) (rest : Bytes) (giveUp : Option Nat) (flag : Bool)
    (now : Nat) : Session :=
  let giveUp := deadline giveUp flag now
  if giveUp.any (· ≤ now) then
    { s with report := { s.report with truncated := true } }.conclude .shutdown
  else { s with stage := .writing f rest giveUp }

-- what becomes of a session with an answer; `none` if that is no answer to its question
def whenListening (s : Session) : Answer → Option Session
  | .client none => some { s with stage := .unserved }
  | .client (some peer) => some { s with report := { s.report with peer := some peer } }.next
  | .unwatched _ cause => some (s.finish (.error (.poll cause)))
  | .interrupted => some s
  | .failed cause => some (s.finish (.error (.accept cause)))
  | _ => none

def whenUnserved (s : Session) : Answer → Option Session
  | .stop flag =>
    some (if flag then s.finish (.ok s.report) else { s with stage := .listening })
  | .failed cause => some (s.finish (.error (.poll cause)))
  | _ => none

def whenBetween (s : Session) : Answer → Option Session
  | .stop flag => some (if flag then s.conclude .shutdown else { s with stage := .taking })
  | _ => none

def whenTaking (s : Session) : Answer → Option Session
  | .taken (.ok (.frame f)) =>
    some ({ s with takenFrames := s.takenFrames ++ [f] }.proceed f f.data none)
  | .taken (.ok .endOfStream) => some (s.conclude .deviceClosed)
  | .taken (.error e) =>
    match e with
    | .timedOut | .interrupted => some s.next
    | e => some (s.finish (.error (.read e)))
  | _ => none

def whenWriting (s : Session) (f : Frame) (rest : Bytes) (giveUp : Option Nat) :
    Answer → Option Session
  | .accepted n =>
    if n = 0 then some (s.lost "write zero")
    else some ((s.wrote rest (rest.take n)).proceed f (rest.drop n) giveUp)
  | .full => some { s with stage := .stalled f rest giveUp }
  | .interrupted => some s
  | .failed cause => some (s.lost cause)
  | _ => none

def whenStalled (s : Session) (f : Frame) (rest : Bytes) (giveUp : Option Nat) :
    Answer → Option Session
  | .time flag now => some (s.wake f rest giveUp flag now)
  | .failed cause => some (s.lost cause)
  | _ => none

def step (s : Session) (a : Answer) : Option Session :=
  match s.stage with
  | .listening => s.whenListening a
  | .unserved => s.whenUnserved a
  | .between => s.whenBetween a
  | .taking => s.whenTaking a
  | .writing f rest giveUp => s.whenWriting f rest giveUp a
  | .stalled f rest giveUp => s.whenStalled f rest giveUp a
  | .ended _ => none

def run (s : Session) : List Answer → Option Session
  | [] => some s
  | a :: as => (s.step a).bind fun t => t.run as

def inFlight (s : Session) : Option Frame :=
  match s.stage with
  | .writing f .. | .stalled f .. => some f
  | _ => none

def result? (s : Session) : Option (Except Error Report) :=
  match s.stage with
  | .ended r => some r
  | _ => none

end Session

end Framecast.Relay
