import Framecast.Mailbox

set_option autoImplicit false

namespace Framecast.Mailbox

inductive Event where
  | accepted (f : Frame) (displaced : Option Frame)
  | refused (offered returned : Frame)
  | closed (pending : Option Frame)
  -- by a taker that saw the sign after so many events
  | opened (taker since : Nat) (found : Option Frame)
  deriving DecidableEq, Repr

inductive Move where
  | publish (f : Frame)
  | close
  | look (taker : Nat)
  | swap (taker : Nat)
  deriving DecidableEq, Repr

structure Traffic where
  box : Mailbox := {}
  -- for a taker that saw the sign, how many events there had been
  eager : Nat → Option Nat := fun _ => none
  -- the oldest first
  events : List Event := []

namespace Traffic

def record (t : Traffic) (box : Mailbox) (e : Event) : Traffic :=
  { t with box := box, events := t.events ++ [e] }

def setEager (t : Traffic) (taker : Nat) (since : Option Nat) : Traffic :=
  { t with eager := fun i => if i = taker then since else t.eager i }

def step (t : Traffic) : Move → Option Traffic
  | .publish f =>
    match t.box.publish f with
    | (.ok displaced, m) => some (t.record m (.accepted f displaced))
    | (.error refused, m) => some (t.record m (.refused f refused.frame))
  | .close =>
    let (pending, m) := t.box.close
    some (t.record m (.closed pending))
  | .look taker =>
    match t.eager taker with
    | some _ => none
    | none => some (if t.box.ready then t.setEager taker (some t.events.length) else t)
  | .swap taker =>
    match t.eager taker with
    | none => none
    | some since =>
      let (found, m) := t.box.swapOut
      some ((t.setEager taker none).record m (.opened taker since found))

def run (t : Traffic) : List Move → Option Traffic
  | [] => some t
  | m :: ms => (t.step m).bind fun u => u.run ms

end Traffic

def accepted (es : List Event) : List Frame :=
  es.filterMap fun
    | .accepted f _ => some f
    | _ => none

def displaced (es : List Event) : List Frame :=
  es.filterMap fun
    | .accepted _ old => old
    | _ => none

def discarded (es : List Event) : List Frame :=
  es.filterMap fun
    | .closed pending => pending
    | _ => none

def taken (es : List Event) : List Frame :=
  es.filterMap fun
    | .opened _ _ found => found
    | _ => none

end Framecast.Mailbox
