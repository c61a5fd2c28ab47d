import Framecast.Proofs.Crowd.Visits
import Framecast.Relay.Session
import Mathlib.Algebra.GroupWithZero.Nat

set_option autoImplicit false

namespace Framecast.Relay

def payload (fs : List Frame) : Bytes := fs.flatMap Frame.data

@[simp] theorem payload_concat (fs : List Frame) (f : Frame) :
    payload (fs ++ [f]) = payload fs ++ f.data := by
  simp [payload]

def Answer.frame? : Answer → Option Frame
  | .taken (.ok (.frame f)) => some f
  | _ => none

def takenIn (as : List Answer) : List Frame := as.filterMap Answer.frame?

theorem takenIn_concat (as : List Answer) (a : Answer) :
    takenIn (as ++ [a]) = takenIn as ++ a.frame?.toList := by
  cases h : a.frame? <;> simp [takenIn, h]

/-- A client was served, and the report is true. -/
structure Served (budget : Nat) (as : List Answer) (sent : Bytes) (report : Report) : Prop where
  client : ∃ peer, report.peer = some peer ∧ .client (some peer) ∈ as
  wire : sent = payload (takenIn as)
  frames : report.frames = (takenIn as).length
  within : report.frames ≤ budget
  bytes : report.bytes = .ofNat ((takenIn as).map fun f => f.data.length).sum
  whole : report.truncated = false
  spent : report.reason = .budgetReached ↔ report.frames = budget
  closed : report.reason = .deviceClosed → .taken (.ok .endOfStream) ∈ as
  asked : report.reason = .shutdown → .stop true ∈ as

structure Unserved (as : List Answer) (sent : Bytes) (report : Report) : Prop where
  report : report = {}
  none : takenIn as = []
  wire : sent = []
  asked : .stop true ∈ as

/-- The connection broke when `frames` frames were written whole and the next one was not. -/
structure CutOff (budget : Nat) (as : List Answer) (sent : Bytes) (peer : Option Endpoint)
    (frames : Nat) : Prop where
  client : ∃ p, peer = some p ∧ .client (some p) ∈ as
  cut : ∃ fs f part rest, takenIn as = fs ++ [f] ∧ f.data = part ++ rest ∧ rest ≠ [] ∧
    sent = payload fs ++ part ∧ frames = fs.length
  below : frames < budget

/-- The result of a relay agrees with what it was answered and with the bytes it sent. -/
def Accounted (budget : Nat) (as : List Answer) (sent : Bytes) : Except Error Report → Prop
  | .ok report =>
    (report.peer = none → Unserved as sent report) ∧
      (report.peer ≠ none → Served budget as sent report)
  | .error (.connection peer frames _) => CutOff budget as sent peer frames
  | .error (.poll _) | .error (.accept _) => takenIn as = [] ∧ sent = []
  | .error (.bind ..) | .error (.read _) => False

-- of the frames `fs` everything is sent, of the next one `part`, and nothing else
structure Books (report : Report) (sent : Bytes) (as : List Answer) (fs : List Frame)
    (part : Bytes) : Prop where
  client : ∃ peer, report.peer = some peer ∧ .client (some peer) ∈ as
  wire : sent = payload fs ++ part
  frames : report.frames = fs.length
  bytes : report.bytes = .ofNat sent.length
  whole : report.truncated = false

namespace Books

variable {report : Report} {sent part : Bytes} {as : List Answer} {fs : List Frame} {f : Frame}

theorem concat (books : Books report sent as fs part) (a : Answer) :
    Books report sent (as ++ [a]) fs part := by
  obtain ⟨peer, here, came⟩ := books.client
  exact ⟨⟨peer, here, List.mem_append_left _ came⟩, books.wire, books.frames, books.bytes,
    books.whole⟩

theorem wrote {s : Session} (books : Books s.report s.sent as fs part) (offered taken : Bytes) :
    Books (s.wrote offered taken).report (s.wrote offered taken).sent as fs (part ++ taken) where
  client := books.client
  wire := by simp [Session.wrote, books.wire]
  frames := books.frames
  bytes := by simp [Session.wrote, books.bytes, UInt64.ofNat_add]
  whole := books.whole

theorem count (books : Books report sent as fs f.data) :
    Books { report with frames := report.frames + 1 } sent as (fs ++ [f]) [] where
  client := books.client
  wire := by simp [books.wire]
  frames := by simp [books.frames]
  bytes := books.bytes
  whole := books.whole

end Books

namespace Session

def expires (s : Session) (a : Answer) : Bool :=
  match s.stage, a with
  | .stalled _ _ giveUp, .time flag now => (deadline giveUp flag now).any (· ≤ now)
  | _, _ => false

/-- No frame in flight ever runs out of time. -/
def inGrace (s : Session) : List Answer → Bool
  | [] => true
  | a :: as => !s.expires a && (s.step a).all (·.inGrace as)

def Midway (s : Session) (as : List Answer) (f : Frame) (rest : Bytes) : Prop :=
  ∃ fs part, takenIn as = fs ++ [f] ∧ f.data = part ++ rest ∧ rest ≠ [] ∧
    Books s.report s.sent as fs part ∧ fs.length < s.budget

def Sound (s : Session) (as : List Answer) : Prop :=
  match s.stage with
  | .listening | .unserved => s.report = {} ∧ s.sent = [] ∧ takenIn as = []
  | .between | .taking =>
    Books s.report s.sent as (takenIn as) [] ∧ (takenIn as).length < s.budget
  | .writing f rest _ | .stalled f rest _ => s.Midway as f rest
  | .ended result => Accounted s.budget as s.sent result

variable {s t : Session} {as : List Answer}

theorem sound_conclude {reason : End} (books : Books s.report s.sent as (takenIn as) [])
    (le : (takenIn as).length ≤ s.budget)
    (spent : reason = .budgetReached ↔ (takenIn as).length = s.budget)
    (closed : reason = .deviceClosed → .taken (.ok .endOfStream) ∈ as)
    (asked : reason = .shutdown → .stop true ∈ as) : (s.conclude reason).Sound as := by
  have sent : s.sent = payload (takenIn as) := by simpa using books.wire
  obtain ⟨peer, here, came⟩ := books.client
  refine ⟨fun none => ?_, fun _ => ?_⟩
  · simp [here] at none
  · refine ⟨⟨peer, here, came⟩, sent, books.frames, ?_, ?_, books.whole, ?_, closed, asked⟩
    · exact books.frames ▸ le
    · change s.report.bytes = _
      rw [books.bytes, sent, payload, List.length_flatMap]
    · change reason = .budgetReached ↔ s.report.frames = s.budget
      rw [spent, books.frames]

theorem sound_next (books : Books s.report s.sent as (takenIn as) [])
    (le : (takenIn as).length ≤ s.budget) : s.next.Sound as := by
  have frames := books.frames
  simp only [next]
  split
  next left => exact ⟨books, frames ▸ left⟩
  next spent =>
    refine sound_conclude books le ?_ (by simp) (by simp)
    simp only [true_iff]
    omega

theorem sound_proceed {f : Frame} {fs : List Frame} {part rest : Bytes} {giveUp : Option Nat}
    (taken : takenIn as = fs ++ [f]) (data : f.data = part ++ rest)
    (books : Books s.report s.sent as fs part) (left : fs.length < s.budget) :
    (s.proceed f rest giveUp).Sound as := by
  simp only [proceed]
  split
  next written =>
    obtain rfl : part = f.data := by simpa [List.isEmpty_iff.mp written] using data.symm
    apply sound_next
    · rw [taken]
      exact books.count
    · rw [taken, List.length_append, List.length_singleton]
      exact left
  next more =>
    exact ⟨fs, part, taken, data, by simpa using more, books, left⟩

theorem Midway.lost {f : Frame} {rest : Bytes} (midway : s.Midway as f rest) (cause : String) :
    (s.lost cause).Sound as := by
  obtain ⟨fs, part, taken, data, more, books, left⟩ := midway
  exact ⟨books.client, ⟨fs, f, part, rest, taken, data, more, books.wire, books.frames⟩,
    books.frames ▸ left⟩

theorem Midway.concat {f : Frame} {rest : Bytes} {a : Answer} (midway : s.Midway as f rest)
    (none : a.frame? = none) : s.Midway (as ++ [a]) f rest := by
  obtain ⟨fs, part, taken, data, more, books, left⟩ := midway
  exact ⟨fs, part, by simp [takenIn_concat, none, taken], data, more, books.concat a, left⟩

theorem Midway.accepted {f : Frame} {rest : Bytes} {giveUp : Option Nat} (n : Nat)
    (midway : s.Midway as f rest) :
    ((s.wrote rest (rest.take n)).proceed f (rest.drop n) giveUp).Sound as := by
  obtain ⟨fs, part, taken, data, -, books, left⟩ := midway
  apply sound_proceed taken _ (books.wrote rest (rest.take n)) left
  rw [data, List.append_assoc, List.take_append_drop]

variable {a : Answer}

theorem takenIn_concat_of_none (none : a.frame? = none) : takenIn (as ++ [a]) = takenIn as := by
  simp [takenIn_concat, none]

theorem Sound.step_listening (sound : s.Sound as) (stage : s.stage = .listening)
    (h : s.step a = some t) : t.Sound (as ++ [a]) := by
  simp only [Sound, stage] at sound
  simp only [Session.step, stage] at h
  obtain ⟨fresh, unsent, none⟩ := sound
  cases a with
  | client peer =>
    rw [← takenIn_concat_of_none (a := .client peer) rfl] at none
    cases peer with
    | none =>
      simp only [whenListening, Option.some.injEq] at h
      subst h
      exact ⟨fresh, unsent, none⟩
    | some peer =>
      simp only [whenListening, Option.some.injEq] at h
      subst h
      refine sound_next ⟨⟨peer, rfl, by simp⟩, ?_, ?_, ?_, ?_⟩ ?_ <;>
        simp [none, unsent, fresh, payload]
  | unwatched peer cause =>
    simp only [whenListening, Option.some.injEq] at h
    subst h
    exact ⟨(takenIn_concat_of_none rfl).trans none, unsent⟩
  | interrupted =>
    simp only [whenListening, Option.some.injEq] at h
    subst h
    simp only [Sound, stage]
    exact ⟨fresh, unsent, (takenIn_concat_of_none rfl).trans none⟩
  | failed cause =>
    simp only [whenListening, Option.some.injEq] at h
    subst h
    exact ⟨(takenIn_concat_of_none rfl).trans none, unsent⟩
  | _ => simp [whenListening] at h

theorem Sound.step_unserved (sound : s.Sound as) (stage : s.stage = .unserved)
    (h : s.step a = some t) : t.Sound (as ++ [a]) := by
  simp only [Sound, stage] at sound
  simp only [Session.step, stage] at h
  obtain ⟨fresh, unsent, none⟩ := sound
  cases a with
  | stop flag =>
    rw [← takenIn_concat_of_none (a := .stop flag) rfl] at none
    simp only [whenUnserved, Option.some.injEq] at h
    subst h
    cases flag with
    | true =>
      refine ⟨fun _ => ⟨fresh, none, unsent, by simp⟩, fun served => ?_⟩
      exact absurd (by rw [fresh]) served
    | false => exact ⟨fresh, unsent, none⟩
  | failed cause =>
    simp only [whenUnserved, Option.some.injEq] at h
    subst h
    exact ⟨(takenIn_concat_of_none rfl).trans none, unsent⟩
  | _ => simp [whenUnserved] at h

theorem Sound.step_between (sound : s.Sound as) (stage : s.stage = .between)
    (h : s.step a = some t) : t.Sound (as ++ [a]) := by
  simp only [Sound, stage] at sound
  simp only [Session.step, stage] at h
  obtain ⟨books, left⟩ := sound
  cases a with
  | stop flag =>
    rw [← takenIn_concat_of_none (a := .stop flag) rfl] at books left
    simp only [whenBetween, Option.some.injEq] at h
    subst h
    cases flag with
    | true =>
      refine sound_conclude (books.concat _) (Nat.le_of_lt left) ?_ (by simp) (by simp)
      simp only [reduceCtorEq, false_iff]
      omega
    | false => exact ⟨books.concat _, left⟩
  | _ => simp [whenBetween] at h

theorem Sound.step_taking (sound : s.Sound as) (stage : s.stage = .taking)
    (h : s.step a = some t)
    (proper : ∀ r, a = .taken r → r ≠ .error .wouldBlock ∧ r ≠ .error .fault) :
    t.Sound (as ++ [a]) := by
  simp only [Sound, stage] at sound
  simp only [Session.step, stage] at h
  obtain ⟨books, left⟩ := sound
  cases a with
  | taken r =>
    cases r with
    | ok found =>
      cases found with
      | frame f =>
        simp only [whenTaking, Option.some.injEq] at h
        subst h
        exact sound_proceed (takenIn_concat as _) rfl (books.concat _) left
      | endOfStream =>
        simp only [whenTaking, Option.some.injEq] at h
        subst h
        rw [← takenIn_concat_of_none (a := .taken (.ok .endOfStream)) rfl] at books left
        refine sound_conclude (books.concat _) (Nat.le_of_lt left) ?_ (by simp) (by simp)
        simp only [reduceCtorEq, false_iff]
        omega
    | error e =>
      obtain ⟨unblocked, proper⟩ := proper _ rfl
      rw [← takenIn_concat_of_none (a := .taken (.error e)) rfl] at books left
      cases e with
      | timedOut | interrupted =>
        simp only [whenTaking, Option.some.injEq] at h
        subst h
        exact sound_next (books.concat _) (Nat.le_of_lt left)
      | wouldBlock => exact absurd rfl unblocked
      | fault => exact absurd rfl proper
  | _ => simp [whenTaking] at h

theorem Sound.step_writing {f : Frame} {rest : Bytes} {giveUp : Option Nat} (sound : s.Sound as)
    (stage : s.stage = .writing f rest giveUp) (h : s.step a = some t) : t.Sound (as ++ [a]) := by
  simp only [Sound, stage] at sound
  simp only [Session.step, stage] at h
  cases a with
  | accepted n =>
    have midway := sound.concat (a := .accepted n) rfl
    simp only [whenWriting] at h
    split at h
    next =>
      obtain rfl := Option.some.inj h
      exact midway.lost _
    next =>
      obtain rfl := Option.some.inj h
      exact midway.accepted n
  | full =>
    simp only [whenWriting, Option.some.injEq] at h
    subst h
    exact sound.concat rfl
  | interrupted =>
    simp only [whenWriting, Option.some.injEq] at h
    subst h
    simp only [Sound, stage]
    exact sound.concat rfl
  | failed cause =>
    simp only [whenWriting, Option.some.injEq] at h
    subst h
    exact (sound.concat rfl).lost cause
  | _ => simp [whenWriting] at h

theorem Sound.step_stalled {f : Frame} {rest : Bytes} {giveUp : Option Nat} (sound : s.Sound as)
    (stage : s.stage = .stalled f rest giveUp) (h : s.step a = some t)
    (inTime : s.expires a = false) : t.Sound (as ++ [a]) := by
  simp only [Sound, stage] at sound
  simp only [Session.step, stage] at h
  cases a with
  | time flag now =>
    simp only [expires, stage] at inTime
    simp only [whenStalled, wake, inTime, Option.some.injEq] at h
    subst h
    exact sound.concat rfl
  | failed cause =>
    simp only [whenStalled, Option.some.injEq] at h
    subst h
    exact (sound.concat rfl).lost cause
  | _ => simp [whenStalled] at h

theorem Sound.step (sound : s.Sound as) (h : s.step a = some t) (inTime : s.expires a = false)
    (proper : ∀ r, a = .taken r → r ≠ .error .wouldBlock ∧ r ≠ .error .fault) :
    t.Sound (as ++ [a]) := by
  cases stage : s.stage with
  | listening => exact sound.step_listening stage h
  | unserved => exact sound.step_unserved stage h
  | between => exact sound.step_between stage h
  | taking => exact sound.step_taking stage h proper
  | writing f rest giveUp => exact sound.step_writing stage h
  | stalled f rest giveUp => exact sound.step_stalled stage h inTime
  | ended result => simp [Session.step, stage] at h

theorem budget_next (s : Session) : s.next.budget = s.budget := by
  simp only [next]
  split <;> rfl

theorem budget_proceed (s : Session) (f : Frame) (rest : Bytes) (giveUp : Option Nat) :
    (s.proceed f rest giveUp).budget = s.budget := by
  simp only [proceed]
  split
  next => exact budget_next _
  next => rfl

theorem budget_step (h : s.step a = some t) : t.budget = s.budget := by
  cases stage : s.stage <;> simp only [Session.step, stage] at h
  case listening =>
    simp only [whenListening] at h
    split at h <;> grind [budget_next, finish]
  case unserved =>
    simp only [whenUnserved] at h
    split at h <;> grind [finish]
  case between =>
    simp only [whenBetween] at h
    split at h <;> grind [conclude]
  case taking =>
    simp only [whenTaking] at h
    split at h <;> grind [budget_next, budget_proceed, conclude, finish]
  case writing f rest giveUp =>
    simp only [whenWriting] at h
    split at h <;> grind [budget_proceed, wrote, lost, finish]
  case stalled f rest giveUp =>
    simp only [whenStalled] at h
    split at h <;> grind [wake, conclude, lost, finish]
  case ended result => simp at h

theorem Sound.within (sound : s.Sound as) :
    (takenIn as).length ≤ s.budget ∧ s.sent <+: payload (takenIn as) := by
  have midway {f : Frame} {rest : Bytes} (m : s.Midway as f rest) :
      (takenIn as).length ≤ s.budget ∧ s.sent <+: payload (takenIn as) := by
    obtain ⟨fs, part, taken, data, -, books, left⟩ := m
    refine ⟨?_, rest, ?_⟩
    · rw [taken, List.length_append, List.length_singleton]
      exact left
    · rw [taken, payload_concat, data, books.wire, List.append_assoc]
  cases stage : s.stage <;> simp only [Sound, stage] at sound
  case listening | unserved =>
    obtain ⟨-, unsent, none⟩ := sound
    simp [none, unsent]
  case between | taking =>
    obtain ⟨books, left⟩ := sound
    refine ⟨Nat.le_of_lt left, ?_⟩
    simp [books.wire]
  case writing | stalled => exact midway sound
  case ended result =>
    cases result with
    | ok report =>
      by_cases client : report.peer = none
      next =>
        obtain ⟨-, none, unsent, -⟩ := sound.1 client
        simp [none, unsent]
      next =>
        have served := sound.2 client
        exact ⟨served.frames ▸ served.within, served.wire ▸ List.prefix_rfl⟩
    | error e =>
      cases e with
      | connection peer frames cause =>
        obtain ⟨fs, f, part, rest, taken, data, -, sent, frames⟩ := sound.cut
        refine ⟨?_, rest, ?_⟩
        · rw [taken, List.length_append, List.length_singleton, ← frames]
          exact sound.below
        · rw [taken, payload_concat, data, sent, List.append_assoc]
      | poll cause | accept cause =>
        obtain ⟨none, unsent⟩ := sound
        simp [none, unsent]
      | bind address cause => exact sound.elim
      | read cause => exact sound.elim

theorem Sound.run {more : List Answer} (sound : s.Sound as) (h : s.run more = some t)
    (inGrace : s.inGrace more = true)
    (proper : ∀ r, .taken r ∈ more → r ≠ .error .wouldBlock ∧ r ≠ .error .fault) :
    t.Sound (as ++ more) ∧ t.budget = s.budget := by
  induction more generalizing s as with
  | nil =>
    obtain rfl := Option.some.inj h
    exact ⟨by simpa using sound, rfl⟩
  | cons a more ih =>
    obtain ⟨u, first, rest⟩ := Option.bind_eq_some_iff.mp h
    simp only [Session.inGrace, first, Option.all_some, Bool.and_eq_true, Bool.not_eq_true']
      at inGrace
    obtain ⟨inTime, inGrace⟩ := inGrace
    have step := sound.step first inTime fun r same => proper r (same ▸ List.mem_cons_self ..)
    obtain ⟨sound', budget⟩ :=
      ih step rest inGrace fun r member => proper r (List.mem_cons_of_mem _ member)
    rw [List.append_assoc, List.singleton_append] at sound'
    exact ⟨sound', budget.trans (budget_step first)⟩

end Session

/--
However the socket splits the writes, whatever the device gives and whenever the relay is asked to
stop: as long as no frame in flight runs out of time, the client gets the payloads of the frames
taken, in order, and no more frames than were ordered are taken. The result says how it ended; that
a frame cannot be read is never the reason.
-/
theorem accounted_of_run {config : RelayConfig} {as : List Answer} {s : Session}
    (ran : (Session.new config).run as = some s)
    (inGrace : (Session.new config).inGrace as = true)
    (takes : ∀ r, .taken r ∈ as →
      Device.Crowd.Brings (.blocking (some config.pollInterval)) r) :
    (takenIn as).length ≤ config.frameBudget.toNat ∧ s.sent <+: payload (takenIn as) ∧
      ∀ result, s.result? = some result →
        Accounted config.frameBudget.toNat as s.sent result := by
  have start : (Session.new config).Sound [] := ⟨rfl, rfl, rfl⟩
  obtain ⟨sound, budget⟩ := start.run ran inGrace fun r member => (takes r member).of_blocking
  rw [List.nil_append] at sound
  have within := sound.within
  rw [budget] at within
  refine ⟨within.1, within.2, fun result ended => ?_⟩
  simp only [Session.result?] at ended
  split at ended
  next stage =>
    obtain rfl := Option.some.inj ended
    simp only [Session.Sound, stage, budget] at sound
    exact sound
  next => simp at ended

def writtenWhileWaiting (timeout : Millis) (data : Bytes) : List (Device.Crowd.Move Unit) :=
  [.visit 0 (.blocking (some timeout)) none, .order (.write 1024 data), .errand 0, .errand 0,
    .errand 0, .advance 0, .advance 0]

def waitedInVain (timeout : Millis) : List (Device.Crowd.Move Unit) :=
  [.visit 0 (.blocking (some timeout)) none, .advance 0, .advance 0, .advance 0, .advance 0,
    .advance 0, .expire 0]

-- the relay is asked to stop in the middle of a frame and finishes it
def stopMidFrame : List Answer :=
  [.client none, .stop false, .client (some (.localhost 9)), .stop false,
    .taken (.error .timedOut), .stop false, .taken (.ok (.frame ⟨1, [7, 8, 9], false⟩)),
    .accepted 1, .full, .time true 100, .interrupted, .full, .time true 1000, .accepted 2,
    .stop true]

def reportMidFrame : Report :=
  { peer := some (.localhost 9), frames := 1, bytes := 3, shortWrites := 1 }

theorem accounted_of_run_stopMidFrame :
    ∃ s, (Session.new {}).run stopMidFrame = some s ∧
      (Session.new {}).inGrace stopMidFrame = true ∧
      (∀ r, .taken r ∈ stopMidFrame → Device.Crowd.Brings (.blocking (some ⟨100⟩)) r) ∧
      s.result? = some (.ok reportMidFrame) ∧ s.sent = [7, 8, 9] ∧
      (takenIn stopMidFrame).length ≤ 5 ∧ Served 5 stopMidFrame s.sent reportMidFrame := by
  have takes : ∀ r, .taken r ∈ stopMidFrame →
      Device.Crowd.Brings (.blocking (some ⟨100⟩)) r := by
    intro r member
    have cases : r = .error .timedOut ∨ r = .ok (.frame ⟨1, [7, 8, 9], false⟩) := by
      simpa [stopMidFrame] using member
    rcases cases with rfl | rfl
    · exact ⟨Unit, { kind := .simple 4 }, 1, waitedInVain ⟨100⟩, _, rfl, _,
        List.mem_singleton.mpr rfl, rfl, rfl, rfl⟩
    · exact ⟨Unit, { kind := .simple 4 }, 1, writtenWhileWaiting ⟨100⟩ [7, 8, 9], _, rfl, _,
        List.mem_singleton.mpr rfl, rfl, rfl, rfl⟩
  have client : reportMidFrame.peer ≠ none := by decide
  refine ⟨_, rfl, rfl, takes, rfl, rfl, ?_⟩
  obtain ⟨few, -, accounted⟩ := @accounted_of_run {} stopMidFrame _ rfl rfl takes
  exact ⟨few, (accounted (.ok reportMidFrame) rfl).2 client⟩

end Framecast.Relay
