import Framecast.Proofs.Crowd.Steps
import Framecast.Proofs.Device.Steps

set_option autoImplicit false

namespace Framecast.Device

namespace Reader.Phase

def epoch? : Phase → Option UInt32
  | .looking | .done _ => none
  | .observed e | .missed e | .undeterred e | .resigned e | .suspended e => some e

def foundOpen : Phase → Bool
  | .undeterred _ | .resigned _ | .suspended _ => true
  | _ => false

def foundLeave : Phase → Bool
  | .resigned _ | .suspended _ => true
  | _ => false

def isSuspended : Phase → Bool
  | .suspended _ => true
  | _ => false

end Reader.Phase

variable {ω : Type}

namespace Errand

theorem step_signs (e : Errand) (d : Device ω) (quiet : e.notifies = false) :
    (step (e, d)).2.channel.epoch = d.channel.epoch ∧
    (e.owesNotice = true → (step (e, d)).1.owesNotice = true) ∧
    ((step (e, d)).2.mailbox.ready = true →
      d.mailbox.ready = true ∨ (step (e, d)).1.owesNotice = true) ∧
    ((step (e, d)).2.mailbox.closed = true →
      d.mailbox.closed = true ∨ (step (e, d)).1.owesNotice = true) := by
  cases e with
  | announcing seq => simp [notifies] at quiet
  | alerting => simp [notifies] at quiet
  | firing =>
    obtain same | ⟨e, -, same⟩ := step_firing_cases d <;> rw [same] <;>
      exact ⟨rfl, by simp [owesNotice], .inl, .inl⟩
  | popping =>
    simp only [step]
    split
    next => simp [countFailure, owesNotice]
    next b d' h =>
      obtain ⟨p, q, -, -, rfl⟩ := popBuffer_eq_some h
      simp [owesNotice]
  | numbering b =>
    obtain ⟨_, -, same⟩ | ⟨_, _, _, -, ⟨-, same⟩ | ⟨-, same⟩⟩ := step_numbering_cases b d <;>
      simp [same, number, owesNotice]
  | offering memory data =>
    obtain ⟨_, -, -, same⟩ | ⟨e, -, same⟩ := step_offering_cases memory data d <;> rw [same] <;>
      exact ⟨rfl, by simp [owesNotice], .inl, .inl⟩
  | depositing f =>
    cases closed : d.mailbox.closed with
    | false => simp [step_depositing_open closed, owesNotice]
    | true => simp [step_depositing_closed closed, owesNotice, closed]
  | displacing old seq => simp [step, owesNotice]
  | dropping pending => simp [step, owesNotice]
  | closing =>
    simp only [step]
    split <;> simp_all [owesNotice]
  | _ =>
    simp [step, owesNotice, number, countFailure, countFrame, shut, Mailbox.close, returnBuffer]

theorem epoch_step_of_notifies (e : Errand) (d : Device ω) (loud : e.notifies = true) :
    (step (e, d)).2.channel.epoch = d.channel.epoch + 1 := by
  cases e <;> first | rfl | simp [notifies] at loud

theorem owesNotice_of_isOver {e : Errand} (h : e.isOver = true) : e.owesNotice = false := by
  cases e <;> first | rfl | simp [isOver] at h

end Errand

namespace Reader

theorem advance_signs (mode : Mode) (p : Phase) (r : Reader) (d : Device ω) :
    (advance mode (p, r, d)).2.2.channel = d.channel ∧
    (advance mode (p, r, d)).2.2.mailbox.closed = d.mailbox.closed ∧
    ((advance mode (p, r, d)).2.2.mailbox.ready = true → d.mailbox.ready = true) ∧
    ((advance mode (p, r, d)).2.1.cancelled = true → r.cancelled = true) := by
  have signs := collect_signs d
  cases p with
  | observed e =>
    simp only [advance]
    split <;> simp_all
  | missed e | undeterred e | resigned e =>
    simp only [advance]
    split <;> simp_all
  | _ => simp [advance]

end Reader

namespace Crowd

/-- Some caller has yet to notify of what it changed. -/
def Owed (c : Crowd ω) : Prop := ∃ e ∈ c.errands, e.owesNotice = true

/-- What a visit relies on: as long as there was no notification in its round, what it saw still
holds, or somebody has yet to notify of the change. -/
structure Watches (c : Crowd ω) (v : Visit) : Prop where
  epoch : ∀ e, v.phase.epoch? = some e → c.device.channel.epoch = e + UInt32.ofNat v.notices
  ready : v.phase.foundNone = true → v.notices = 0 → c.device.mailbox.ready = true → c.Owed
  closed : v.phase.foundOpen = true → v.notices = 0 → c.device.mailbox.closed = true → c.Owed
  leave : v.phase.foundLeave = true → v.notices = 0 → (c.reader v.reader).cancelled = true → c.Owed
  fresh : v.phase.isSuspended = true → v.notices = 0

theorem watches_of_idle {c : Crowd ω} {v : Visit} (idle : v.phase.epoch? = none) :
    c.Watches v := by
  constructor <;> cases h : v.phase <;>
    simp_all [Reader.Phase.epoch?, Reader.Phase.foundNone, Reader.Phase.foundOpen,
      Reader.Phase.foundLeave, Reader.Phase.isSuspended]

theorem Watches.mono {c d : Crowd ω} {v : Visit} (w : c.Watches v)
    (epoch : d.device.channel.epoch = c.device.channel.epoch)
    (owed : c.Owed → d.Owed)
    (ready : d.device.mailbox.ready = true → c.device.mailbox.ready = true ∨ d.Owed)
    (closed : d.device.mailbox.closed = true → c.device.mailbox.closed = true ∨ d.Owed)
    (cancelled : ∀ r, (d.reader r).cancelled = true → (c.reader r).cancelled = true ∨ d.Owed) :
    d.Watches v where
  epoch e h := epoch.trans (w.epoch e h)
  ready found none now := (ready now).elim (fun before => owed (w.ready found none before)) id
  closed found none now := (closed now).elim (fun before => owed (w.closed found none before)) id
  leave found none now :=
    (cancelled _ now).elim (fun before => owed (w.leave found none before)) id
  fresh := w.fresh

theorem Watches.rouse {c d : Crowd ω} {v : Visit} (w : c.Watches v)
    (epoch : d.device.channel.epoch = c.device.channel.epoch + 1) : d.Watches v.roused := by
  cases asleep : v.phase with
  | suspended e => exact watches_of_idle (by simp [Visit.roused, Reader.Phase.roused, asleep,
      Reader.Phase.epoch?])
  | _ =>
    have same : v.roused.phase = v.phase := by simp [Visit.roused, Reader.Phase.roused, asleep]
    have old : v.roused.notices = v.notices + 1 := rfl
    constructor
    case epoch =>
      intro e h
      rw [same] at h
      rw [epoch, w.epoch e h, old, UInt32.ofNat_add]
      exact UInt32.add_assoc _ _ _
    case fresh => simp [same, asleep, Reader.Phase.isSuspended]
    all_goals simp [old]

theorem cancelled_set {rs : List Reader} {k r : Nat} {x : Reader}
    (h : ((rs.set k x)[r]?.getD {}).cancelled = true) :
    (r = k ∧ x.cancelled = true) ∨ (r ≠ k ∧ (rs[r]?.getD {}).cancelled = true) := by
  rw [List.getElem?_set] at h
  split at h
  next same =>
    split at h
    next => exact .inl ⟨same.symm, h⟩
    next => simp at h
  next other => exact .inr ⟨fun same => other same.symm, h⟩

structure Moved (c d : Crowd ω) (v : Visit) : Prop where
  device : d.device = (Reader.advance v.mode (v.phase, c.reader v.reader, c.device)).2.2
  errands : d.errands = c.errands
  reader : (d.reader v.reader).cancelled = true →
    (Reader.advance v.mode (v.phase, c.reader v.reader, c.device)).2.1.cancelled = true

theorem Moved.owed {c d : Crowd ω} {v : Visit} (moved : c.Moved d v) (h : c.Owed) : d.Owed := by
  rwa [Owed, moved.errands]

def nextPhase (c : Crowd ω) (v : Visit) : Reader.Phase :=
  (Reader.advance v.mode (v.phase, c.reader v.reader, c.device)).1

theorem Watches.next {c d : Crowd ω} {v : Visit} {p : Reader.Phase} (w : c.Watches v)
    (moved : c.Moved d v)
    (next : c.nextPhase v = p)
    (same : p.epoch? = v.phase.epoch?) (started : v.phase ≠ .looking)
    (ready : p.foundNone = true →
      v.phase.foundNone = true ∨ d.device.mailbox.ready = false)
    (closed : p.foundOpen = true →
      v.phase.foundOpen = true ∨ d.device.mailbox.closed = false)
    (leave : p.foundLeave = true →
      v.phase.foundLeave = true ∨ (c.reader v.reader).cancelled = false)
    (fresh : p.isSuspended = true → v.notices = 0) :
    d.Watches (v.moveTo (c.nextPhase v)) := by
  obtain ⟨channel', closed', ready', cancelled'⟩ :=
    Reader.advance_signs v.mode v.phase (c.reader v.reader) c.device
  rw [← moved.device] at channel' closed' ready'
  rw [next]
  have phase : (v.moveTo p).phase = p := rfl
  have notices : (v.moveTo p).notices = v.notices := by
    cases at_phase : v.phase <;> simp_all [Visit.moveTo]
  constructor <;> rw [phase, notices]
  case epoch =>
    intro e h
    rw [channel']
    exact w.epoch e (same ▸ h)
  case ready =>
    intro found none now
    rcases ready found with before | not
    · exact moved.owed (w.ready before none (ready' now))
    · simp [not] at now
  case closed =>
    intro found none now
    rcases closed found with before | not
    · exact moved.owed (w.closed before none (closed' ▸ now))
    · simp [not] at now
  case leave =>
    intro found none now
    have was := cancelled' (moved.reader now)
    rcases leave found with before | not
    · exact moved.owed (w.leave before none was)
    · simp [not] at was
  case fresh => exact fresh

section Rounds

variable {c d : Crowd ω} {v : Visit} {e : UInt32}

theorem Watches.observed (w : c.Watches v) (moved : c.Moved d v)
    (at_phase : v.phase = .observed e) : d.Watches (v.moveTo (c.nextPhase v)) := by
  have sign : d.device.mailbox.ready = false := by
    rw [moved.device, at_phase, Reader.device_advance_observed]
    exact (Reader.collect_signs c.device).2.2.2
  cases found : c.device.collect with
  | mk frame after =>
    cases frame with
    | some f =>
      exact watches_of_idle (by simp [Visit.moveTo, nextPhase, Reader.advance, at_phase, found,
        Reader.Phase.epoch?])
    | none =>
      cases mode : v.mode with
      | nonblocking =>
        exact watches_of_idle (by simp [Visit.moveTo, nextPhase, Reader.advance, at_phase, found,
          mode, Reader.Phase.epoch?])
      | blocking timeout =>
        have next : c.nextPhase v = .missed e := by
          simp only [nextPhase, Reader.advance, at_phase, found, mode]
        refine w.next moved next (by rw [at_phase]; rfl) (by simp [at_phase]) ?_ ?_ ?_ ?_
        · exact fun _ => .inr sign
        all_goals simp [Reader.Phase.foundOpen, Reader.Phase.foundLeave,
          Reader.Phase.isSuspended]

theorem Watches.missed (w : c.Watches v) (moved : c.Moved d v) (at_phase : v.phase = .missed e) :
    d.Watches (v.moveTo (c.nextPhase v)) := by
  have device := moved.device
  rw [at_phase, Reader.advance] at device
  cases closed : c.device.mailbox.closed with
  | true =>
    exact watches_of_idle (by simp [Visit.moveTo, nextPhase, Reader.advance, at_phase, closed,
      Reader.Phase.epoch?])
  | false =>
    have next : c.nextPhase v = .undeterred e := by
      simp [nextPhase, Reader.advance, at_phase, closed]
    have still : d.device.mailbox.closed = false := by simp [device, closed]
    refine w.next moved next (by rw [at_phase]; rfl) (by simp [at_phase]) ?_ ?_ ?_ ?_
    · exact fun _ => .inl (by rw [at_phase]; rfl)
    · exact fun _ => .inr still
    all_goals simp [Reader.Phase.foundLeave, Reader.Phase.isSuspended]

theorem Watches.undeterred (w : c.Watches v) (moved : c.Moved d v)
    (at_phase : v.phase = .undeterred e) : d.Watches (v.moveTo (c.nextPhase v)) := by
  cases cancelled : (c.reader v.reader).cancelled with
  | true =>
    exact watches_of_idle (by simp [Visit.moveTo, nextPhase, Reader.advance, at_phase, cancelled,
      Reader.Phase.epoch?])
  | false =>
    have next : c.nextPhase v = .resigned e := by
      simp [nextPhase, Reader.advance, at_phase, cancelled]
    refine w.next moved next (by rw [at_phase]; rfl) (by simp [at_phase]) ?_ ?_ ?_ ?_
    · exact fun _ => .inl (by rw [at_phase]; rfl)
    · exact fun _ => .inl (by rw [at_phase]; rfl)
    · exact fun _ => .inr cancelled
    · simp [Reader.Phase.isSuspended]

theorem Watches.resigned (w : c.Watches v) (moved : c.Moved d v)
    (at_phase : v.phase = .resigned e) (inTime : v.notices < UInt32.size) :
    d.Watches (v.moveTo (c.nextPhase v)) := by
  by_cases same : c.device.channel.epoch = e
  next =>
    have next : c.nextPhase v = .suspended e := by
      simp [nextPhase, Reader.advance, at_phase, same]
    refine w.next moved next (by rw [at_phase]; rfl) (by simp [at_phase]) ?_ ?_ ?_ ?_
    · exact fun _ => .inl (by rw [at_phase]; rfl)
    · exact fun _ => .inl (by rw [at_phase]; rfl)
    · exact fun _ => .inl (by rw [at_phase]; rfl)
    · -- fewer than 2^32 notifications since `e` was read, and the epoch is `e` again: none
      intro _
      have epoch : c.device.channel.epoch = e + UInt32.ofNat v.notices :=
        w.epoch e (by rw [at_phase]; rfl)
      rw [same] at epoch
      have none : UInt32.ofNat v.notices = 0 := by simpa using epoch.symm
      have count : v.notices % UInt32.size = 0 := by simpa using congrArg UInt32.toNat none
      rwa [Nat.mod_eq_of_lt inTime] at count
  next =>
    exact watches_of_idle (by simp [Visit.moveTo, nextPhase, Reader.advance, at_phase, same,
      Reader.Phase.epoch?])

theorem Watches.advance (w : c.Watches v) (moved : c.Moved d v)
    (inTime : ∀ e, v.phase = .resigned e → v.notices < UInt32.size) :
    d.Watches (v.moveTo (c.nextPhase v)) := by
  have device := moved.device
  cases at_phase : v.phase with
  | looking =>
    rw [at_phase, Reader.advance] at device
    constructor <;> simp [Visit.moveTo, nextPhase, Reader.advance, at_phase, Reader.Phase.epoch?,
      Reader.Phase.foundNone, Reader.Phase.foundOpen, Reader.Phase.foundLeave,
      Reader.Phase.isSuspended, device]
  | observed e => exact w.observed moved at_phase
  | missed e => exact w.missed moved at_phase
  | undeterred e => exact w.undeterred moved at_phase
  | resigned e => exact w.resigned moved at_phase (inTime e at_phase)
  | suspended e =>
    have next : c.nextPhase v = v.phase := by simp [nextPhase, Reader.advance, at_phase]
    refine w.next moved next rfl (by simp [at_phase]) ?_ ?_ ?_ ?_
    · exact .inl
    · exact .inl
    · exact .inl
    · exact fun _ => w.fresh (by rw [at_phase]; rfl)
  | done result =>
    exact watches_of_idle (by simp [Visit.moveTo, nextPhase, Reader.advance, at_phase,
      Reader.Phase.epoch?])

end Rounds

-- a reader that is about to wait does so before the epoch it read can come round again
def inTime (c : Crowd ω) : Move ω → Bool
  | .advance i =>
    match c.visits[i]? with
    | some v =>
      match v.phase with
      | .resigned _ => decide (v.notices < UInt32.size)
      | _ => true
    | none => true
  | _ => true

/-- In the whole run fewer than 2^32 notifications fall between a reader's look at the epoch and
its wait. -/
def prompt (c : Crowd ω) : List (Move ω) → Bool
  | [] => true
  | m :: ms =>
    c.inTime m &&
      match c.step m with
      | some d => d.prompt ms
      | none => true

def Watched (c : Crowd ω) : Prop := ∀ v ∈ c.visits, c.Watches v

theorem Owed.mono {c d : Crowd ω} (h : c.Owed) (sub : c.errands ⊆ d.errands) : d.Owed := by
  obtain ⟨e, member, owes⟩ := h
  exact ⟨e, sub member, owes⟩

theorem Owed.set {c d : Crowd ω} {i : Nat} {e e' : Errand} (h : c.Owed)
    (at_i : c.errands[i]? = some e) (errands : d.errands = c.errands.set i e')
    (still : e.owesNotice = true → e'.owesNotice = true) : d.Owed := by
  obtain ⟨x, member, owes⟩ := h
  obtain ⟨j, at_j⟩ := List.mem_iff_getElem?.mp member
  obtain ⟨inside, _⟩ := List.getElem?_eq_some_iff.mp at_i
  by_cases same : i = j
  · subst same
    obtain rfl := Option.some.inj (at_i.symm.trans at_j)
    exact ⟨e', errands ▸ List.mem_set inside e', still owes⟩
  · refine ⟨x, ?_, owes⟩
    rw [errands]
    exact List.mem_iff_getElem?.mpr ⟨j, by rw [List.getElem?_set_ne same, at_j]⟩

theorem Watched.frame {c d : Crowd ω} (w : c.Watched)
    (visits : ∀ v ∈ d.visits, v ∈ c.visits ∨ v.phase.epoch? = none)
    (epoch : d.device.channel.epoch = c.device.channel.epoch)
    (errands : c.errands ⊆ d.errands)
    (ready : d.device.mailbox.ready = true → c.device.mailbox.ready = true)
    (closed : d.device.mailbox.closed = true → c.device.mailbox.closed = true)
    (cancelled : ∀ r, (d.reader r).cancelled = true → (c.reader r).cancelled = true) :
    d.Watched := by
  intro v member
  rcases visits v member with old | idle
  · exact (w v old).mono epoch (fun owed => owed.mono errands) (fun h => .inl (ready h))
      (fun h => .inl (closed h)) fun r h => .inl (cancelled r h)
  · exact watches_of_idle idle

theorem Watched.undertake {c d : Crowd ω} (w : c.Watched) {o : Order}
    (h : c.undertake o = some d) : d.Watched := by
  obtain rfl | ⟨r, readers, -, rfl⟩ := undertake_eq_some h
  · exact w.frame (fun _ => .inl) rfl (List.subset_append_left _ _) id id fun _ => id
  · have owed : ({ c with readers := readers }.addErrand .alerting).Owed :=
      ⟨.alerting, by simp [addErrand], rfl⟩
    exact fun v member => (w v member).mono rfl (fun _ => owed) .inl .inl fun _ _ => .inr owed

theorem Watched.stepErrand {c d : Crowd ω} (w : c.Watched) {i : Nat}
    (h : c.stepErrand i = some d) : d.Watched := by
  obtain ⟨e, at_i, -, rfl⟩ := stepErrand_eq_some h
  cases loud : e.notifies with
  | true =>
    have epoch := Errand.epoch_step_of_notifies e c.device loud
    rw [perform_of_notifies loud]
    intro v member
    obtain ⟨u, before, rfl⟩ := List.mem_map.mp member
    exact (w u before).rouse epoch
  | false =>
    obtain ⟨epoch, owes, ready, closed⟩ := Errand.step_signs e c.device loud
    obtain ⟨inside, _⟩ := List.getElem?_eq_some_iff.mp at_i
    rw [perform_of_quiet loud]
    have owed (x : Errand) (stepped : (Errand.step (e, c.device)).1 = x)
        (owes : x.owesNotice = true) : Owed { c with
          errands := c.errands.set i (Errand.step (e, c.device)).1
          device := (Errand.step (e, c.device)).2
          numbered := c.numbered ++ e.label c.device } :=
      ⟨x, stepped ▸ List.mem_set inside _, owes⟩
    intro v member
    exact (w v member).mono epoch (fun before => before.set at_i rfl owes)
      (fun now => (ready now).imp_right (owed _ rfl))
      (fun now => (closed now).imp_right (owed _ rfl)) fun _ => .inl

theorem Watched.stepVisit {c d : Crowd ω} (w : c.Watched) {i : Nat}
    (inTime : c.inTime (.advance i) = true) (h : c.stepVisit i = some d) : d.Watched := by
  obtain ⟨v, at_i, rfl⟩ := stepVisit_eq_some h
  have mine : v ∈ c.visits := List.mem_iff_getElem?.mpr ⟨i, at_i⟩
  have early : ∀ e, v.phase = .resigned e → v.notices < UInt32.size := by
    intro e resigned
    simpa [Crowd.inTime, at_i, resigned] using inTime
  obtain ⟨channel, closed, ready, cancelled⟩ :=
    Reader.advance_signs v.mode v.phase (c.reader v.reader) c.device
  intro u member
  rcases List.mem_or_eq_of_mem_set member with other | rfl
  · refine (w u other).mono (congrArg Channel.epoch channel) id (fun h => .inl (ready h))
      (fun h => .inl (closed ▸ h)) fun r h => .inl ?_
    obtain ⟨rfl, own⟩ | ⟨-, old⟩ := cancelled_set h
    · exact cancelled own
    · exact old
  · refine (w v mine).advance ⟨rfl, rfl, fun h => ?_⟩ early
    obtain ⟨-, own⟩ | ⟨other, -⟩ := cancelled_set h
    · exact own
    · exact absurd rfl other

theorem Watched.signal {c d : Crowd ω} (w : c.Watched) {i : Nat} (h : c.signal i = some d) :
    d.Watched := by
  obtain ⟨v, _, -, -, rfl⟩ := signal_eq_some h
  refine w.frame (fun u member => ?_) rfl (List.Subset.refl _) id id fun _ => id
  exact (List.mem_or_eq_of_mem_set member).imp_right (by rintro rfl; rfl)

theorem Watched.expire {c d : Crowd ω} (w : c.Watched) {i : Nat} (h : c.expire i = some d) :
    d.Watched := by
  obtain ⟨v, _, -, -, rfl⟩ := expire_eq_some h
  obtain ⟨channel, closed, ready, -⟩ := Reader.collect_signs c.device
  rw [← Reader.device_expire] at channel closed ready
  refine w.frame (fun u member => ?_) (congrArg Channel.epoch channel) (List.Subset.refl _)
    ready (fun h => closed ▸ h) fun _ => id
  exact (List.mem_or_eq_of_mem_set member).imp_right (by rintro rfl; rfl)

theorem Watched.leave {c d : Crowd ω} (w : c.Watched) {i : Nat} (h : c.leave i = some d) :
    d.Watched := by
  have erased : ∀ u ∈ c.visits.eraseIdx i, u ∈ c.visits ∨ u.phase.epoch? = none :=
    fun u member => .inl (List.mem_of_mem_eraseIdx member)
  obtain ⟨v, -, ⟨f, -, ⟨-, rfl⟩ | ⟨buffer, -, rfl⟩⟩ | ⟨r, -, -, rfl⟩⟩ := leave_eq_some h
  · exact w.frame erased rfl (List.Subset.refl _) id id fun _ => id
  · exact w.frame erased rfl (List.subset_append_left _ _) id id fun _ => id
  · exact w.frame erased rfl (List.Subset.refl _) id id fun _ => id

theorem epoch_register (c : Channel ω) (x : ω) : (c.register x).2.epoch = c.epoch := by
  simp only [Channel.register]
  split <;> rfl

theorem epoch_deregister (c : Channel ω) (id : UInt64) :
    (c.deregister id).2.epoch = c.epoch := by
  simp only [Channel.deregister]
  split <;> rfl

theorem Watched.step {c d : Crowd ω} (w : c.Watched) {m : Move ω} (inTime : c.inTime m = true)
    (h : c.step m = some d) : d.Watched := by
  have keep : ∀ u ∈ c.visits, u ∈ c.visits ∨ u.phase.epoch? = none := fun _ => .inl
  have same := List.Subset.refl c.errands
  cases m with
  | order o => exact w.undertake h
  | errand i => exact w.stepErrand h
  | visit r mode buffer =>
    obtain rfl := visit_eq_some h
    refine w.frame (fun u member => ?_) rfl same id id fun _ => id
    refine (List.mem_append.mp member).imp_right fun new => ?_
    rw [List.mem_singleton.mp new, Visit.start]
    dsimp only
    split <;> rfl
  | advance i => exact w.stepVisit inTime h
  | signal i => exact w.signal h
  | expire i => exact w.expire h
  | leave i => exact w.leave h
  | drop k =>
    obtain ⟨f, -, -, rfl⟩ := drop_eq_some h
    exact w.frame keep (by simp) same (by simp) (by simp) fun _ => id
  | detach k =>
    obtain ⟨f, -, rfl⟩ := detach_eq_some h
    exact w.frame keep rfl same id id fun _ => id
  | reset r =>
    obtain rfl := Option.some.inj h
    refine w.frame keep rfl same id id fun k h => ?_
    obtain ⟨-, own⟩ | ⟨-, old⟩ := cancelled_set h
    · simp [Reader.reset] at own
    · exact old
  | register x =>
    obtain rfl := Option.some.inj h
    exact w.frame keep (epoch_register _ x) same id id fun _ => id
  | deregister id' =>
    obtain rfl := Option.some.inj h
    exact w.frame keep (epoch_deregister _ id') same id id fun _ => id

theorem Watched.run {c d : Crowd ω} (w : c.Watched) {ms : List (Move ω)}
    (prompt : c.prompt ms = true) (h : c.run ms = some d) : d.Watched := by
  induction ms generalizing c with
  | nil => exact Option.some.inj h ▸ w
  | cons m ms ih =>
    obtain ⟨e, first, rest⟩ := Option.bind_eq_some_iff.mp h
    rw [Crowd.prompt, first, Bool.and_eq_true] at prompt
    exact ih (w.step prompt.1 first) prompt.2 rest

/--
In every state that is reached, a reader that is suspended although a frame is there, the device is
closed or it is asked to give up will be woken: whoever made that change has yet to notify. So no
reader is left behind once all calls are over.
-/
theorem owed_of_suspended {d : Device ω} {readers : Nat} {ms : List (Move ω)} {c : Crowd ω}
    (ran : (start d readers).run ms = some c) (prompt : (start d readers).prompt ms = true) :
    (∀ v ∈ c.visits, v.phase.isSuspended = true →
      (c.device.mailbox.ready = true ∨ c.device.mailbox.closed = true ∨
        (c.reader v.reader).cancelled = true) →
      ∃ e ∈ c.errands, e.owesNotice = true) ∧
    ((∀ e ∈ c.errands, e.isOver = true ∨ ∃ f, e = .releasing f) →
      ∀ v ∈ c.visits, v.phase.isSuspended = true →
        c.device.mailbox.ready = false ∧ c.device.mailbox.closed = false ∧
          (c.reader v.reader).cancelled = false) := by
  have start : (start d readers).Watched := by simp [Watched, Crowd.start]
  have watched := start.run prompt ran
  have owed : ∀ v ∈ c.visits, v.phase.isSuspended = true →
      (c.device.mailbox.ready = true ∨ c.device.mailbox.closed = true ∨
        (c.reader v.reader).cancelled = true) → c.Owed := by
    intro v member asleep cause
    have w := watched v member
    have fresh := w.fresh asleep
    obtain ⟨e, suspended⟩ : ∃ e, v.phase = .suspended e := by
      cases at_phase : v.phase <;> simp_all [Reader.Phase.isSuspended]
    rcases cause with ready | closed | cancelled
    · exact w.ready (by rw [suspended]; rfl) fresh ready
    · exact w.closed (by rw [suspended]; rfl) fresh closed
    · exact w.leave (by rw [suspended]; rfl) fresh cancelled
  refine ⟨owed, fun ended v member asleep => ?_⟩
  have none : ¬c.Owed := by
    rintro ⟨e, member, owes⟩
    rcases ended e member with done | ⟨f, rfl⟩
    · simp [Errand.owesNotice_of_isOver done] at owes
    · simp [Errand.owesNotice] at owes
  refine ⟨?_, ?_, ?_⟩ <;> refine Bool.eq_false_iff.mpr fun now => none (owed v member asleep ?_)
  · exact .inl now
  · exact .inr (.inl now)
  · exact .inr (.inr now)

def lateWrite : List (Move Unit) :=
  [.visit 0 (.blocking none) none, .advance 0, .advance 0, .advance 0, .advance 0, .advance 0,
    .order (.write 1024 [1]), .errand 0, .errand 0, .errand 0]

theorem owed_of_suspended_lateWrite :
    ∃ c, (start { kind := .simple 4 } 1).run lateWrite = some c ∧
      (∃ v ∈ c.visits, v.phase.isSuspended = true) ∧ c.device.mailbox.ready = true ∧
      ∃ e ∈ c.errands, e.owesNotice = true := by
  refine ⟨_, rfl, ⟨_, List.mem_singleton.mpr rfl, rfl⟩, rfl, ?_⟩
  have owed := @owed_of_suspended Unit { kind := .simple 4 } 1 lateWrite _ rfl rfl
  exact owed.1 _ (List.mem_singleton.mpr rfl) rfl (.inl rfl)

end Crowd

end Framecast.Device
