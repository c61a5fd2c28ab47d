import Framecast.Device.Journal
import Framecast.Proofs.Device.Stock

set_option autoImplicit false

namespace Framecast.Device

variable {ω : Type}

namespace Entry

def published? : Entry → Option UInt64
  | .fired (.ok (.published seq)) _ => some seq
  | .wrote (.ok (_ + 1)) seq _ => some seq
  | _ => none

def displaced? : Entry → Option UInt64
  | .fired (.ok (.published _)) before => before
  | .wrote (.ok (_ + 1)) _ before => before
  | _ => none

def obtained? : Entry → Option UInt64
  | .took (.ok (.frame f)) => some f.seq
  | _ => none

def discarded? : Entry → Option UInt64
  | .closed before => before
  | _ => none

def removed? (e : Entry) : Option UInt64 := e.obtained?.or (e.displaced?.or e.discarded?)

def foundNoBuffer : Entry → Bool
  | .fired (.ok .noBuffer) _ => true
  | _ => false

def spoiled : Entry → Bool
  | .fired (.ok .failed) _ => true
  | _ => false

def cancels : Entry → Bool
  | .cancelled => true
  | _ => false

def closes : Entry → Bool
  | .closed _ => true
  | _ => false

end Entry

def published (es : List Entry) : List UInt64 := es.filterMap Entry.published?

def displaced (es : List Entry) : List UInt64 := es.filterMap Entry.displaced?

def obtained (es : List Entry) : List UInt64 := es.filterMap Entry.obtained?

def discarded (es : List Entry) : List UInt64 := es.filterMap Entry.discarded?

def removed (es : List Entry) : List UInt64 := es.filterMap Entry.removed?

theorem filterMap_concat {α β : Type} (f : α → Option β) (xs : List α) (x : α) :
    (xs ++ [x]).filterMap f = xs.filterMap f ++ (f x).toList := by
  cases h : f x <;> simp [h]

theorem filterMap_or_perm {α β : Type} {f g : α → Option β} (xs : List α)
    (apart : ∀ x, f x = none ∨ g x = none) :
    (xs.filterMap fun x => (f x).or (g x)).Perm (xs.filterMap f ++ xs.filterMap g) := by
  induction xs with
  | nil => exact .nil
  | cons x xs ih =>
    simp only [List.filterMap_cons]
    rcases apart x with none | none
    · rw [none, Option.none_or]
      cases g x with
      | none => exact ih
      | some y => exact (ih.cons y).trans List.perm_middle.symm
    · rw [none, Option.or_none]
      cases f x with
      | none => exact ih
      | some y => exact ih.cons y

theorem removed_perm (es : List Entry) :
    (removed es).Perm (obtained es ++ (displaced es ++ discarded es)) := by
  refine (filterMap_or_perm es fun e => ?_).trans
    ((filterMap_or_perm es fun e => ?_).append_left (obtained es))
  · cases e <;> simp [Entry.obtained?, Entry.displaced?, Entry.discarded?]
  · cases e <;> simp [Entry.displaced?, Entry.discarded?]

theorem obtained_sublist (es : List Entry) : (obtained es).Sublist (removed es) := by
  induction es with
  | nil => exact .slnil
  | cons e es ih =>
    simp only [obtained, removed, List.filterMap_cons] at ih ⊢
    cases got : e.obtained? with
    | none =>
      cases e.removed? with
      | none => exact ih
      | some n => exact ih.cons n
    | some n => simpa [Entry.removed?, got] using ih

theorem countP_concat {α : Type} (p : α → Bool) (xs : List α) (x : α) :
    (xs ++ [x]).countP p = xs.countP p + (p x).toNat := by
  cases h : p x <;> simp [List.countP_append, h]

structure Tidy (d : Device ω) : Prop where
  honest : d.mailbox.Honest
  closing : d.mailbox.closed = d.closing
  empty : d.mailbox.closed = true → d.mailbox.frame = none

-- a call that is written down as `e` turns the device `d` into `d'`
structure Effect (d : Device ω) (e : Entry) (d' : Device ω) : Prop where
  tidy : d'.Tidy
  produced : d'.produced = d.produced + .ofNat e.published?.toList.length
  failures : d'.failures = d.failures + .ofNat (e.foundNoBuffer.toNat + e.spoiled.toNat)
  nextSeq : d'.nextSeq = d.nextSeq + .ofNat (e.published?.toList.length + e.spoiled.toNat)
  lastSeq : d'.mailbox.lastSeq = e.published?.getD d.mailbox.lastSeq
  epoch : d'.channel.epoch + .ofNat d.mailbox.closed.toNat =
    d.channel.epoch +
      .ofNat (e.published?.toList.length + e.cancels.toNat + d'.mailbox.closed.toNat)
  closed : d'.mailbox.closed = (d.mailbox.closed || e.closes)
  slot : d.slot?.toList ++ e.published?.toList = e.removed?.toList ++ d'.slot?.toList
  number : ∀ n, e.published? = some n → n = d.nextSeq

def showing (d : Device ω) (pool : Option Pool) (f : Frame) : Device ω :=
  { d with
    pool := pool
    mailbox := { d.mailbox with frame := some f, ready := true, lastSeq := f.seq }
    channel := d.channel.notifyAll
    nextSeq := d.nextSeq + 1
    produced := d.produced + 1 }

theorem publish_number (d : Device ω) (openBox : d.mailbox.closed = false) (f : Frame) :
    ∃ pool, d.number.2.publish f = (.ok (), d.showing pool f) := by
  have deposit := deposit_open (d := d.number.2) openBox f
  obtain ⟨pool, dropped⟩ := dropAny_eq (d.number.2.deposit f).2 d.mailbox.frame
  refine ⟨pool, ?_⟩
  simp only [publish, deposit] at dropped ⊢
  rw [show d.number.2.mailbox.frame = d.mailbox.frame from rfl, dropped]
  rfl

namespace Effect

variable {d d' : Device ω} {e : Entry}

theorem withPool (effect : Effect d e d') (pool : Option Pool) :
    Effect d e { d' with pool := pool } :=
  ⟨⟨effect.tidy.honest, effect.tidy.closing, effect.tidy.empty⟩, effect.produced, effect.failures,
    effect.nextSeq, effect.lastSeq, effect.epoch, effect.closed, effect.slot, effect.number⟩

theorem of_nothing (tidy : d.Tidy) (unpublished : e.published? = none) (kept : e.removed? = none)
    (counts : e.foundNoBuffer = false ∧ e.spoiled = false ∧ e.cancels = false ∧ e.closes = false) :
    Effect d e d := by
  obtain ⟨found, drawn, loyal, still⟩ := counts
  constructor <;> simp [unpublished, kept, found, drawn, loyal, still, tidy]

theorem of_showing (tidy : d.Tidy) (openBox : d.mailbox.closed = false) (pool : Option Pool)
    {f : Frame} (number : f.seq = d.nextSeq) (published : e.published? = some f.seq)
    (displaced : e.displaced? = d.slot?) (rest : e.obtained? = none ∧ e.discarded? = none)
    (counts : e.foundNoBuffer = false ∧ e.spoiled = false ∧ e.cancels = false ∧ e.closes = false) :
    Effect d e (d.showing pool f) := by
  obtain ⟨found, drawn, loyal, still⟩ := counts
  have removed : e.removed? = d.slot? := by simp [Entry.removed?, displaced, rest]
  constructor
  case tidy => exact ⟨rfl, tidy.closing, by simp [showing, openBox]⟩
  all_goals
    simp [showing, published, removed, found, drawn, loyal, still, slot?, openBox,
      Channel.notifyAll, number]

theorem of_noBuffer (tidy : d.Tidy) (before : Option UInt64) :
    Effect d (.fired (.ok .noBuffer) before) d.countFailure := by
  constructor
  case tidy => exact ⟨tidy.honest, tidy.closing, tidy.empty⟩
  all_goals
    simp [countFailure, Entry.published?, Entry.removed?, Entry.obtained?, Entry.displaced?,
      Entry.discarded?, Entry.foundNoBuffer, Entry.spoiled, Entry.cancels, Entry.closes, slot?]

theorem of_failed (tidy : d.Tidy) (before : Option UInt64) :
    Effect d (.fired (.ok .failed) before) d.number.2.countFailure := by
  constructor
  case tidy => exact ⟨tidy.honest, tidy.closing, tidy.empty⟩
  all_goals
    simp [countFailure, Device.number, Entry.published?, Entry.removed?, Entry.obtained?,
      Entry.displaced?, Entry.discarded?, Entry.foundNoBuffer, Entry.spoiled, Entry.cancels,
      Entry.closes, slot?]

theorem tick (tidy : d.Tidy) (openBox : d.mailbox.closed = false) (g : Geometry) (p : Pattern) :
    Effect d (.fired (d.tick g p).1 d.slot?) (d.tick g p).2 := by
  simp only [Device.tick]
  cases popped : d.popBuffer with
  | none => exact of_noBuffer tidy _
  | some found =>
    obtain ⟨buffer, d₁⟩ := found
    obtain ⟨_, pool, -, -, rfl⟩ := popBuffer_eq_some popped
    simp only [Device.number]
    cases (p.draw g d.nextSeq buffer).fault with
    | some cause => exact (of_failed tidy d.slot?).withPool _
    | none =>
      simp only
      obtain ⟨pool', shown⟩ := publish_number { d with pool := some pool } openBox
        ⟨d.nextSeq, (p.draw g d.nextSeq buffer).buffer, true⟩
      simp only [Device.number] at shown
      rw [shown]
      exact of_showing tidy openBox pool' rfl rfl rfl ⟨rfl, rfl⟩ ⟨rfl, rfl, rfl, rfl⟩

theorem fire (tidy : d.Tidy) : Effect d (.fired d.fire.1 d.slot?) d.fire.2 := by
  simp only [Device.fire]
  split
  next => exact of_nothing tidy rfl rfl ⟨rfl, rfl, rfl, rfl⟩
  next g p period kind =>
    cases openBox : d.mailbox.closed with
    | true => exact of_nothing tidy rfl rfl ⟨rfl, rfl, rfl, rfl⟩
    | false => exact tick tidy openBox g p

theorem write (tidy : d.Tidy) (memory : Nat) (data : Bytes) :
    Effect d (.wrote (d.write memory data).1 d.nextSeq d.slot?) (d.write memory data).2 := by
  simp only [Device.write]
  split
  next => exact of_nothing tidy rfl rfl ⟨rfl, rfl, rfl, rfl⟩
  next capacity kind =>
    cases openBox : d.mailbox.closed with
    | true => exact of_nothing tidy rfl rfl ⟨rfl, rfl, rfl, rfl⟩
    | false =>
      cases kept : data.take capacity.toNat with
      | nil => exact of_nothing tidy rfl rfl ⟨rfl, rfl, rfl, rfl⟩
      | cons b rest =>
        cases room : Pool.allocate memory (b :: rest).length with
        | error cause =>
          -- nothing has been changed yet, and no number is used up
          simp only [List.isEmpty_cons]
          exact of_nothing tidy rfl rfl ⟨rfl, rfl, rfl, rfl⟩
        | ok buffer =>
          obtain ⟨pool, shown⟩ := publish_number d openBox ⟨d.nextSeq, b :: rest, false⟩
          simp only [Device.number] at shown
          simp only [Device.number, shown, List.isEmpty_cons]
          exact of_showing tidy openBox pool rfl rfl rfl ⟨rfl, rfl⟩ ⟨rfl, rfl, rfl, rfl⟩

theorem cancel (tidy : d.Tidy) (r : Reader) : Effect d .cancelled (d.cancel r).2 := by
  constructor
  case tidy => exact ⟨tidy.honest, tidy.closing, tidy.empty⟩
  case epoch =>
    simp only [Device.cancel, notify, Channel.notifyAll, Entry.published?, Entry.cancels,
      UInt32.ofNat_add]
    exact add_assoc _ _ _
  all_goals
    simp [Device.cancel, notify, Entry.published?, Entry.removed?, Entry.obtained?,
      Entry.displaced?, Entry.discarded?, Entry.foundNoBuffer, Entry.spoiled, Entry.closes, slot?]

theorem close (tidy : d.Tidy) : Effect d (.closed d.slot?) d.close := by
  cases begun : d.closing with
  | true =>
    have closed : d.mailbox.closed = true := tidy.closing.trans begun
    have empty : d.slot? = none := by simp [slot?, tidy.empty closed]
    rw [Device.close, if_pos begun, empty]
    constructor
    case tidy => exact tidy
    all_goals
      simp [closed, empty, Entry.published?, Entry.removed?, Entry.obtained?, Entry.displaced?,
        Entry.discarded?, Entry.foundNoBuffer, Entry.spoiled, Entry.cancels]
  | false =>
    have closed : d.mailbox.closed = false := tidy.closing.trans begun
    have shut : ∃ pool, d.close =
        { d with
          pool := pool
          mailbox := { d.mailbox with frame := none, ready := false, closed := true }
          channel := d.channel.notifyAll
          closing := true } := by
      obtain ⟨pool, dropped⟩ := dropAny_eq ({ d with closing := true }.shut).2 d.mailbox.frame
      refine ⟨pool, ?_⟩
      rw [Device.close, if_neg (by simp [begun])]
      exact congrArg notify dropped
    obtain ⟨pool, shut⟩ := shut
    rw [shut]
    constructor
    case tidy => exact ⟨rfl, rfl, fun _ => rfl⟩
    all_goals
      simp [closed, slot?, Channel.notifyAll, Entry.published?, Entry.removed?, Entry.obtained?,
        Entry.displaced?, Entry.discarded?, Entry.foundNoBuffer, Entry.spoiled, Entry.cancels,
        Entry.closes]

theorem collect (tidy : d.Tidy) {f : Frame} (got : d.collect = (some f, d')) :
    Effect d (.took (.ok (.frame f))) d' := by
  obtain ⟨-, same⟩ | ⟨-, same⟩ := collect_cases d
  · simp [same] at got
  · rw [same] at got
    obtain ⟨there, rfl⟩ := Prod.mk.inj got
    constructor
    case tidy => exact ⟨rfl, tidy.closing, fun _ => rfl⟩
    all_goals
      simp [there, slot?, Entry.published?, Entry.removed?, Entry.obtained?, Entry.displaced?,
        Entry.discarded?, Entry.foundNoBuffer, Entry.spoiled, Entry.cancels, Entry.closes]

theorem of_none (tidy : d.Tidy) (result : Except ReadError Taken)
    (none : ∀ f, result ≠ .ok (.frame f)) : Effect d (.took result) d := by
  have nothing : (Entry.took result).obtained? = Option.none := by
    simp only [Entry.obtained?]
    split
    next f same => injection same with same; exact absurd same (none f)
    next => rfl
  refine of_nothing tidy rfl ?_ ⟨rfl, rfl, rfl, rfl⟩
  simp [Entry.removed?, nothing, Entry.displaced?, Entry.discarded?]

end Effect

theorem Tidy.collect_cases {d : Device ω} (tidy : d.Tidy) :
    (∃ f d', d.collect = (some f, d')) ∨ d.collect = (none, d) := by
  obtain ⟨-, same⟩ | ⟨ready, same⟩ := Device.collect_cases d
  · exact .inr same
  · rw [tidy.honest] at ready
    obtain ⟨f, there⟩ := Option.isSome_iff_exists.mp ready
    rw [there] at same
    exact .inl ⟨f, _, same⟩

/-- A device that some calls were made on, with counts that may have wrapped. -/
structure Sound (d : Device ω) (es : List Entry) : Prop where
  tidy : d.Tidy
  produced : d.produced = .ofNat (published es).length
  failures : d.failures = .ofNat (es.countP Entry.foundNoBuffer + es.countP Entry.spoiled)
  nextSeq : d.nextSeq = .ofNat (1 + (published es).length + es.countP Entry.spoiled)
  lastSeq : d.mailbox.lastSeq = (published es).getLast?.getD noSeq
  epoch : d.channel.epoch =
    .ofNat ((published es).length + es.countP Entry.cancels + d.mailbox.closed.toNat)
  closed : d.mailbox.closed = es.any Entry.closes
  flow : published es = removed es ++ d.slot?.toList
  numbers : ∃ ks : List Nat, published es = ks.map UInt64.ofNat ∧ ks.Pairwise (· < ·) ∧
    ∀ k ∈ ks, k < 1 + (published es).length + es.countP Entry.spoiled

namespace Sound

variable {d d' : Device ω} {es : List Entry} {e : Entry}

theorem published_concat (es : List Entry) (e : Entry) :
    published (es ++ [e]) = published es ++ e.published?.toList := filterMap_concat _ es e

theorem numbers_concat (s : Sound d es) (effect : Effect d e d') :
    ∃ ks : List Nat, published (es ++ [e]) = ks.map UInt64.ofNat ∧ ks.Pairwise (· < ·) ∧
      ∀ k ∈ ks, k < 1 + (published (es ++ [e])).length + (es ++ [e]).countP Entry.spoiled := by
  obtain ⟨ks, same, rising, below⟩ := s.numbers
  rw [published_concat, countP_concat, List.length_append]
  cases new : e.published? with
  | none =>
    refine ⟨ks, by simpa using same, rising, fun k member => ?_⟩
    have old := below k member
    omega
  | some n =>
    refine ⟨ks ++ [1 + (published es).length + es.countP Entry.spoiled], ?_, ?_, ?_⟩
    · rw [effect.number n new, s.nextSeq, same]
      simp
    · rw [List.pairwise_append]
      refine ⟨rising, List.pairwise_singleton _ _, fun k member m last => ?_⟩
      rw [List.mem_singleton.mp last]
      exact below k member
    · intro k member
      rw [Option.toList_some, List.length_singleton]
      rcases List.mem_append.mp member with old | last
      · have old := below k old
        omega
      · rw [List.mem_singleton.mp last]
        omega

theorem concat (s : Sound d es) (effect : Effect d e d') : Sound d' (es ++ [e]) where
  tidy := effect.tidy
  produced := by
    rw [effect.produced, s.produced, published_concat, List.length_append, UInt64.ofNat_add]
  failures := by
    rw [effect.failures, s.failures, countP_concat, countP_concat, ← UInt64.ofNat_add]
    congr 1
    omega
  nextSeq := by
    rw [effect.nextSeq, s.nextSeq, published_concat, countP_concat, List.length_append,
      ← UInt64.ofNat_add]
    congr 1
    omega
  lastSeq := by
    rw [effect.lastSeq, s.lastSeq, published_concat]
    cases e.published? <;> simp
  epoch := by
    have moved := effect.epoch
    rw [s.epoch, ← UInt32.ofNat_add] at moved
    apply add_right_cancel (b := UInt32.ofNat d.mailbox.closed.toNat)
    rw [moved, published_concat, countP_concat, List.length_append, ← UInt32.ofNat_add]
    congr 1
    omega
  closed := by
    rw [effect.closed, s.closed, List.any_append, List.any_cons, List.any_nil, Bool.or_false]
  flow := by
    rw [published_concat, s.flow, List.append_assoc, effect.slot, ← List.append_assoc, removed,
      removed, filterMap_concat]
  numbers := s.numbers_concat effect

theorem withPool (s : Sound d es) (pool : Option Pool) : Sound { d with pool := pool } es :=
  ⟨⟨s.tidy.honest, s.tidy.closing, s.tidy.empty⟩, s.produced, s.failures, s.nextSeq, s.lastSeq,
    s.epoch, s.closed, s.flow, s.numbers⟩

theorem drop (s : Sound d es) (f : Frame) : Sound (d.drop f) es := by
  obtain ⟨pool, same⟩ := drop_eq d f
  rw [same]
  exact s.withPool pool

theorem of_openWith {memory : Nat} {kind : Kind} {buffers : UInt64}
    (opened : openWith memory kind buffers = .ok d) : Sound d [] := by
  obtain ⟨pool, rfl⟩ := openWith_eq_ok opened
  exact ⟨⟨rfl, rfl, by simp⟩, rfl, rfl, rfl, rfl, rfl, rfl, rfl, [], rfl, .nil, by simp⟩

end Sound

namespace Journal

def Sound (j : Journal ω) : Prop := Device.Sound j.device j.entries

namespace Sound

variable {j k : Journal ω}

theorem note {e : Entry} {d : Device ω} (s : j.Sound) (effect : Effect j.device e d) :
    (j.note e d).Sound := s.concat effect

theorem bring {result : Except ReadError Taken} {d : Device ω} (s : j.Sound)
    (effect : Effect j.device (.took result) d) (buffer : Option Bytes) :
    (j.bring buffer result d).Sound := by
  have noted := s.note effect
  simp only [Journal.bring]
  split
  next => exact noted
  next taken buffer =>
    cases taken with
    | frame f => exact noted.drop f
    | endOfStream => exact noted
  next => exact noted

theorem attempt (s : j.Sound) (r : Nat) (mode : Mode) (buffer : Option Bytes) :
    (j.attempt r mode buffer).Sound := by
  have empty (result : Except ReadError Taken) (none : ∀ f, result ≠ .ok (.frame f))
      (reader : Reader) : ((j.setReader r reader).bring buffer result j.device).Sound :=
    bring (j := j.setReader r reader) s (.of_none s.tidy result none) buffer
  simp only [Journal.attempt, Reader.attempt_eq]
  obtain ⟨f, d, got⟩ | none := s.tidy.collect_cases
  · rw [got]
    exact bring (j := j.setReader r _) s (.collect s.tidy got) buffer
  · rw [none]
    cases mode with
    | nonblocking => exact empty _ (by simp) _
    | blocking timeout =>
      by_cases closed : j.device.mailbox.closed = true
      next =>
        simp only [closed, if_true]
        exact empty _ (by simp) _
      next =>
        by_cases cancelled : (j.reader r).cancelled = true
        next =>
          simp only [closed, cancelled, if_true]
          exact empty _ (by simp) _
        next =>
          simp only [closed, cancelled]
          exact s

theorem expire (s : j.Sound) (buffer : Option Bytes) :
    (j.bring buffer (Reader.expire j.device).1 (Reader.expire j.device).2).Sound := by
  simp only [Reader.expire]
  obtain ⟨f, d, got⟩ | none := s.tidy.collect_cases
  · rw [got]
    exact s.bring (.collect s.tidy got) buffer
  · rw [none]
    exact s.bring (.of_none s.tidy _ (by simp)) buffer

theorem resume {i : Nat} (event : WaitResult) (s : j.Sound) (h : j.resume i event = some k) :
    k.Sound := by
  simp only [Journal.resume] at h
  split at h
  next => simp at h
  next w _ =>
    have asleep : (j.withoutSleeper i).Sound := s
    split at h
    next =>
      split at h
      next => simp at h
      next => exact Option.some.inj h ▸ asleep.attempt _ _ _
    next => exact Option.some.inj h ▸ asleep.expire _
    next => simp at h
    next => exact Option.some.inj h ▸ asleep.bring (.of_none s.tidy _ (by simp)) _

theorem tick (s : j.Sound) (h : j.tick = some k) : k.Sound := by
  simp only [Journal.tick] at h
  split at h
  next g p period kind =>
    split at h
    next => simp at h
    next begun =>
      have openBox : j.device.mailbox.closed = false := by
        rw [s.tidy.closing]
        simpa using begun
      exact Option.some.inj h ▸ s.note (.tick s.tidy openBox g p)
  next => simp at h

theorem perform {c : Call} (s : j.Sound) (h : j.perform c = some k) : k.Sound := by
  cases c with
  | tick => exact s.tick h
  | fire => exact Option.some.inj h ▸ s.note (.fire s.tidy)
  | write memory data => exact Option.some.inj h ▸ s.note (.write s.tidy memory data)
  | take r mode buffer =>
    simp only [Journal.perform] at h
    split at h
    next => exact Option.some.inj h ▸ s.note (.of_none s.tidy _ (by simp))
    next => exact Option.some.inj h ▸ s.attempt r mode buffer
  | wake i => exact s.resume .woken h
  | expire i => exact s.resume .timedOut h
  | signal i => exact s.resume .interrupted h
  | poll interest =>
    exact Option.some.inj h ▸ s.note (.of_nothing s.tidy rfl rfl ⟨rfl, rfl, rfl, rfl⟩)
  | cancel r => exact Option.some.inj h ▸ s.note (.cancel s.tidy (j.reader r))
  | reset r => exact Option.some.inj h ▸ s.note (.of_nothing s.tidy rfl rfl ⟨rfl, rfl, rfl, rfl⟩)
  | close => exact Option.some.inj h ▸ s.note (.close s.tidy)
  | drop n =>
    simp only [Journal.perform] at h
    split at h
    next f _ => exact Option.some.inj h ▸ Device.Sound.drop s f
    next => simp at h
  | detach n =>
    simp only [Journal.perform] at h
    split at h
    next => exact Option.some.inj h ▸ s
    next => simp at h

theorem run {cs : List Call} (s : j.Sound) (h : j.run cs = some k) : k.Sound := by
  induction cs generalizing j with
  | nil => exact Option.some.inj h ▸ s
  | cons c cs ih =>
    obtain ⟨i, first, rest⟩ := Option.bind_eq_some_iff.mp h
    exact ih (s.perform first) rest

end Sound

end Journal

/-- The books agree with what was written down. -/
structure Balanced (d : Device ω) (es : List Entry) : Prop where
  produced : d.produced.toNat = (published es).length
  failures : d.failures.toNat = es.countP Entry.foundNoBuffer + es.countP Entry.spoiled
  nextSeq : d.nextSeq.toNat = 1 + d.produced.toNat + es.countP Entry.spoiled
  lastSeq : d.mailbox.lastSeq = (published es).getLast?.getD noSeq
  closed : d.mailbox.closed = es.any Entry.closes
  epoch : d.channel.epoch =
    .ofNat (d.produced.toNat + es.countP Entry.cancels + d.mailbox.closed.toNat)
  fresh : (published es).Pairwise (· < ·)
  rising : (obtained es).Pairwise (· < ·)
  genuine : obtained es ⊆ published es
  once : (published es).Perm (obtained es ++ (displaced es ++ discarded es) ++ d.slot?.toList)
  missing : ∀ n ∈ published es,
    n ∉ obtained es ↔ n ∈ displaced es ∨ n ∈ discarded es ∨ d.slot? = some n

theorem countP_add_countP_le {α : Type} {p q : α → Bool} (xs : List α)
    (apart : ∀ x, p x = false ∨ q x = false) : xs.countP p + xs.countP q ≤ xs.length := by
  induction xs with
  | nil => exact Nat.le_refl 0
  | cons x xs ih =>
    rw [List.countP_cons, List.countP_cons, List.length_cons]
    rcases apart x with no | no <;> rw [no] <;> simp only [Bool.false_eq_true, if_false] <;>
      split <;> omega

theorem length_published_add_le (es : List Entry) :
    (published es).length + es.countP Entry.spoiled ≤ es.length := by
  rw [published, List.length_filterMap_eq_countP]
  apply countP_add_countP_le
  intro e
  cases e with
  | fired result before =>
    rcases result with _ | _ | _ | _ <;> simp [Entry.published?, Entry.spoiled]
  | _ => exact .inr rfl

theorem countP_failures_le (es : List Entry) :
    es.countP Entry.foundNoBuffer + es.countP Entry.spoiled ≤ es.length := by
  apply countP_add_countP_le
  intro e
  cases e with
  | fired result before =>
    rcases result with _ | _ | _ | _ <;> simp [Entry.foundNoBuffer, Entry.spoiled]
  | _ => exact .inr rfl

namespace Sound

variable {d : Device ω} {es : List Entry}

theorem fresh (s : Sound d es) (few : es.length < 2 ^ 63) :
    (published es).Pairwise (· < ·) := by
  obtain ⟨ks, same, rising, below⟩ := s.numbers
  have bound := length_published_add_le es
  rw [same, List.pairwise_map]
  refine rising.imp_of_mem fun {a b} _ inside less => ?_
  have bound' := below b inside
  rw [UInt64.lt_iff_toNat_lt, UInt64.toNat_ofNat_of_lt' (by simp only [UInt64.size]; omega),
    UInt64.toNat_ofNat_of_lt' (by simp only [UInt64.size]; omega)]
  exact less

theorem once (s : Sound d es) :
    (published es).Perm (obtained es ++ (displaced es ++ discarded es) ++ d.slot?.toList) := by
  rw [s.flow]
  exact (removed_perm es).append_right _

theorem missing (s : Sound d es) (few : es.length < 2 ^ 63) {n : UInt64}
    (member : n ∈ published es) :
    n ∉ obtained es ↔ n ∈ displaced es ∨ n ∈ discarded es ∨ d.slot? = some n := by
  have nodup : (published es).Nodup := (s.fresh few).imp UInt64.ne_of_lt
  have apart := s.once.nodup_iff.mp nodup
  have places := s.once.mem_iff.mp member
  rw [List.append_assoc, List.nodup_append] at apart
  rw [List.append_assoc, List.mem_append] at places
  have elsewhere : n ∈ displaced es ++ discarded es ++ d.slot?.toList ↔
      n ∈ displaced es ∨ n ∈ discarded es ∨ d.slot? = some n := by
    simp only [List.mem_append, Option.mem_toList, or_assoc]
  rw [← elsewhere]
  constructor
  · exact places.resolve_left
  · exact fun there here => apart.2.2 n here n there rfl

theorem balanced (s : Sound d es) (few : es.length < 2 ^ 63) : Balanced d es := by
  have spent := length_published_add_le es
  have failed := countP_failures_le es
  have produced : d.produced.toNat = (published es).length := by
    rw [s.produced, UInt64.toNat_ofNat_of_lt' (by simp only [UInt64.size]; omega)]
  have sublist : (obtained es).Sublist (published es) := by
    rw [s.flow]
    exact (obtained_sublist es).trans (List.sublist_append_left _ _)
  refine ⟨produced, ?_, ?_, s.lastSeq, s.closed, ?_, s.fresh few, (s.fresh few).sublist sublist,
    sublist.subset, s.once, fun n => s.missing few⟩
  · rw [s.failures, UInt64.toNat_ofNat_of_lt' (by simp only [UInt64.size]; omega)]
  · rw [s.nextSeq, produced, UInt64.toNat_ofNat_of_lt' (by simp only [UInt64.size]; omega)]
  · rw [s.epoch, produced]

end Sound

/--
Whatever calls are made on a device by any number of readers, and in whatever order, its books
balance: frames that were published and ticks that failed are what the counters say, only they use
numbers up, and each number that was published is where it should be.
-/
theorem Journal.balanced_of_run {memory : Nat} {kind : Kind} {buffers : UInt64} {d : Device ω}
    {readers : Nat} {cs : List Journal.Call} {j : Journal ω}
    (opened : openWith memory kind buffers = .ok d)
    (ran : (Journal.start d readers).run cs = some j) (few : j.entries.length < 2 ^ 63) :
    Balanced j.device j.entries := by
  have start : (Journal.start d readers).Sound := Sound.of_openWith opened
  exact Sound.balanced (start.run ran) few

def oneHeld : List Journal.Call :=
  [.take 0 (.blocking none) none, .fire, .wake 0, .fire, .fire, .drop 0, .fire, .cancel 0, .close,
    .fire]

-- there is memory for the first and the last, and nothing to allocate for the third
def oneUnallocated : List Journal.Call :=
  [.write 1024 [1, 2], .write 1 [3, 4], .write 0 [], .write 1024 [5]]

theorem Journal.balanced_of_run_oneHeld :
    (∃ (d : Device Unit) (j : Journal Unit),
      openWith 1024 (.frames ⟨2, 2, 1⟩ .gradient none) 2 = .ok d ∧
      (Journal.start d 1).run oneHeld = some j ∧ j.entries.length < 2 ^ 63 ∧
      published j.entries = [1, 2, 3] ∧ obtained j.entries = [1] ∧ displaced j.entries = [2] ∧
      discarded j.entries = [3] ∧ j.device.failures = 1 ∧ j.device.channel.epoch = 5 ∧
      Balanced j.device j.entries) ∧
    ∃ (d : Device Unit) (j : Journal Unit),
      openWith 1024 (.simple 4) 2 = .ok d ∧ (Journal.start d 0).run oneUnallocated = some j ∧
      j.entries = [.wrote (.ok 2) 1 none, .wrote (.error (.exhausted 2)) 2 (some 1),
        .wrote (.ok 0) 2 (some 1), .wrote (.ok 1) 2 (some 1)] ∧
      published j.entries = [1, 2] ∧ j.device.nextSeq = 3 ∧ Balanced j.device j.entries := by
  constructor
  case left =>
    refine ⟨_, _, rfl, rfl, by decide, rfl, rfl, rfl, rfl, rfl, rfl, ?_⟩
    exact @Journal.balanced_of_run Unit 1024 (.frames ⟨2, 2, 1⟩ .gradient none) 2 _ 1 oneHeld _ rfl
      rfl (by decide)
  case right =>
    refine ⟨_, _, rfl, rfl, rfl, rfl, rfl, ?_⟩
    exact @Journal.balanced_of_run Unit 1024 (.simple 4) 2 _ 0 oneUnallocated _ rfl rfl (by decide)

end Framecast.Device
