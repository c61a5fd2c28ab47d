import Framecast.Proofs.Crowd.Frames
import Framecast.Proofs.Device.Stock

set_option autoImplicit false

namespace Framecast

namespace Bytes

theorem take_overlay (src dst : Bytes) :
    (overlay src dst).take (min dst.length src.length) =
      src.take (min dst.length src.length) := by
  rw [overlay, List.take_append_of_le_length (by simp), List.take_take]
  congr 1
  omega

end Bytes

theorem Frame.copyTo_front (f : Frame) (buffer : Bytes) :
    (f.copyTo buffer).1 = min (f.copyTo buffer).2.length f.data.length ∧
      (f.copyTo buffer).2.take (f.copyTo buffer).1 = f.data.take (f.copyTo buffer).1 := by
  simp only [copyTo, Bytes.length_overlay, Bytes.take_overlay, and_self]

namespace Device

variable {ω : Type}

/-- What the frames of a device are to hold when `numbered` are the writes that got a number. -/
def Genuine (kind : Kind) (numbered : List (UInt64 × Bytes)) (f : Frame) : Prop :=
  match kind with
  | .frames g p _ => p.picture g f.seq = some f.data
  | .simple capacity =>
    ∃ data, (f.seq, data) ∈ numbered ∧ f.data = data.take capacity.toNat ∧ f.data ≠ []

theorem Genuine.mono {kind : Kind} {numbered more : List (UInt64 × Bytes)} {f : Frame}
    (genuine : Genuine kind numbered f) : Genuine kind (numbered ++ more) f := by
  cases kind with
  | frames g p period => exact genuine
  | simple capacity =>
    obtain ⟨data, member, rest⟩ := genuine
    exact ⟨data, List.mem_append_left _ member, rest⟩

namespace Errand

theorem nextSeq_step {capacity : UInt64} {d : Device ω} (kind : d.kind = .simple capacity)
    (e : Errand) :
    (∃ data, e.label d = [(d.nextSeq, data)] ∧ (step (e, d)).2.nextSeq = d.nextSeq + 1) ∨
      (e.label d = [] ∧ (step (e, d)).2.nextSeq = d.nextSeq) := by
  cases e with
  | labelling data kept => exact .inl ⟨data, rfl, rfl⟩
  | firing =>
    obtain same | ⟨e, -, same⟩ := step_firing_cases d <;> rw [same] <;> exact .inr ⟨rfl, rfl⟩
  | popping =>
    refine .inr ⟨rfl, ?_⟩
    simp only [step]
    split
    next => rfl
    next b d' popped =>
      obtain ⟨p, q, -, -, rfl⟩ := popBuffer_eq_some popped
      rfl
  | numbering b =>
    obtain ⟨_, -, same⟩ | ⟨_, _, _, frames, -⟩ := step_numbering_cases b d
    · exact .inr ⟨rfl, by rw [same]⟩
    · simp [kind] at frames
  | offering memory data =>
    obtain ⟨_, -, -, same⟩ | ⟨e, -, same⟩ := step_offering_cases memory data d <;> rw [same] <;>
      exact .inr ⟨rfl, rfl⟩
  | depositing f =>
    cases closed : d.mailbox.closed with
    | true => exact .inr ⟨rfl, by rw [step_depositing_closed closed]⟩
    | false => exact .inr ⟨rfl, by rw [step_depositing_open closed]⟩
  | displacing old seq => exact .inr ⟨rfl, nextSeq_dropAny d old⟩
  | dropping old => exact .inr ⟨rfl, nextSeq_dropAny d old⟩
  | refused f => exact .inr ⟨rfl, nextSeq_drop d f⟩
  | releasing f => exact .inr ⟨rfl, nextSeq_drop d f⟩
  | closing =>
    refine .inr ⟨rfl, ?_⟩
    simp only [step]
    split <;> rfl
  | _ => exact .inr ⟨rfl, rfl⟩

end Errand

namespace Crowd

variable {c d : Crowd ω}

theorem numbered_perform (i : Nat) (e : Errand) :
    (c.perform i e).numbered = c.numbered ++ e.label c.device := by
  cases loud : e.notifies with
  | true => rw [perform_of_notifies loud]; rfl
  | false => rw [perform_of_quiet loud]

theorem readings_perform (i : Nat) (e : Errand) : (c.perform i e).readings = c.readings := by
  cases loud : e.notifies with
  | true => rw [perform_of_notifies loud]; rfl
  | false => rw [perform_of_quiet loud]

theorem readings_step {m : Move ω} (h : c.step m = some d) {r : Reading}
    (member : r ∈ d.readings) :
    r ∈ c.readings ∨
      ∃ f ∈ c.frames, ∃ buffer, r = ⟨f.seq, (f.copyTo buffer).1, (f.copyTo buffer).2⟩ := by
  cases m with
  | leave i =>
    obtain ⟨v, at_i, ⟨f, got, ⟨-, rfl⟩ | ⟨buffer, -, rfl⟩⟩ | ⟨r, -, -, rfl⟩⟩ := leave_eq_some h
    · exact .inl member
    · rcases List.mem_append.mp member with old | new
      · exact .inl old
      · refine .inr ⟨f, mem_frames.mpr (.inr (.inr (.inl ⟨v, ?_, ?_⟩))), buffer, ?_⟩
        · exact List.mem_of_getElem? at_i
        · rw [got]
          exact List.mem_singleton.mpr rfl
        · exact List.mem_singleton.mp new
    · exact .inl member
  | errand i =>
    obtain ⟨e, -, -, rfl⟩ := stepErrand_eq_some h
    exact .inl (readings_perform i e ▸ member)
  | order o =>
    obtain rfl | ⟨r, readers, -, rfl⟩ := undertake_eq_some h <;> exact .inl member
  | visit r mode buffer =>
    obtain rfl := visit_eq_some h
    exact .inl member
  | advance i =>
    obtain ⟨v, -, rfl⟩ := stepVisit_eq_some h
    exact .inl member
  | signal i =>
    obtain ⟨v, _, -, -, rfl⟩ := signal_eq_some h
    exact .inl member
  | expire i =>
    obtain ⟨v, _, -, -, rfl⟩ := expire_eq_some h
    exact .inl member
  | drop k =>
    obtain ⟨f, -, -, rfl⟩ := drop_eq_some h
    exact .inl member
  | detach k =>
    obtain ⟨f, -, rfl⟩ := detach_eq_some h
    exact .inl member
  | _ =>
    obtain rfl := Option.some.inj h
    exact .inl member

structure Faithful (c : Crowd ω) (kind : Kind) : Prop where
  same : c.device.kind = kind
  fits : ∀ g p period, kind = .frames g p period → g.frameSize ≤ Size.pieceLimit
  labelling : ∀ data kept, .labelling data kept ∈ c.errands →
    ∃ capacity, kind = .simple capacity ∧ kept = data.take capacity.toNat ∧ kept ≠ []
  frames : ∀ f ∈ c.frames, Genuine kind c.numbered f
  readings : ∀ r ∈ c.readings, ∃ f buffer, Genuine kind c.numbered f ∧
    r = ⟨f.seq, (f.copyTo buffer).1, (f.copyTo buffer).2⟩

namespace Faithful

variable {kind : Kind}

theorem of_makes (faithful : c.Faithful kind) {i : Nat} {e : Errand} {f : Frame}
    (at_i : c.errands[i]? = some e) (new : e.Makes c.device f) :
    Genuine kind (c.perform i e).numbered f := by
  cases new with
  | @drawn g p period b frames whole =>
    have fits := faithful.fits g p period (faithful.same.symm.trans frames)
    rw [← faithful.same, frames]
    exact Pattern.picture_of_draw fits whole
  | labelled data kept =>
    obtain ⟨capacity, rfl, rfl, some_left⟩ :=
      faithful.labelling data kept (List.mem_of_getElem? at_i)
    refine ⟨data, ?_, rfl, some_left⟩
    rw [numbered_perform]
    exact List.mem_append_right _ (List.mem_singleton.mpr rfl)

theorem numbered_extends {m : Move ω} (h : c.step m = some d) :
    ∃ more, d.numbered = c.numbered ++ more := by
  obtain ⟨i, e, -, -, rfl⟩ | ⟨same, -⟩ := still_step h
  · exact ⟨_, numbered_perform i e⟩
  · exact ⟨[], by rw [same, List.append_nil]⟩

theorem step {m : Move ω} (faithful : c.Faithful kind) (h : c.step m = some d) :
    d.Faithful kind := by
  obtain ⟨more, numbered⟩ := numbered_extends h
  have still {f : Frame} (genuine : Genuine kind c.numbered f) : Genuine kind d.numbered f := by
    rw [numbered]
    exact genuine.mono
  constructor
  case same => exact (kind_step h).trans faithful.same
  case fits => exact faithful.fits
  case labelling =>
    intro data kept member
    obtain old | ⟨_, -, begun⟩ | ⟨_, capacity, -, simple, labelling, some_left⟩ :=
      wanted_step h member rfl
    · exact faithful.labelling data kept old
    · simp at begun
    · obtain ⟨-, rfl⟩ := Errand.labelling.inj labelling
      exact ⟨capacity, faithful.same.symm.trans simple, rfl, some_left⟩
  case frames =>
    intro f member
    rcases mem_frames_step h member with old | ⟨i, e, rfl, at_i, new⟩
    · exact still (faithful.frames f old)
    · obtain ⟨e', at_i', -, rfl⟩ := stepErrand_eq_some h
      obtain rfl := Option.some.inj (at_i'.symm.trans at_i)
      exact faithful.of_makes at_i new
  case readings =>
    intro r member
    rcases readings_step h member with old | ⟨f, taken, buffer, read⟩
    · obtain ⟨f, buffer, genuine, read⟩ := faithful.readings r old
      exact ⟨f, buffer, still genuine, read⟩
    · exact ⟨f, buffer, still (faithful.frames f taken), read⟩

theorem run {ms : List (Move ω)} (faithful : c.Faithful kind) (ran : c.run ms = some d) :
    d.Faithful kind :=
  run_invariant (fun _ _ _ faithful h => Faithful.step faithful h) faithful ran

end Faithful

-- writes get the numbers from 1 on in turn; the numbers wrap
structure Counted (c : Crowd ω) (capacity : UInt64) : Prop where
  simple : c.device.kind = .simple capacity
  next : c.device.nextSeq = UInt64.ofNat (c.numbered.length + 1)
  numbers : ∀ k x, c.numbered[k]? = some x → x.1 = UInt64.ofNat (k + 1)

theorem Counted.step {capacity : UInt64} {m : Move ω} (counted : c.Counted capacity)
    (h : c.step m = some d) : d.Counted capacity := by
  have simple := (kind_step h).trans counted.simple
  obtain ⟨i, e, -, -, rfl⟩ | ⟨numbered, -, next, -⟩ := still_step h
  · obtain ⟨data, label, next⟩ | ⟨label, next⟩ := Errand.nextSeq_step counted.simple e
    · refine ⟨simple, ?_, fun k x at_k => ?_⟩
      · rw [device_perform, next, numbered_perform, label, counted.next, List.length_append,
          List.length_singleton, UInt64.ofNat_add (c.numbered.length + 1)]
        rfl
      · rw [numbered_perform, label, List.getElem?_append] at at_k
        split at at_k
        next => exact counted.numbers k x at_k
        next outside =>
          obtain ⟨last, -⟩ := List.getElem?_eq_some_iff.mp at_k
          rw [List.length_singleton] at last
          have place : k = c.numbered.length := by omega
          subst place
          simp only [Nat.sub_self, List.getElem?_cons_zero, Option.some.injEq] at at_k
          rw [← at_k, counted.next]
    · refine ⟨simple, ?_, ?_⟩
      · rw [device_perform, next, numbered_perform, label, List.append_nil, counted.next]
      · rw [numbered_perform, label, List.append_nil]
        exact counted.numbers
  · refine ⟨simple, ?_, ?_⟩
    · rw [next, numbered, counted.next]
    · rw [numbered]
      exact counted.numbers

theorem Counted.run {capacity : UInt64} {ms : List (Move ω)} (counted : c.Counted capacity)
    (ran : c.run ms = some d) : d.Counted capacity :=
  run_invariant (fun _ _ _ counted h => Counted.step counted h) counted ran

structure Ordered (c : Crowd ω) (past : List (Move ω)) : Prop where
  wanted : ∀ e ∈ c.errands, ∀ data, e.wanted = some data →
    ∃ memory, .order (.write memory data) ∈ past
  numbered : ∀ x ∈ c.numbered, ∃ memory, .order (.write memory x.2) ∈ past

theorem Ordered.step {past : List (Move ω)} {m : Move ω} (ordered : c.Ordered past)
    (h : c.step m = some d) : d.Ordered (past ++ [m]) := by
  have before {data : Bytes} (begun : ∃ memory, .order (.write memory data) ∈ past) :
      ∃ memory, .order (.write memory data) ∈ past ++ [m] :=
    begun.imp fun _ => List.mem_append_left [m]
  constructor
  case wanted =>
    intro e member data wanted
    obtain old | ⟨memory, rfl, -⟩ | ⟨_, _, offered, -⟩ := wanted_step h member wanted
    · exact before (ordered.wanted e old data wanted)
    · exact ⟨memory, List.mem_append_right _ (List.mem_singleton.mpr rfl)⟩
    · exact before (ordered.wanted _ offered data rfl)
  case numbered =>
    intro x member
    obtain ⟨i, e, -, at_i, rfl⟩ | ⟨numbered, -⟩ := still_step h
    · rw [numbered_perform] at member
      rcases List.mem_append.mp member with old | new
      · exact before (ordered.numbered x old)
      · cases e with
        | labelling data kept =>
          rw [List.mem_singleton.mp new]
          exact before (ordered.wanted _ (List.mem_of_getElem? at_i) data rfl)
        | _ => simp [Errand.label] at new
    · rw [numbered] at member
      exact before (ordered.numbered x member)

theorem Ordered.run {past ms : List (Move ω)} (ordered : c.Ordered past)
    (ran : c.run ms = some d) : d.Ordered (past ++ ms) := by
  induction ms generalizing c past with
  | nil =>
    rw [List.append_nil]
    exact Option.some.inj ran ▸ ordered
  | cons m ms ih =>
    obtain ⟨e, first, rest⟩ := Option.bind_eq_some_iff.mp ran
    have next := ih (ordered.step first) rest
    rwa [List.append_assoc] at next

theorem fits_of_openWith {memory : Nat} {kind : Kind} {n : UInt64} {d : Device ω}
    (opened : openWith memory kind n = .ok d) (g : Geometry) (p : Pattern)
    (period : Option Millis) (same : kind = .frames g p period) :
    g.frameSize ≤ Size.pieceLimit := by
  subst same
  exact (stock_of_openWith opened).2.2.2

section Runs

variable {memory : Nat} {kind : Kind} {n : UInt64} {readers : Nat} {ms : List (Move ω)}
variable {opening : Device ω}

theorem faithful_of_run (opened : openWith memory kind n = .ok opening)
    (ran : (start opening readers).run ms = some c) : c.Faithful kind := by
  have fits := fits_of_openWith opened
  obtain ⟨pool, rfl⟩ := openWith_eq_ok opened
  have initial : (start { kind := kind, pool := pool } readers : Crowd ω).Faithful kind :=
    ⟨rfl, fits, by simp [start], by simp [start, frames], by simp [start]⟩
  exact initial.run ran

theorem written_of_run {capacity : UInt64}
    (opened : openWith memory (.simple capacity) n = .ok opening)
    (ran : (start opening readers).run ms = some c) {s : UInt64} {data : Bytes}
    (member : (s, data) ∈ c.numbered) :
    ∃ k : Nat, c.numbered[k]? = some (s, data) ∧ s = UInt64.ofNat (k + 1) ∧
      ∃ memory, .order (.write memory data) ∈ ms := by
  obtain ⟨pool, rfl⟩ := openWith_eq_ok opened
  have counted : (start { kind := .simple capacity, pool := pool } readers : Crowd ω).Counted
      capacity := ⟨rfl, rfl, by simp [start]⟩
  have ordered : (start { kind := .simple capacity, pool := pool } readers : Crowd ω).Ordered [] :=
    ⟨by simp [start], by simp [start]⟩
  obtain ⟨k, at_k⟩ := List.mem_iff_getElem?.mp member
  exact ⟨k, at_k, (counted.run ran).numbers k _ at_k, (ordered.run ran).numbered _ member⟩

/--
In every state that is reached, each frame of a frame-producing device is the picture of its number,
and what was read is the front of one; so two such devices that draw alike give the same bytes under
the same number, whatever else was done with them. Each frame of a simple device is as much as fits
of the write that was given its number, and is not empty.
-/
theorem contents_of_run (opened : openWith memory kind n = .ok opening)
    (ran : (start opening readers).run ms = some c) :
    (∀ g p period, kind = .frames g p period →
      (∀ f ∈ c.frames, p.picture g f.seq = some f.data ∧ f.data.length = g.frameSize) ∧
      (∀ r ∈ c.readings, ∃ bs, p.picture g r.seq = some bs ∧
        r.count = min r.buffer.length g.frameSize ∧ r.buffer.take r.count = bs.take r.count) ∧
      ∀ memory' period' n' readers' (opening' : Device ω) (ms' : List (Move ω)) (c' : Crowd ω),
        openWith memory' (.frames g p period') n' = .ok opening' →
        (start opening' readers').run ms' = some c' →
        ∀ f ∈ c.frames, ∀ f' ∈ c'.frames, f.seq = f'.seq → f.data = f'.data) ∧
    (∀ capacity, kind = .simple capacity →
      (∀ f ∈ c.frames, ∃ (k : Nat) (data : Bytes), c.numbered[k]? = some (f.seq, data) ∧
        f.seq = UInt64.ofNat (k + 1) ∧ (∃ memory, .order (.write memory data) ∈ ms) ∧
        f.data = data.take capacity.toNat ∧ f.data ≠ []) ∧
      ∀ r ∈ c.readings, ∃ (k : Nat) (data : Bytes), c.numbered[k]? = some (r.seq, data) ∧
        r.seq = UInt64.ofNat (k + 1) ∧ (∃ memory, .order (.write memory data) ∈ ms) ∧
        r.count = min r.buffer.length (data.take capacity.toNat).length ∧
        r.buffer.take r.count = (data.take capacity.toNat).take r.count) := by
  have faithful := faithful_of_run opened ran
  refine ⟨?_, ?_⟩
  · rintro g p period rfl
    refine ⟨fun f member => ?_, fun r member => ?_, ?_⟩
    · have drawn : p.picture g f.seq = some f.data := faithful.frames f member
      exact ⟨drawn, Pattern.length_picture drawn⟩
    · obtain ⟨f, buffer, drawn, rfl⟩ := faithful.readings r member
      obtain ⟨count, front⟩ := Frame.copyTo_front f buffer
      have drawn : p.picture g f.seq = some f.data := drawn
      exact ⟨f.data, drawn, Pattern.length_picture drawn ▸ count, front⟩
    · intro memory' period' n' readers' opening' ms' c' opened' ran' f member f' member' same
      have drawn : p.picture g f.seq = some f.data := faithful.frames f member
      have drawn' : p.picture g f'.seq = some f'.data :=
        (faithful_of_run opened' ran').frames f' member'
      rw [same, drawn'] at drawn
      exact (Option.some.inj drawn).symm
  · rintro capacity rfl
    refine ⟨fun f member => ?_, fun r member => ?_⟩
    · obtain ⟨data, numbered, fits, some_left⟩ := faithful.frames f member
      obtain ⟨k, at_k, number, written⟩ := written_of_run opened ran numbered
      exact ⟨k, data, at_k, number, written, fits, some_left⟩
    · obtain ⟨f, buffer, ⟨data, numbered, fits, -⟩, rfl⟩ := faithful.readings r member
      obtain ⟨k, at_k, number, written⟩ := written_of_run opened ran numbered
      obtain ⟨count, front⟩ := Frame.copyTo_front f buffer
      rw [fits] at count front
      exact ⟨k, data, at_k, number, written, count, front⟩

end Runs

def threeTicks : List (Move Unit) :=
  (List.range 3).flatMap fun i => .order .tick :: List.replicate 6 (.errand i)

theorem contents_of_run_threeTicks :
    ∃ d c f, openWith 1024 (.frames ⟨2, 1, 2⟩ .gradient none) 2 = .ok d ∧
      (start d 0).run threeTicks = some c ∧ c.device.mailbox.frame = some f ∧ f.seq = 3 ∧
      Pattern.gradient.picture ⟨2, 1, 2⟩ f.seq = some f.data := by
  have drawn (d : Device Unit) (c : Crowd Unit) (f : Frame)
      (opened : openWith 1024 (.frames ⟨2, 1, 2⟩ .gradient none) 2 = .ok d)
      (ran : (start d 0).run threeTicks = some c) (box : c.device.mailbox.frame = some f) :
      Pattern.gradient.picture ⟨2, 1, 2⟩ f.seq = some f.data := by
    have member : f ∈ c.frames := mem_frames.mpr (.inl (Option.mem_toList.mpr box))
    exact (((contents_of_run opened ran).1 _ _ _ rfl).1 f member).1
  exact ⟨_, _, _, rfl, rfl, rfl, rfl, drawn _ _ _ rfl rfl rfl⟩

end Crowd

end Device

end Framecast
