import Framecast.Proofs.Crowd.Frames

set_option autoImplicit false

namespace Framecast.Device

variable {ω : Type}

namespace Errand

theorem mailbox_step_cases (e : Errand) (d : Device ω) :
    (∃ f, e = .depositing f ∧ d.mailbox.closed = false ∧
      (step (e, d)).2.mailbox =
        { d.mailbox with frame := some f, ready := true, lastSeq := f.seq }) ∨
    (e = .shutting ∧ (step (e, d)).2.mailbox =
      { d.mailbox with frame := none, ready := false, closed := true }) ∨
    ((∀ f, e = .depositing f → d.mailbox.closed = true) ∧
      (step (e, d)).2.mailbox = d.mailbox) := by
  cases e with
  | depositing f =>
    cases closed : d.mailbox.closed with
    | false => exact .inl ⟨f, rfl, rfl, by rw [step_depositing_open closed]⟩
    | true => exact .inr (.inr ⟨fun _ _ => rfl, by rw [step_depositing_closed closed]⟩)
  | shutting => exact .inr (.inl ⟨rfl, rfl⟩)
  | firing =>
    refine .inr (.inr ⟨by simp, ?_⟩)
    obtain same | ⟨e, -, same⟩ := step_firing_cases d <;> rw [same]
  | popping =>
    refine .inr (.inr ⟨by simp, ?_⟩)
    simp only [step]
    split
    next => rfl
    next b d' popped =>
      obtain ⟨p, q, -, -, rfl⟩ := popBuffer_eq_some popped
      rfl
  | numbering b =>
    refine .inr (.inr ⟨by simp, ?_⟩)
    obtain ⟨_, -, same⟩ | ⟨_, _, _, -, ⟨-, same⟩ | ⟨-, same⟩⟩ := step_numbering_cases b d <;>
      rw [same] <;> rfl
  | offering memory data =>
    refine .inr (.inr ⟨by simp, ?_⟩)
    obtain ⟨_, -, -, same⟩ | ⟨e, -, same⟩ := step_offering_cases memory data d <;> rw [same]
  | displacing old seq => exact .inr (.inr ⟨by simp, mailbox_dropAny d old⟩)
  | dropping old => exact .inr (.inr ⟨by simp, mailbox_dropAny d old⟩)
  | refused f => exact .inr (.inr ⟨by simp, mailbox_drop d f⟩)
  | releasing f => exact .inr (.inr ⟨by simp, mailbox_drop d f⟩)
  | closing =>
    refine .inr (.inr ⟨by simp, ?_⟩)
    simp only [step]
    split <;> rfl
  | _ => exact .inr (.inr ⟨by simp, rfl⟩)

theorem draw_step_cases (e : Errand) (d : Device ω) :
    ((step (e, d)).2.nextSeq = d.nextSeq + 1 ∧ (∀ f, e ≠ .depositing f) ∧
      ∀ f, (step (e, d)).1 = .depositing f → f.seq = d.nextSeq) ∨
    ((step (e, d)).2.nextSeq = d.nextSeq ∧ ∀ f, (step (e, d)).1 ≠ .depositing f) := by
  have of_isOver {e : Errand} (ended : e.isOver = true) (f : Frame) : e ≠ .depositing f := by
    rintro rfl
    simp [isOver] at ended
  cases e with
  | numbering b =>
    obtain ⟨_, -, same⟩ | ⟨_, _, _, -, ⟨-, same⟩ | ⟨-, same⟩⟩ := step_numbering_cases b d <;>
      rw [same]
    · exact .inr ⟨rfl, by simp⟩
    · exact .inl ⟨rfl, by simp, by simp⟩
    · refine .inl ⟨rfl, by simp, ?_⟩
      rintro f ⟨⟩
      rfl
  | labelling data kept =>
    refine .inl ⟨rfl, by simp, ?_⟩
    rintro f ⟨⟩
    rfl
  | firing =>
    obtain same | ⟨e, ended, same⟩ := step_firing_cases d <;> rw [same]
    · exact .inr ⟨rfl, by simp⟩
    · exact .inr ⟨rfl, of_isOver ended⟩
  | popping =>
    simp only [step]
    split
    next => exact .inr ⟨rfl, by simp⟩
    next b d' popped =>
      obtain ⟨p, q, -, -, rfl⟩ := popBuffer_eq_some popped
      exact .inr ⟨rfl, by simp⟩
  | offering memory data =>
    obtain ⟨_, -, -, same⟩ | ⟨e, ended, same⟩ := step_offering_cases memory data d <;> rw [same]
    · exact .inr ⟨rfl, by simp⟩
    · exact .inr ⟨rfl, of_isOver ended⟩
  | depositing f =>
    cases closed : d.mailbox.closed with
    | true =>
      rw [step_depositing_closed closed]
      exact .inr ⟨rfl, by simp⟩
    | false =>
      rw [step_depositing_open closed]
      exact .inr ⟨rfl, by simp⟩
  | displacing old seq => exact .inr ⟨nextSeq_dropAny d old, by simp [step]⟩
  | dropping old => exact .inr ⟨nextSeq_dropAny d old, by simp [step]⟩
  | refused f => exact .inr ⟨nextSeq_drop d f, by simp [step]⟩
  | releasing f => exact .inr ⟨nextSeq_drop d f, by simp [step]⟩
  | closing =>
    simp only [step]
    split <;> exact .inr ⟨rfl, by simp⟩
  | _ => exact .inr ⟨rfl, by simp [step]⟩

end Errand

namespace Crowd

variable {c d : Crowd ω} {m : Move ω} {ms : List (Move ω)}

def puts (c : Crowd ω) : Move ω → List Frame
  | .errand i =>
    match c.errands[i]? with
    | some (.depositing f) => if c.device.mailbox.closed then [] else [f]
    | _ => []
  | _ => []

def takes (c : Crowd ω) : Move ω → List Frame
  | .advance i =>
    match c.visits[i]? with
    | some v =>
      match v.phase with
      | .done _ => []
      | p => (Reader.advance v.mode (p, c.reader v.reader, c.device)).1.frames
    | none => []
  | .expire _ => (Reader.Phase.done (Reader.expire c.device).1).frames
  | _ => []

def published (c : Crowd ω) (ms : List (Move ω)) : List Frame := along puts c ms

def obtained (c : Crowd ω) (ms : List (Move ω)) : List Frame := along takes c ms

theorem frames_collect (d : Device ω) :
    (d.collect.1.toList ++ d.collect.2.mailbox.frame.toList).Sublist d.mailbox.frame.toList ∧
      d.collect.2.mailbox.lastSeq = d.mailbox.lastSeq := by
  obtain ⟨-, same⟩ | ⟨-, same⟩ := collect_cases d <;> rw [same] <;> simp

theorem frames_advance (mode : Mode) {p : Reader.Phase} (going : ∀ r, p ≠ .done r) (r : Reader)
    (d : Device ω) :
    ((Reader.advance mode (p, r, d)).1.frames ++
        (Reader.advance mode (p, r, d)).2.2.mailbox.frame.toList).Sublist
      d.mailbox.frame.toList ∧
    (Reader.advance mode (p, r, d)).2.2.mailbox.lastSeq = d.mailbox.lastSeq := by
  cases p with
  | observed e =>
    have box := frames_collect d
    simp only [Reader.advance]
    split <;> simp_all [Reader.Phase.frames]
  | missed e | undeterred e | resigned e =>
    simp only [Reader.advance]
    split <;> simp [Reader.Phase.frames]
  | looking | suspended e => simp [Reader.advance, Reader.Phase.frames]
  | done r => exact absurd rfl (going r)

theorem frames_expire (d : Device ω) :
    ((Reader.Phase.done (Reader.expire d).1).frames ++
        (Reader.expire d).2.mailbox.frame.toList).Sublist d.mailbox.frame.toList ∧
      (Reader.expire d).2.mailbox.lastSeq = d.mailbox.lastSeq := by
  have box := frames_collect d
  simp only [Reader.expire]
  split <;> simp_all [Reader.Phase.frames]

theorem puts_errand {i : Nat} {e : Errand} (at_i : c.errands[i]? = some e)
    (other : ∀ f, e = .depositing f → c.device.mailbox.closed = true) :
    c.puts (.errand i) = [] := by
  simp only [puts, at_i]
  cases e with
  | depositing f => simp [other f rfl]
  | _ => rfl

theorem mailbox_step (h : c.step m = some d) :
    (∃ i f, m = .errand i ∧ c.errands[i]? = some (.depositing f) ∧ c.puts m = [f] ∧
      c.takes m = [] ∧ d.device.mailbox =
        { c.device.mailbox with frame := some f, ready := true, lastSeq := f.seq }) ∨
    (c.puts m = [] ∧
      (c.takes m ++ d.device.mailbox.frame.toList).Sublist c.device.mailbox.frame.toList ∧
      d.device.mailbox.lastSeq = c.device.mailbox.lastSeq) := by
  cases m with
  | errand i =>
    obtain ⟨e, at_i, -, rfl⟩ := stepErrand_eq_some h
    rw [device_perform]
    obtain ⟨f, rfl, opened, box⟩ | ⟨rfl, box⟩ | ⟨other, box⟩ :=
      Errand.mailbox_step_cases e c.device
    · exact .inl ⟨i, f, rfl, at_i, by simp [puts, at_i, opened], rfl, box⟩
    · exact .inr ⟨puts_errand at_i (by simp), by simp [takes, box], by rw [box]⟩
    · exact .inr ⟨puts_errand at_i other, by simp [takes, box], by rw [box]⟩
  | advance i =>
    obtain ⟨v, at_i, rfl⟩ := stepVisit_eq_some h
    refine .inr ⟨rfl, ?_⟩
    simp only [takes, at_i]
    split
    next r ended => simp [Reader.advance, ended]
    next going => exact frames_advance v.mode going _ _
  | expire i =>
    obtain ⟨v, _, -, -, rfl⟩ := expire_eq_some h
    exact .inr ⟨rfl, frames_expire c.device⟩
  | order o =>
    obtain rfl | ⟨r, readers, -, rfl⟩ := undertake_eq_some h <;>
      exact .inr ⟨rfl, List.Sublist.refl _, rfl⟩
  | visit r mode buffer =>
    obtain rfl := visit_eq_some h
    exact .inr ⟨rfl, List.Sublist.refl _, rfl⟩
  | signal i =>
    obtain ⟨v, _, -, -, rfl⟩ := signal_eq_some h
    exact .inr ⟨rfl, List.Sublist.refl _, rfl⟩
  | leave i =>
    obtain ⟨v, -, ⟨f, -, ⟨-, rfl⟩ | ⟨buffer, -, rfl⟩⟩ | ⟨r, -, -, rfl⟩⟩ := leave_eq_some h <;>
      exact .inr ⟨rfl, List.Sublist.refl _, rfl⟩
  | drop k =>
    obtain ⟨f, -, -, rfl⟩ := drop_eq_some h
    exact .inr ⟨rfl, by simp [takes], by simp⟩
  | detach k =>
    obtain ⟨f, -, rfl⟩ := detach_eq_some h
    exact .inr ⟨rfl, List.Sublist.refl _, rfl⟩
  | _ =>
    obtain rfl := Option.some.inj h
    exact .inr ⟨rfl, List.Sublist.refl _, rfl⟩

-- readers have got some of what was put in, in the same order, and what is in the mailbox is what
-- was put in last
structure Flow (c : Crowd ω) (put got : List Frame) : Prop where
  sublist : (got ++ c.device.mailbox.frame.toList).Sublist put
  newest : ∀ f, c.device.mailbox.frame = some f → put.getLast? = some f
  lastSeq : c.device.mailbox.lastSeq = (put.getLast?.map (·.seq)).getD noSeq

theorem Flow.step {put got : List Frame} (flow : c.Flow put got) (h : c.step m = some d) :
    d.Flow (put ++ c.puts m) (got ++ c.takes m) := by
  obtain ⟨i, f, -, -, puts, takes, box⟩ | ⟨puts, sub, last⟩ := mailbox_step h
  · rw [puts, takes, List.append_nil]
    have before : got.Sublist put := (List.sublist_append_left _ _).trans flow.sublist
    constructor
    case sublist => simpa [box] using before.append (List.Sublist.refl [f])
    case newest => simp [box]
    case lastSeq => simp [box]
  · rw [puts, List.append_nil]
    constructor
    case sublist =>
      rw [List.append_assoc]
      exact ((List.Sublist.refl got).append sub).trans flow.sublist
    case newest =>
      intro f inside
      have old := sub.subset (List.mem_append_right _ (Option.mem_toList.mpr inside))
      exact flow.newest f (Option.mem_toList.mp old)
    case lastSeq => rw [last, flow.lastSeq]

theorem Flow.run {put got : List Frame} (flow : c.Flow put got) (ran : c.run ms = some d) :
    d.Flow (put ++ c.published ms) (got ++ c.obtained ms) := by
  induction ms generalizing c put got with
  | nil =>
    rw [published, obtained, along, along, List.append_nil, List.append_nil]
    exact Option.some.inj ran ▸ flow
  | cons m ms ih =>
    obtain ⟨e, first, rest⟩ := Option.bind_eq_some_iff.mp ran
    have next := ih (flow.step first) rest
    rwa [List.append_assoc, List.append_assoc, published, obtained, ← along_cons first,
      ← along_cons first] at next

theorem depositing_step (h : c.step m = some d) {j : Nat} {f : Frame}
    (at_j : d.errands[j]? = some (.depositing f)) :
    (m ≠ .errand j ∧ c.errands[j]? = some (.depositing f)) ∨
      (m = .errand j ∧ f.seq = c.device.nextSeq ∧
        d.device.nextSeq = c.device.nextSeq + 1) := by
  obtain ⟨still, same⟩ | ⟨o, rfl, same⟩ | ⟨i, g, rfl, same⟩ | ⟨i, e, rfl, at_i, same⟩ :=
    errands_step h <;> rw [same] at at_j
  · exact .inl ⟨still j, at_j⟩
  · exact .inl ⟨by simp, getElem?_of_concat at_j (by cases o <;> simp [Order.errand])⟩
  · exact .inl ⟨by simp, getElem?_of_concat at_j (by simp)⟩
  · obtain ⟨e', at_i', -, rfl⟩ := stepErrand_eq_some h
    obtain rfl := Option.some.inj (at_i.symm.trans at_i')
    by_cases own : i = j
    · subst own
      rw [List.getElem?_set_self (List.getElem?_eq_some_iff.mp at_i).1] at at_j
      obtain ⟨next, -, number⟩ | ⟨-, other⟩ := Errand.draw_step_cases e c.device
      · exact .inr ⟨rfl, number f (Option.some.inj at_j), by rw [device_perform, next]⟩
      · exact absurd (Option.some.inj at_j) (other f)
    · rw [List.getElem?_set_ne own] at at_j
      exact .inl ⟨by simpa using own, at_j⟩

theorem nextSeq_step (h : c.step m = some d) :
    d.device.nextSeq = c.device.nextSeq ∨ d.device.nextSeq = c.device.nextSeq + 1 := by
  obtain ⟨i, e, -, -, rfl⟩ | ⟨-, -, same, -⟩ := still_step h
  · rw [device_perform]
    exact (Errand.draw_step_cases e c.device).symm.imp And.left And.left
  · exact .inl same

/-- The move puts a frame in while another call has a frame with an earlier number in hand. -/
def overtakes (c : Crowd ω) (m : Move ω) : Bool :=
  (c.puts m).any fun f =>
    c.errands.any fun
      | .depositing g => g.seq < f.seq
      | _ => false

def orderly (c : Crowd ω) : List (Move ω) → Bool
  | [] => true
  | m :: ms =>
    !c.overtakes m &&
      match c.step m with
      | some d => d.orderly ms
      | none => true

-- the numbers are different, and if there is to be an order, the first is the earlier one
def Precedes (inOrder : Prop) (a b : UInt64) : Prop := a ≠ b ∧ (inOrder → a < b)

theorem precedes_of_lt {inOrder : Prop} {a b : UInt64} (lt : a < b) : Precedes inOrder a b :=
  ⟨UInt64.ne_of_lt lt, fun _ => lt⟩

/-- Each number that was put into the mailbox precedes those that were put in after it and those
that calls have in hand. -/
structure Ranked (inOrder : Prop) (c : Crowd ω) (put : List Frame) : Prop where
  sorted : put.Pairwise fun f g => Precedes inOrder f.seq g.seq
  below : ∀ f ∈ put, f.seq < c.device.nextSeq
  drawn : ∀ (i : Nat) (f : Frame), c.errands[i]? = some (.depositing f) →
    f.seq < c.device.nextSeq
  pending : ∀ (i : Nat) (f : Frame), c.errands[i]? = some (.depositing f) →
    ∀ g ∈ put, Precedes inOrder g.seq f.seq
  apart : ∀ (i j : Nat) (f g : Frame), c.errands[i]? = some (.depositing f) →
    c.errands[j]? = some (.depositing g) → i ≠ j → f.seq ≠ g.seq

namespace Ranked

variable {inOrder : Prop} {put : List Frame}

theorem precedes_of_puts {i j : Nat} {f g : Frame} (ranked : Ranked inOrder c put)
    (smooth : inOrder → c.overtakes (.errand i) = false) (new : f ∈ c.puts (.errand i))
    (at_i : c.errands[i]? = some (.depositing f)) (at_j : c.errands[j]? = some (.depositing g))
    (other : i ≠ j) : Precedes inOrder f.seq g.seq := by
  have apart := ranked.apart i j f g at_i at_j other
  refine ⟨apart, fun order => ?_⟩
  have none : ¬g.seq < f.seq := by
    intro earlier
    have overtaken : c.overtakes (.errand i) = true :=
      List.any_eq_true.mpr ⟨f, new,
        List.any_eq_true.mpr ⟨_, List.mem_of_getElem? at_j, decide_eq_true earlier⟩⟩
    simp [smooth order] at overtaken
  exact UInt64.lt_of_le_of_ne (UInt64.not_lt.mp none) apart

theorem step (ranked : Ranked inOrder c put) (smooth : inOrder → c.overtakes m = false)
    (room : c.device.nextSeq.toNat + 1 < UInt64.size) (h : c.step m = some d) :
    Ranked inOrder d (put ++ c.puts m) := by
  have fresh (same : d.device.nextSeq = c.device.nextSeq + 1) :
      c.device.nextSeq < d.device.nextSeq := by
    rw [same, UInt64.lt_iff_toNat_lt, UInt64.toNat_add, UInt64.toNat_one, Nat.mod_eq_of_lt room]
    exact Nat.lt_succ_self _
  have grown {n : UInt64} (old : n < c.device.nextSeq) : n < d.device.nextSeq := by
    obtain same | same := nextSeq_step h
    · exact same ▸ old
    · exact UInt64.lt_trans old (fresh same)
  -- what is put in was in hand before
  have in_hand {f : Frame} (new : f ∈ c.puts m) :
      ∃ i, m = .errand i ∧ c.errands[i]? = some (.depositing f) := by
    obtain ⟨i, g, rfl, at_i, puts, -⟩ | ⟨puts, -⟩ := mailbox_step h <;> rw [puts] at new
    · obtain rfl := List.mem_singleton.mp new
      exact ⟨i, rfl, at_i⟩
    · simp at new
  constructor
  case sorted =>
    refine List.pairwise_append.mpr ⟨ranked.sorted, ?_, fun g old f new => ?_⟩
    · obtain ⟨i, g, -, -, puts, -⟩ | ⟨puts, -⟩ := mailbox_step h <;> simp [puts]
    · obtain ⟨i, -, at_i⟩ := in_hand new
      exact ranked.pending i f at_i g old
  case below =>
    intro f member
    rcases List.mem_append.mp member with old | new
    · exact grown (ranked.below f old)
    · obtain ⟨i, -, at_i⟩ := in_hand new
      exact grown (ranked.drawn i f at_i)
  case drawn =>
    intro j f at_j
    obtain ⟨-, before⟩ | ⟨-, number, next⟩ := depositing_step h at_j
    · exact grown (ranked.drawn j f before)
    · exact number ▸ fresh next
  case pending =>
    intro j f at_j g member
    rcases List.mem_append.mp member with old | new
    · obtain ⟨-, before⟩ | ⟨-, number, -⟩ := depositing_step h at_j
      · exact ranked.pending j f before g old
      · exact precedes_of_lt (number ▸ ranked.below g old)
    · obtain ⟨i, rfl, at_i⟩ := in_hand new
      obtain ⟨other, before⟩ | ⟨-, number, -⟩ := depositing_step h at_j
      · exact ranked.precedes_of_puts smooth new at_i before (by simpa using other)
      · exact precedes_of_lt (number ▸ ranked.drawn i g at_i)
  case apart =>
    intro i j f g at_i at_j other
    obtain ⟨-, before⟩ | ⟨rfl, number, -⟩ := depositing_step h at_i <;>
      obtain ⟨-, before'⟩ | ⟨own, number', -⟩ := depositing_step h at_j
    · exact ranked.apart i j f g before before' other
    · exact number' ▸ UInt64.ne_of_lt (ranked.drawn i f before)
    · exact number ▸ (UInt64.ne_of_lt (ranked.drawn j g before')).symm
    · exact absurd (Move.errand.inj own) other

theorem run (ranked : Ranked inOrder c put) (smooth : inOrder → c.orderly ms = true)
    (room : c.device.nextSeq.toNat + ms.length < UInt64.size) (ran : c.run ms = some d) :
    Ranked inOrder d (put ++ c.published ms) := by
  induction ms generalizing c put with
  | nil =>
    rw [published, along, List.append_nil]
    exact Option.some.inj ran ▸ ranked
  | cons m ms ih =>
    obtain ⟨e, first, rest⟩ := Option.bind_eq_some_iff.mp ran
    rw [List.length_cons] at room
    have smooth' : inOrder → c.overtakes m = false ∧ e.orderly ms = true := by
      intro order
      simpa [orderly, first] using smooth order
    have small : c.device.nextSeq.toNat + 1 < UInt64.size := by omega
    have less : e.device.nextSeq.toNat + ms.length < UInt64.size := by
      obtain same | same := nextSeq_step first <;> rw [same]
      · omega
      · rw [UInt64.toNat_add, UInt64.toNat_one, Nat.mod_eq_of_lt small]
        omega
    have next := ih (ranked.step (fun order => (smooth' order).1) small first)
      (fun order => (smooth' order).2) less rest
    rwa [List.append_assoc, published, ← along_cons first] at next

end Ranked

section Runs

variable {memory : Nat} {kind : Kind} {buffers : UInt64} {opening : Device ω} {readers : Nat}

theorem fresh_of_openWith (opened : openWith memory kind buffers = .ok opening) :
    opening.nextSeq = 1 ∧ opening.mailbox = {} := by
  obtain ⟨pool, rfl⟩ := openWith_eq_ok opened
  exact ⟨rfl, rfl⟩

theorem flow_of_run (opened : openWith memory kind buffers = .ok opening)
    (ran : (start opening readers).run ms = some c) :
    c.Flow ((start opening readers).published ms) ((start opening readers).obtained ms) := by
  obtain ⟨-, box⟩ := fresh_of_openWith opened
  have first : (start opening readers).Flow [] [] := by
    constructor <;> simp [start, box]
  exact first.run ran

theorem ranked_of_run (opened : openWith memory kind buffers = .ok opening)
    (ran : (start opening readers).run ms = some c) (few : ms.length < noSeq.toNat) :
    Ranked ((start opening readers).orderly ms = true) c
      ((start opening readers).published ms) := by
  obtain ⟨next, -⟩ := fresh_of_openWith opened
  have first : Ranked ((start opening readers).orderly ms = true) (start opening readers) [] := by
    constructor <;> simp [start]
  have room : (start opening readers).device.nextSeq.toNat + ms.length < UInt64.size := by
    change ms.length < 18446744073709551615 at few
    change opening.nextSeq.toNat + ms.length < 18446744073709551616
    rw [next, UInt64.toNat_one]
    omega
  exact first.run id room ran

theorem lastSeq_of_getLast? {put got : List Frame} {f : Frame} (flow : c.Flow put got)
    (last : put.getLast? = some f) : c.device.mailbox.lastSeq = f.seq := by
  rw [flow.lastSeq, last]
  rfl

theorem le_of_getLast? {put : List Frame} {f g : Frame}
    (sorted : put.Pairwise fun f g => f.seq < g.seq) (last : put.getLast? = some f)
    (member : g ∈ put) : g.seq ≤ f.seq := by
  obtain ⟨earlier, rfl⟩ := List.getLast?_eq_some_iff.mp last
  rcases List.mem_append.mp member with before | same
  · exact UInt64.le_of_lt ((List.pairwise_append.mp sorted).2.2 g before f (by simp))
  · rw [List.mem_singleton.mp same]
    exact UInt64.le_refl _

/--
Readers get frames in the order in which these were put into the mailbox, none twice, and the
mailbox keeps the last one. As long as no call puts its frame in while another has an earlier number
in hand, this is the order of the numbers: what readers get increases, the number of the last frame
never goes back, and the frame in the mailbox has the largest number of all that were put in.
-/
theorem increasing_of_orderly (opened : openWith memory kind buffers = .ok opening)
    (ran : (start opening readers).run ms = some c) (few : ms.length < noSeq.toNat) :
    (((start opening readers).obtained ms ++ c.device.mailbox.frame.toList).Sublist
        ((start opening readers).published ms) ∧
      (((start opening readers).published ms).map (·.seq)).Nodup ∧
      c.device.mailbox.lastSeq =
        (((start opening readers).published ms).getLast?.map (·.seq)).getD noSeq) ∧
    ((start opening readers).orderly ms = true →
      (((start opening readers).obtained ms).map (·.seq)).Pairwise (· < ·) ∧
      (∀ f, c.device.mailbox.frame = some f →
        ∀ g ∈ (start opening readers).published ms, g.seq ≤ f.seq) ∧
      ∀ before after b, ms = before ++ after → (start opening readers).run before = some b →
        b.device.mailbox.lastSeq ≠ noSeq →
        b.device.mailbox.lastSeq ≤ c.device.mailbox.lastSeq) := by
  have flow := flow_of_run opened ran
  have ranked := ranked_of_run opened ran few
  refine ⟨⟨flow.sublist, ?_, flow.lastSeq⟩, fun orderly => ?_⟩
  · exact List.pairwise_map.mpr (ranked.sorted.imp And.left)
  have sorted : ((start opening readers).published ms).Pairwise fun f g => f.seq < g.seq :=
    ranked.sorted.imp fun precedes => precedes.2 orderly
  refine ⟨?_, fun f box g => le_of_getLast? sorted (flow.newest f box), ?_⟩
  · have got := (List.sublist_append_left _ _).trans flow.sublist
    exact List.pairwise_map.mpr (sorted.sublist got)
  · intro before after b split began seen
    have flow' := flow_of_run opened began
    cases last : ((start opening readers).published before).getLast? with
    | none => simp [flow'.lastSeq, last] at seen
    | some g =>
      have member : g ∈ (start opening readers).published ms := by
        rw [split, published, along_append began]
        exact List.mem_append_left _ (List.mem_of_getLast? last)
      obtain ⟨f, newest⟩ : ∃ f, ((start opening readers).published ms).getLast? = some f := by
        rw [List.getLast?_eq_some_getLast (List.ne_nil_of_mem member)]
        exact ⟨_, rfl⟩
      rw [lastSeq_of_getLast? flow newest, lastSeq_of_getLast? flow' last]
      exact le_of_getLast? sorted newest member

end Runs

def takeNow (i : Nat) : List (Move Unit) := [.visit 0 .nonblocking none, .advance i, .advance i]

-- two ticks are under way at a time, and the first to get its number is the first to put its frame
-- into the mailbox
def abreast : List (Move Unit) :=
  [.order .tick, .order .fire, .errand 0, .errand 0, .errand 1, .errand 1, .errand 1, .errand 0] ++
    takeNow 0 ++ [.errand 1] ++ takeNow 1

theorem increasing_of_orderly_abreast :
    ∃ d c, openWith 1024 (.frames ⟨2, 1, 2⟩ .gradient none) 3 = .ok d ∧
      (start d 1).run abreast = some c ∧ abreast.length < noSeq.toNat ∧
      (start d 1).orderly abreast = true ∧
      ((start d 1).obtained abreast).map (·.seq) = [1, 2] ∧
      (((start d 1).obtained abreast).map (·.seq)).Pairwise (· < ·) := by
  have increasing (d : Device Unit) (c : Crowd Unit)
      (opened : openWith 1024 (.frames ⟨2, 1, 2⟩ .gradient none) 3 = .ok d)
      (ran : (start d 1).run abreast = some c) (orderly : (start d 1).orderly abreast = true) :
      (((start d 1).obtained abreast).map (·.seq)).Pairwise (· < ·) :=
    ((increasing_of_orderly opened ran (by decide)).2 orderly).1
  exact ⟨_, _, rfl, rfl, by decide, rfl, rfl, increasing _ _ rfl rfl rfl⟩

-- the first tick has its number and pauses; the second gets the next number and puts its frame into
-- the mailbox, where a reader takes it
def overtaking : List (Move Unit) :=
  [.order .tick, .order .fire, .errand 0, .errand 0, .errand 1, .errand 1, .errand 1, .errand 1] ++
    takeNow 0

theorem overtaken_out_of_order :
    ∃ d b c, openWith 1024 (.frames ⟨2, 1, 2⟩ .gradient none) 3 = .ok d ∧
      (start d 1).run overtaking = some b ∧ b.device.mailbox.lastSeq = 2 ∧
      (start d 1).run (overtaking ++ [.errand 0]) = some c ∧ c.device.mailbox.lastSeq = 1 ∧
      c.device.mailbox.frame.map (·.seq) = some 1 ∧
      ((start d 1).published (overtaking ++ [.errand 0])).map (·.seq) = [2, 1] ∧
      ((start d 1).obtained (overtaking ++ [.errand 0] ++ takeNow 1)).map (·.seq) = [2, 1] :=
  ⟨_, _, _, rfl, rfl, rfl, rfl, rfl, rfl, rfl, rfl⟩

end Crowd

end Framecast.Device
