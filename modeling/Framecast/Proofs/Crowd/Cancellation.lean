import Framecast.Proofs.Crowd.Steps

set_option autoImplicit false

namespace Framecast.Device

variable {ω : Type}

namespace Reader

theorem advance_cancelled (mode : Mode) (p : Phase) (r : Reader) (d : Device ω) :
    (∃ e, p = .undeterred e ∧ r.cancelled = true ∧
      advance mode (p, r, d) = (.done (.error .interrupted), r.reset, d)) ∨
    ((∀ e, p = .undeterred e → r.cancelled = false) ∧ (advance mode (p, r, d)).2.1 = r ∧
      ((∀ result, p ≠ .done result) →
        (advance mode (p, r, d)).1 ≠ .done (.error .interrupted))) := by
  cases p with
  | undeterred e =>
    cases asked : r.cancelled with
    | true => exact .inl ⟨e, rfl, rfl, by simp [advance, asked, reset]⟩
    | false => exact .inr ⟨by simp, by simp [advance, asked], by simp [advance, asked]⟩
  | observed e =>
    refine .inr ⟨by simp, ?_, fun _ => ?_⟩ <;> simp only [advance] <;> split <;> simp
  | missed e | resigned e =>
    refine .inr ⟨by simp, ?_, fun _ => ?_⟩ <;> simp only [advance] <;> split <;> simp
  | looking | suspended e => exact .inr ⟨by simp, rfl, by simp [advance]⟩
  | done result => exact .inr ⟨by simp, rfl, fun going => absurd rfl (going result)⟩

end Reader

theorem take_of_cancelled (d : Device ω) {r : Reader} (mode : Mode) (asked : r.cancelled = true) :
    d.take r mode =
      match d.collect, mode with
      | (some f, d), _ => (.done (.ok (.frame f)), r, d)
      | (none, d), .nonblocking => (.done (.error .wouldBlock), r, d)
      | (none, d), .blocking _ =>
        if d.mailbox.closed then (.done (.ok .endOfStream), r, d)
        else (.done (.error .interrupted), r.reset, d) := by
  have attempted := Reader.attempt_eq mode r d
  rcases found : d.collect with ⟨_ | f, after⟩ <;> rw [found] at attempted
  · cases mode with
    | nonblocking => simp [take, attempted]
    | blocking timeout =>
      cases closed : after.mailbox.closed <;>
        simp [take, attempted, asked, closed, Reader.reset]
  · simp [take, attempted]

theorem read_of_cancelled (d : Device ω) {r : Reader} (buffer : Bytes) (mode : Mode)
    (asked : r.cancelled = true) :
    d.read r buffer mode =
      if buffer.isEmpty then (.done (.error .fault), r, d)
      else
        match d.collect, mode with
        | (some f, d), _ => (.done (.ok (f.copyTo buffer)), r, d.drop f)
        | (none, d), .nonblocking => (.done (.error .wouldBlock), r, d)
        | (none, d), .blocking _ =>
          if d.mailbox.closed then (.done (.ok (0, buffer)), r, d)
          else (.done (.error .interrupted), r.reset, d) := by
  have taken := take_of_cancelled d mode asked
  rw [read]
  split
  next => rfl
  next =>
    rcases found : d.collect with ⟨_ | f, after⟩ <;> rw [found] at taken
    · cases mode with
      | nonblocking => simp [taken]
      | blocking timeout =>
        cases closed : after.mailbox.closed <;> simp [taken, closed, unload]
    · simp [taken, unload]

namespace Crowd

variable {c d : Crowd ω} {m : Move ω} {ms : List (Move ω)} {r : Nat}

def pending (c : Crowd ω) (r : Nat) : Nat := (c.reader r).cancelled.toNat

def asks (r : Nat) (c : Crowd ω) : Move ω → List Nat
  | .order (.cancel k) => if k = r ∧ c.pending r = 0 then [r] else []
  | _ => []

def givesUp (r : Nat) (c : Crowd ω) : Move ω → List Nat
  | .advance i =>
    match c.visits[i]? with
    | some v =>
      match v.phase, (Reader.advance v.mode (v.phase, c.reader v.reader, c.device)).1 with
      | .done _, _ => []
      | _, .done (.error .interrupted) => if v.reader = r then [i] else []
      | _, _ => []
    | none => []
  | _ => []

theorem givesUp_advance {i : Nat} {v : Visit} (at_i : c.visits[i]? = some v) :
    c.givesUp r (.advance i) =
      match v.phase, (c.reader v.reader).cancelled with
      | .undeterred _, true => if v.reader = r then [i] else []
      | _, _ => [] := by
  simp only [givesUp, at_i]
  obtain ⟨e, phase, asked, same⟩ | ⟨heedless, -, goes⟩ :=
    Reader.advance_cancelled v.mode v.phase (c.reader v.reader) c.device
  · rw [same, phase, asked]
  · cases phase : v.phase <;> simp_all

theorem mem_givesUp {i : Nat} :
    i ∈ c.givesUp r m ↔ m = .advance i ∧ ∃ v e, c.visits[i]? = some v ∧ v.reader = r ∧
      v.phase = .undeterred e ∧ (c.reader r).cancelled = true := by
  constructor
  · intro member
    cases m with
    | advance j =>
      cases at_j : c.visits[j]? with
      | none => simp [givesUp, at_j] at member
      | some v =>
        rw [givesUp_advance at_j] at member
        split at member
        next _ _ e phase asked =>
          split at member
          next own =>
            obtain rfl := List.mem_singleton.mp member
            exact ⟨rfl, v, e, at_j, own, phase, own ▸ asked⟩
          next => simp at member
        next => simp at member
    | _ => simp [givesUp] at member
  · rintro ⟨rfl, v, e, at_i, rfl, phase, asked⟩
    rw [givesUp_advance at_i, phase, asked]
    simp

theorem pending_step (h : c.step m = some d) (kept : m ≠ .reset r) :
    (c.givesUp r m).length + d.pending r = (c.asks r m).length + c.pending r := by
  obtain ⟨still, quiet, same⟩ | ⟨k, rfl, inside, same⟩ | ⟨k, rfl, same⟩ | ⟨i, v, rfl, at_i, same⟩ :=
    readers_step h
  · -- a move that is no step of a reader and asks nobody
    have up : c.givesUp r m = [] := by
      cases m with
      | advance i => exact absurd rfl (still i)
      | _ => rfl
    have asked : c.asks r m = [] := by
      cases m with
      | order o =>
        cases o with
        | cancel k => exact absurd rfl (quiet k)
        | _ => rfl
      | _ => rfl
    rw [up, asked, pending, pending, reader, same]
    rfl
  · have after : d.reader r = if k = r then { cancelled := true } else c.reader r := by
      rw [reader, same, getD_set_reader r inside]
      rfl
    by_cases own : k = r
    · rw [if_pos own] at after
      cases asked : (c.reader r).cancelled <;> simp [givesUp, asks, pending, after, own, asked]
    · rw [if_neg own] at after
      simp [givesUp, asks, pending, after, own]
  · have other : k ≠ r := by
      rintro rfl
      exact kept rfl
    have after : d.reader r = c.reader r := by
      rw [reader, same, List.getElem?_set_ne other]
      rfl
    rw [pending, pending, after]
    rfl
  · rw [givesUp_advance at_i]
    obtain ⟨e, phase, asked, heeds⟩ | ⟨heedless, left, -⟩ :=
      Reader.advance_cancelled v.mode v.phase (c.reader v.reader) c.device
    · have inside : v.reader < c.readers.length := by
        refine Nat.lt_of_not_le fun outside => ?_
        simp [reader, outside] at asked
      have after : d.reader r = if v.reader = r then (c.reader v.reader).reset else c.reader r := by
        rw [reader, same, heeds, getD_set_reader r inside]
        rfl
      -- what the reader was asked is used up, and that once
      by_cases own : v.reader = r
      · subst own
        simp [phase, asked, asks, pending, after, Reader.reset]
      · simp [phase, asked, asks, pending, after, own]
    · rw [left, readers_set_reader] at same
      have after : d.pending r = c.pending r := by rw [pending, pending, reader, same]; rfl
      rw [after]
      split
      next _ _ e phase asked => simp [heedless e phase] at asked
      next => rfl

theorem pending_run (ran : c.run ms = some d) (kept : .reset r ∉ ms) :
    (along (givesUp r) c ms).length + d.pending r = (along (asks r) c ms).length + c.pending r := by
  induction ms generalizing c with
  | nil =>
    obtain rfl := Option.some.inj ran
    rfl
  | cons m ms ih =>
    obtain ⟨e, first, rest⟩ := Option.bind_eq_some_iff.mp ran
    have before := pending_step first (r := r) fun same => kept (same ▸ List.mem_cons_self)
    have after := ih rest fun member => kept (List.mem_cons_of_mem _ member)
    rw [along_cons first, along_cons first, List.length_append, List.length_append]
    omega

theorem pending_le_one : c.pending r ≤ 1 := Bool.toNat_le _

theorem pending_of_not_givesUp (ran : c.run ms = some d) (kept : .reset r ∉ ms)
    (asked : c.pending r = 1) (going : along (givesUp r) c ms = []) : d.pending r = 1 := by
  have law := pending_run ran kept
  rw [going, asked, List.length_nil] at law
  have one : d.pending r ≤ 1 := pending_le_one
  omega

theorem pending_of_cancel (h : c.step (.order (.cancel r)) = some d) : d.pending r = 1 := by
  have law := pending_step (r := r) h (by simp)
  have one : c.pending r ≤ 1 := pending_le_one
  simp only [givesUp, asks, List.length_nil] at law
  split at law
  next => simp_all
  next other =>
    have some : c.pending r ≠ 0 := by simpa using other
    rw [List.length_nil] at law
    omega

theorem asks_eq_nil (quiet : .order (.cancel r) ∉ ms) : along (asks r) c ms = [] := by
  induction ms generalizing c with
  | nil => rfl
  | cons m ms ih =>
    have none : c.asks r m = [] := by
      cases m with
      | order o =>
        cases o with
        | cancel k =>
          have other : k ≠ r := by
            rintro rfl
            exact quiet List.mem_cons_self
          exact if_neg fun own => other own.1
        | _ => rfl
      | _ => rfl
    rw [along, none]
    split
    next => exact ih fun member => quiet (List.mem_cons_of_mem _ member)
    next => rfl

theorem once_of_cancels {before after : List (Move ω)} {b : Crowd ω}
    (first : c.run before = some b) (second : b.run after = some d)
    (kept : .reset r ∉ before ++ after) (asked : .order (.cancel r) ∈ before)
    (going : along (givesUp r) c before = []) (quiet : .order (.cancel r) ∉ after) :
    (along (givesUp r) c (before ++ after)).length + d.pending r = 1 := by
  have pendingNow : b.pending r = 1 := by
    obtain ⟨xs, ys, rfl⟩ := List.append_of_mem asked
    rw [run_append] at first
    obtain ⟨a, ran, rest⟩ := Option.bind_eq_some_iff.mp first
    obtain ⟨a', cancelled, rest'⟩ := Option.bind_eq_some_iff.mp rest
    rw [along_append ran, along_cons cancelled] at going
    refine pending_of_not_givesUp rest' ?_ (pending_of_cancel cancelled) ?_
    · exact fun member => kept (by simp [member])
    · exact (List.append_eq_nil_iff.mp (List.append_eq_nil_iff.mp going).2).2
  have law := pending_run second fun member => kept (List.mem_append_right _ member)
  rw [asks_eq_nil quiet, pendingNow, List.length_nil] at law
  rw [along_append first, going, List.nil_append]
  omega

/-- What becomes of the cancellations of reader `r`. -/
structure Heeded (ω : Type) (r : Nat) : Prop where
  -- one that is not taken back stays until the reader gives up
  stays : ∀ (c d : Crowd ω) (ms : List (Move ω)), c.run ms = some d → .reset r ∉ ms →
    c.pending r = 1 → along (givesUp r) c ms = [] → d.pending r = 1
  -- the reader gives up when it found neither a frame nor the end of the stream
  inVain : ∀ (c : Crowd ω) (m : Move ω) (i : Nat), i ∈ c.givesUp r m ↔ m = .advance i ∧
    ∃ v e, c.visits[i]? = some v ∧ v.reader = r ∧ v.phase = .undeterred e ∧
      (c.reader r).cancelled = true
  -- any number of them before that are one
  once : ∀ (c b d : Crowd ω) (before after : List (Move ω)), c.run before = some b →
    b.run after = some d → .reset r ∉ before ++ after → .order (.cancel r) ∈ before →
    along (givesUp r) c before = [] → .order (.cancel r) ∉ after →
    (along (givesUp r) c (before ++ after)).length + d.pending r = 1

theorem heeded (r : Nat) : Heeded ω r where
  stays _ _ _ ran kept asked going := pending_of_not_givesUp ran kept asked going
  inVain _ _ _ := mem_givesUp
  once _ _ _ _ _ first second kept asked going quiet :=
    once_of_cancels first second kept asked going quiet

end Crowd

end Framecast.Device
