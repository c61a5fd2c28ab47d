import Framecast.Proofs.Device.Steps
import Framecast.Proofs.Picture.Drawing
import Framecast.Proofs.Pool.Ring

set_option autoImplicit false

namespace Framecast.Device

variable {ω : Type}

def boxed (d : Device ω) : List Bytes := d.mailbox.frame.toList.flatMap Frame.loan

-- how many buffers a call may still take out of the pool
def Errand.takes : Errand → Nat
  | .firing | .popping => 1
  | _ => 0

/-- Of the `n` buffers of a device, its pool, which has given out `taken` so far, keeps some, one
may be in its mailbox, and the others are out. -/
structure Stock (d : Device ω) (g : Geometry) (n taken : Nat) (kept out : List Bytes) : Prop where
  producing : ∃ p period, d.kind = .frames g p period
  pool : ∃ p, d.pool = some p ∧ p.Ring taken kept ∧ p.cells.size = 2 * n ∧ p.bufLen = g.frameSize
  words : Pool.InWords (2 * n) (taken + kept.length)
  count : kept.length + (d.boxed ++ out).length = n
  lengths : ∀ b ∈ d.boxed ++ out, b.length = g.frameSize

namespace Stock

variable {d : Device ω} {g : Geometry} {n taken : Nat} {kept out : List Bytes}

theorem pass {d' : Device ω} {out' : List Bytes} (s : d.Stock g n taken kept out)
    (kind : d'.kind = d.kind) (pool : d'.pool = d.pool)
    (same : (d'.boxed ++ out').Perm (d.boxed ++ out)) : d'.Stock g n taken kept out' where
  producing := kind ▸ s.producing
  pool := pool ▸ s.pool
  words := s.words
  count := same.length_eq ▸ s.count
  lengths b member := s.lengths b (same.mem_iff.mp member)

theorem perm {out' : List Bytes} (s : d.Stock g n taken kept out) (same : out'.Perm out) :
    d.Stock g n taken kept out' := s.pass rfl rfl (same.append_left _)

theorem popBuffer {d' : Device ω} {b : Bytes} (s : d.Stock g n taken kept out)
    (popped : d.popBuffer = some (b, d')) :
    ∃ rest, kept = b :: rest ∧ d'.Stock g n (taken + 1) rest (b :: out) := by
  obtain ⟨p, q, here, given, rfl⟩ := popBuffer_eq_some popped
  obtain ⟨_, here', ring, size, bufLen⟩ := s.pool
  obtain rfl := Option.some.inj (here'.symm.trans here)
  obtain ⟨c, rest, rfl, pop, ring'⟩ | ⟨-, pop | pop⟩ :=
    ring.pop_cases (size ▸ Nat.dvd_mul_right 2 n) (size ▸ s.words)
  case inr.inl => simp [Pool.take?, pop] at given
  case inr.inr => simp [Pool.take?, pop] at given
  case inl =>
    simp only [Pool.take?, pop, Option.some.injEq, Prod.mk.injEq] at given
    obtain ⟨rfl, rfl⟩ := given
    have same : (d.boxed ++ c :: out).Perm (c :: (d.boxed ++ out)) := List.perm_middle
    refine ⟨rest, rfl, s.producing, ⟨_, rfl, ring', ?_, bufLen⟩, ?_, ?_, ?_⟩
    · simpa [Pool.Ring.emptied] using size
    · have words := s.words
      rwa [List.length_cons, ← Nat.add_assoc, Nat.add_right_comm] at words
    · have count := s.count
      change rest.length + (d.boxed ++ c :: out).length = n
      rw [same.length_eq, List.length_cons]
      rw [List.length_cons] at count
      omega
    · intro x member
      rcases List.mem_cons.mp (same.mem_iff.mp member) with rfl | old
      · exact (ring.lengths x (List.mem_cons_self ..)).trans bufLen
      · exact s.lengths x old

theorem kept_eq_nil (s : d.Stock g n taken kept out) (none : d.popBuffer = none) : kept = [] := by
  obtain ⟨p, here, ring, size, -⟩ := s.pool
  obtain ⟨b, rest, rfl, pop, -⟩ | ⟨empty, -⟩ :=
    ring.pop_cases (size ▸ Nat.dvd_mul_right 2 n) (size ▸ s.words)
  · simp [Device.popBuffer, here, Pool.take?, pop] at none
  · exact empty

theorem room (s : d.Stock g n taken kept out) : kept.length < 2 * n := by
  obtain ⟨p, -, ring, size, -⟩ := s.pool
  have two_le := ring.two_le
  have count := s.count
  omega

theorem returnBuffer {b : Bytes} (s : d.Stock g n taken kept (b :: out))
    (free : d.stalls b = false) : (d.returnBuffer b).Stock g n taken (kept ++ [b]) out := by
  have same : (d.boxed ++ b :: out).Perm (b :: (d.boxed ++ out)) := List.perm_middle
  have length : b.length = g.frameSize := s.lengths b (by simp)
  have room := s.room
  obtain ⟨p, here, ring, size, bufLen⟩ := s.pool
  have length' : b.length = p.bufLen := length.trans bufLen.symm
  rcases ring.push_cases (size ▸ Nat.dvd_mul_right 2 n) (size ▸ room) (size ▸ s.words) length'
    with ⟨push, ring', words⟩ | stuck
  · refine ⟨s.producing, ⟨Pool.Ring.stored p b, ?_, ring', ?_, bufLen⟩, size ▸ words, ?_, ?_⟩
    · simp [Device.returnBuffer, here, Pool.putBack, push]
    · simpa [Pool.Ring.stored] using size
    · have count := s.count
      rw [same.length_eq, List.length_cons] at count
      change (kept ++ [b]).length + (d.boxed ++ out).length = n
      rw [List.length_append, List.length_singleton]
      omega
    · exact fun x member => s.lengths x (same.mem_iff.mpr (List.mem_cons_of_mem _ member))
  · have stalled : d.stalls b = true := by
      rw [Device.stalls, here, Option.any_some, Pool.stalls]
      split
      next q push => exact absurd push (stuck q)
      next => simpa using length'
    simp [free] at stalled

theorem drop {f : Frame} (s : d.Stock g n taken kept (f.loan ++ out))
    (free : f.loan.any d.stalls = false) : ∃ kept', (d.drop f).Stock g n taken kept' out := by
  cases pooled : f.pooled with
  | true =>
    simp only [Frame.loan, pooled, if_true, List.any_cons, List.any_nil, Bool.or_false] at s free
    exact ⟨_, by simpa [Device.drop, pooled] using s.returnBuffer free⟩
  | false =>
    exact ⟨kept, by simpa [Device.drop, pooled, Frame.loan] using s⟩

theorem dropAny {f : Option Frame}
    (s : d.Stock g n taken kept (f.toList.flatMap Frame.loan ++ out))
    (free : (f.toList.flatMap Frame.loan).any d.stalls = false) :
    ∃ kept', (d.dropAny f).Stock g n taken kept' out := by
  cases f with
  | none => exact ⟨kept, s⟩
  | some f =>
    simp only [Option.toList_some, List.flatMap_singleton] at s free
    exact s.drop free

theorem collect (s : d.Stock g n taken kept out) :
    d.collect.2.Stock g n taken kept (d.collect.1.toList.flatMap Frame.loan ++ out) := by
  obtain ⟨-, same⟩ | ⟨-, same⟩ := collect_cases d <;> rw [same]
  · exact s
  · exact s.pass rfl rfl (.refl _)

theorem step_popping (s : d.Stock g n taken kept out) :
    ∃ taken' kept', (Errand.step (.popping, d)).2.Stock g n taken' kept'
      ((Errand.step (.popping, d)).1.inHand ++ out) ∧ taken' ≤ taken + 1 := by
  simp only [Errand.step]
  split
  next => exact ⟨taken, kept, s.pass rfl rfl (.refl _), by omega⟩
  next b d' popped =>
    obtain ⟨rest, -, s'⟩ := s.popBuffer popped
    exact ⟨taken + 1, rest, s', Nat.le_refl _⟩

theorem step_numbering {b : Bytes} (s : d.Stock g n taken kept (b :: out)) :
    (Errand.step (.numbering b, d)).2.Stock g n taken kept
      ((Errand.step (.numbering b, d)).1.inHand ++ out) := by
  obtain ⟨p, period, kind⟩ := s.producing
  have redrawn : d.number.2.Stock g n taken kept ((p.draw g d.nextSeq b).buffer :: out) := by
    refine ⟨s.producing, s.pool, s.words, by simpa [boxed, number] using s.count, ?_⟩
    intro x member
    rcases List.mem_append.mp member with inside | outside
    · exact s.lengths x (List.mem_append_left _ inside)
    · rcases List.mem_cons.mp outside with rfl | old
      · rw [Pattern.length_draw]
        exact s.lengths b (by simp)
      · exact s.lengths x (by simp [old])
  obtain ⟨_, simple, -⟩ | ⟨g', p', _, kind', ⟨-, same⟩ | ⟨-, same⟩⟩ :=
    Errand.step_numbering_cases b d
  · simp [kind] at simple
  all_goals
    obtain ⟨rfl, rfl, -⟩ : g = g' ∧ p = p' ∧ _ := by simpa [kind] using kind'
    rw [same]
    exact redrawn

theorem step_depositing {f : Frame} (s : d.Stock g n taken kept (f.loan ++ out)) :
    (Errand.step (.depositing f, d)).2.Stock g n taken kept
      ((Errand.step (.depositing f, d)).1.inHand ++ out) := by
  cases closed : d.mailbox.closed with
  | true =>
    rw [Errand.step_depositing_closed closed]
    simpa [Errand.inHand, Errand.frames] using s
  | false =>
    rw [Errand.step_depositing_open closed]
    refine s.pass rfl rfl ?_
    simp only [boxed, Errand.inHand, Errand.frames, Option.toList_some, List.flatMap_singleton]
    exact List.perm_append_comm_assoc _ _ _

theorem inHand_of_isOver {e : Errand} (ended : e.isOver = true) : e.inHand = [] := by
  cases e <;> first | rfl | simp [Errand.isOver] at ended

theorem takes_of_isOver {e : Errand} (ended : e.isOver = true) : e.takes = 0 := by
  cases e <;> first | rfl | simp [Errand.isOver] at ended

theorem takes_step {e : Errand} (begun : e ≠ .firing) (d : Device ω) :
    (Errand.step (e, d)).1.takes = 0 := by
  cases e with
  | firing => exact absurd rfl begun
  | popping =>
    simp only [Errand.step]
    split <;> rfl
  | numbering b =>
    obtain ⟨_, -, same⟩ | ⟨_, _, _, -, ⟨-, same⟩ | ⟨-, same⟩⟩ := Errand.step_numbering_cases b d <;>
      rw [same] <;> rfl
  | offering memory data =>
    obtain ⟨_, -, -, same⟩ | ⟨e, ended, same⟩ := Errand.step_offering_cases memory data d <;> rw [same]
    · rfl
    · exact takes_of_isOver ended
  | depositing f =>
    cases closed : d.mailbox.closed with
    | true => rw [Errand.step_depositing_closed closed]; rfl
    | false => rw [Errand.step_depositing_open closed]; rfl
  | closing =>
    simp only [Errand.step]
    split <;> rfl
  | _ => rfl

theorem step {e : Errand} (s : d.Stock g n taken kept (e.inHand ++ out))
    (free : e.stalls d = false) :
    ∃ taken' kept', (Errand.step (e, d)).2.Stock g n taken' kept'
        ((Errand.step (e, d)).1.inHand ++ out) ∧
      taken' + (Errand.step (e, d)).1.takes ≤ taken + e.takes := by
  by_cases begun : e = .firing
  next =>
    subst begun
    obtain same | ⟨e, ended, same⟩ := Errand.step_firing_cases d <;> rw [same]
    · exact ⟨taken, kept, s, Nat.le_refl _⟩
    · exact ⟨taken, kept, by rwa [inHand_of_isOver ended], by rw [takes_of_isOver ended]; omega⟩
  next =>
    rw [takes_step begun]
    cases e with
    | firing => exact absurd rfl begun
    | popping => exact s.step_popping
    | numbering b => exact ⟨taken, kept, s.step_numbering, Nat.le_refl _⟩
    | offering memory data =>
      refine ⟨taken, kept, ?_, Nat.le_refl _⟩
      obtain ⟨_, -, -, same⟩ | ⟨e, ended, same⟩ := Errand.step_offering_cases memory data d <;> rw [same]
      · exact s
      · rwa [inHand_of_isOver ended]
    | depositing f =>
      simp only [Errand.inHand, Errand.frames, List.flatMap_singleton] at s
      exact ⟨taken, kept, s.step_depositing, Nat.le_refl _⟩
    | restoring b =>
      have free' : d.stalls b = false := by simpa [Errand.stalls, Errand.returns] using free
      exact ⟨taken, _, s.returnBuffer free', Nat.le_refl _⟩
    | displacing old seq =>
      obtain ⟨kept', s'⟩ := dropAny s free
      exact ⟨taken, kept', s', Nat.le_refl _⟩
    | dropping old =>
      obtain ⟨kept', s'⟩ := dropAny s free
      exact ⟨taken, kept', s', Nat.le_refl _⟩
    | refused f =>
      simp only [Errand.inHand, Errand.frames, List.flatMap_singleton] at s
      obtain ⟨kept', s'⟩ := s.drop free
      exact ⟨taken, kept', s', Nat.le_refl _⟩
    | releasing f =>
      simp only [Errand.inHand, Errand.frames, List.flatMap_singleton] at s
      obtain ⟨kept', s'⟩ := s.drop free
      exact ⟨taken, kept', s', Nat.le_refl _⟩
    | closing =>
      refine ⟨taken, kept, ?_, Nat.le_refl _⟩
      simp only [Errand.step]
      split <;> exact s.pass rfl rfl (.refl _)
    | shutting => exact ⟨taken, kept, s.pass rfl rfl (.refl _), Nat.le_refl _⟩
    | _ => exact ⟨taken, kept, s.pass rfl rfl (.refl _), Nat.le_refl _⟩

theorem advance {mode : Mode} {p : Reader.Phase} {r : Reader}
    (s : d.Stock g n taken kept (p.frames.flatMap Frame.loan ++ out)) :
    (Reader.advance mode (p, r, d)).2.2.Stock g n taken kept
      ((Reader.advance mode (p, r, d)).1.frames.flatMap Frame.loan ++ out) := by
  cases p with
  | observed e =>
    have taken := s.collect
    simp only [Reader.advance]
    split <;> simp_all [Reader.Phase.frames]
  | missed e | undeterred e | resigned e =>
    simp only [Reader.advance]
    split <;> exact s
  | _ => exact s

theorem expire (s : d.Stock g n taken kept out) :
    (Reader.expire d).2.Stock g n taken kept
      ((Reader.Phase.done (Reader.expire d).1).frames.flatMap Frame.loan ++ out) := by
  have taken := s.collect
  simp only [Reader.expire]
  split <;> simp_all [Reader.Phase.frames]

theorem pool_shows (s : d.Stock g n taken kept out) :
    ∃ p, d.pool = some p ∧ p.capacity = 2 * n ∧ p.len = kept.length ∧ p.toList = kept ∧
      ∀ b ∈ kept, b.length = g.frameSize := by
  obtain ⟨p, here, ring, size, bufLen⟩ := s.pool
  refine ⟨p, here, size, ring.len_eq, ring.toList_eq fun i inside => ?_, fun b member => ?_⟩
  · exact Pool.steady_of_inWords (size ▸ s.words) (Nat.add_lt_add_left inside taken)
  · exact (ring.lengths b member).trans bufLen

theorem push_stored (s : d.Stock g n taken kept out)
    (left : 2 * n ∣ 2 ^ 64 ∨ taken + kept.length < 2 ^ 64) {p : Pool} (here : d.pool = some p)
    {b : Bytes} (length : b.length = g.frameSize) : ∃ q, p.push b = .stored q := by
  have room := s.room
  obtain ⟨_, here', ring, size, bufLen⟩ := s.pool
  obtain rfl := Option.some.inj (here'.symm.trans here)
  have steady := left.elim Pool.steady_of_dvd Pool.steady_of_lt
  exact ⟨_, (ring.push_of_room (size ▸ room) (size ▸ steady) (length.trans bufLen.symm)).1⟩

theorem not_stalls (s : d.Stock g n taken kept out)
    (left : 2 * n ∣ 2 ^ 64 ∨ taken + kept.length < 2 ^ 64) {b : Bytes}
    (length : b.length = g.frameSize) : d.stalls b = false := by
  obtain ⟨p, here, -⟩ := s.pool
  obtain ⟨q, push⟩ := s.push_stored left here length
  simp [Device.stalls, here, Pool.stalls, push]

theorem not_lags (s : d.Stock g n taken kept out)
    (left : 2 * n ∣ 2 ^ 64 ∨ taken + kept.length < 2 ^ 64) : d.pool.any Pool.lags = false := by
  obtain ⟨p, here, ring, size, -⟩ := s.pool
  cases kept with
  | nil =>
    have steady := left.elim Pool.steady_of_dvd Pool.steady_of_lt
    simp [here, Pool.lags, ring.pop_of_nil (size ▸ steady)]
  | cons b rest =>
    have steady := Pool.steady_of_inWords s.words (Nat.lt_add_of_pos_right (by simp))
    simp [here, Pool.lags, (ring.pop_of_cons (size ▸ steady)).1]

theorem mem_inHand_of_mem_returns {e : Errand} {b : Bytes} (member : b ∈ e.returns) :
    b ∈ e.inHand := by
  cases e <;> simp_all [Errand.returns, Errand.inHand, Errand.frames]

theorem errand_not_stalls {e : Errand} (s : d.Stock g n taken kept out)
    (left : 2 * n ∣ 2 ^ 64 ∨ taken + kept.length < 2 ^ 64)
    (lengths : ∀ b ∈ e.inHand, b.length = g.frameSize) : e.stalls d = false := by
  by_cases popping : e = .popping
  next =>
    subst popping
    exact s.not_lags left
  next =>
    have returned : e.returns.any d.stalls = false := by
      rw [List.any_eq_false]
      intro b member
      simp [s.not_stalls left (lengths b (mem_inHand_of_mem_returns member))]
    cases e with
    | popping => exact absurd rfl popping
    | _ => exact returned

end Stock

theorem stock_of_openWith {memory : Nat} {g : Geometry} {p : Pattern} {period : Option Millis}
    {n : UInt64} {d : Device ω} (opened : openWith memory (.frames g p period) n = .ok d) :
    d.Stock g n.toNat 0 (List.replicate n.toNat (Bytes.zeros g.frameSize)) [] ∧
      d.kind = .frames g p period ∧ d.mailbox.frame = none ∧
      g.frameSize ≤ Size.pieceLimit := by
  simp only [openWith] at opened
  split at opened
  next => simp at opened
  next fit =>
    have two_le := two_le_of_fit fit
    simp only [poolFor] at opened
    cases made : Pool.withBuffers memory (Size.mul n.toNat 2) (Kind.frames g p period).frameSize
        n.toNat with
    | error e => simp [made] at opened
    | ok q =>
      have doubled : 2 ≤ Size.mul n.toNat 2 := by
        simp only [Size.mul, Size.limit, UInt64.size]
        omega
      obtain ⟨ring, size, bufLen, cells, fits⟩ := Pool.ring_withBuffers doubled made
      have double : Size.mul n.toNat 2 = 2 * n.toNat := by
        simp only [Size.mul, Size.limit, Size.pieceLimit, UInt64.size, Pool.cellSize] at *
        omega
      have small : 2 * n.toNat ≤ 2 ^ 57 := by
        simp only [double, Size.pieceLimit, UInt64.size, Pool.cellSize] at cells
        omega
      rw [made] at opened
      obtain rfl := Except.ok.inj opened
      refine ⟨⟨⟨p, period, rfl⟩, ⟨q, rfl, ring, size.trans double, bufLen⟩, .inr ?_, ?_, ?_⟩, rfl,
        rfl, fits (by omega)⟩
      · rw [List.length_replicate]
        omega
      · simp [boxed]
      · simp [boxed]

end Framecast.Device
