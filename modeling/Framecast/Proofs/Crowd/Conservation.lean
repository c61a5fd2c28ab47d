import Framecast.Proofs.Crowd.Frames
import Framecast.Proofs.Device.Stock

set_option autoImplicit false

namespace Framecast.Device

def Crowd.Move.fires {ω : Type} : Crowd.Move ω → Nat
  | .order .tick | .order .fire => 1
  | _ => 0

namespace Crowd

variable {ω : Type} {c d : Crowd ω} {g : Geometry} {n : Nat}

def inHands (c : Crowd ω) : List Bytes :=
  c.errands.flatMap Errand.inHand ++ c.visits.flatMap fun v => v.phase.frames.flatMap Frame.loan

-- the buffers outside of the pool and the mailbox
def out (c : Crowd ω) : List Bytes := c.inHands ++ (c.held.flatMap Frame.loan ++ c.detached)

def appetite (c : Crowd ω) : Nat := (c.errands.map Errand.takes).sum

def fires (ms : List (Move ω)) : Nat := (ms.map Move.fires).sum

theorem perm_eraseIdx {α : Type} {l : List α} {i : Nat} {x : α} (at_i : l[i]? = some x) :
    l.Perm (x :: l.eraseIdx i) := by
  obtain ⟨inside, rfl⟩ := List.getElem?_eq_some_iff.mp at_i
  exact (List.getElem_cons_eraseIdx_perm inside).symm

theorem out_errand {i : Nat} {e : Errand} (at_i : c.errands[i]? = some e) :
    c.out.Perm (e.inHand ++ { c with errands := c.errands.eraseIdx i }.out) := by
  have calls : (c.errands.flatMap Errand.inHand).Perm
      (e.inHand ++ (c.errands.eraseIdx i).flatMap Errand.inHand) :=
    (perm_eraseIdx at_i).flatMap_right Errand.inHand
  simp only [out, inHands, ← List.append_assoc]
  exact ((calls.append_right _).append_right _).append_right _

theorem out_visit {i : Nat} {v : Visit} (at_i : c.visits[i]? = some v) :
    c.out.Perm
      (v.phase.frames.flatMap Frame.loan ++ { c with visits := c.visits.eraseIdx i }.out) := by
  have visits := (perm_eraseIdx at_i).flatMap_right fun v => v.phase.frames.flatMap Frame.loan
  simp only [out, inHands, List.append_assoc]
  refine ((visits.append_right _).append_left _).trans ?_
  rw [List.flatMap_cons, List.append_assoc]
  exact List.perm_append_comm_assoc _ _ _

theorem out_held {k : Nat} {f : Frame} (at_k : c.held[k]? = some f) :
    c.out.Perm (f.loan ++ { c with held := c.held.eraseIdx k }.out) := by
  have held := (perm_eraseIdx at_k).flatMap_right Frame.loan
  simp only [out]
  refine ((held.append_right _).append_left _).trans ?_
  rw [List.flatMap_cons, List.append_assoc]
  exact List.perm_append_comm_assoc _ _ _

theorem appetite_errand {i : Nat} {e : Errand} (at_i : c.errands[i]? = some e) :
    c.appetite = e.takes + { c with errands := c.errands.eraseIdx i }.appetite :=
  ((perm_eraseIdx at_i).map Errand.takes).sum_nat

theorem eraseIdx_addErrand (c : Crowd ω) (e : Errand) :
    (c.addErrand e).errands[c.errands.length]? = some e ∧
      (c.addErrand e).errands.eraseIdx c.errands.length = c.errands := by
  simp [addErrand, List.eraseIdx_append_of_length_le]

theorem out_addErrand (c : Crowd ω) (e : Errand) :
    (c.addErrand e).out.Perm (e.inHand ++ c.out) := by
  obtain ⟨last, rest⟩ := eraseIdx_addErrand c e
  have out := out_errand last
  rwa [rest] at out

theorem appetite_addErrand (c : Crowd ω) (e : Errand) :
    (c.addErrand e).appetite = e.takes + c.appetite := by
  obtain ⟨last, rest⟩ := eraseIdx_addErrand c e
  have appetite := appetite_errand last
  rwa [rest] at appetite

theorem out_rouse (c : Crowd ω) : c.rouse.out = c.out := by
  simp only [out, inHands, rouse, List.flatMap_map, frames_roused]

/-- All `n` buffers are accounted for, and `fires` ticks were begun. -/
def Conserved (c : Crowd ω) (g : Geometry) (n fires : Nat) : Prop :=
  ∃ taken kept, c.device.Stock g n taken kept c.out ∧ taken + c.appetite ≤ fires

namespace Conserved

variable {fires : Nat}

theorem undertake {o : Order} (w : c.Conserved g n fires) (h : c.undertake o = some d) :
    d.Conserved g n (fires + Move.fires (.order o : Move ω)) := by
  obtain ⟨taken, kept, s, le⟩ := w
  have begin (c' : Crowd ω) (same : c'.device = c.device) (out : c'.out = c.out)
      (appetite : c'.appetite = c.appetite) (e : Errand) (idle : e.inHand = []) (more : Nat)
      (takes : e.takes ≤ more) : (c'.addErrand e).Conserved g n (fires + more) := by
    refine ⟨taken, kept, ?_, ?_⟩
    · have perm := out_addErrand c' e
      rw [idle, out] at perm
      exact s.pass (congrArg Device.kind same) (congrArg Device.pool same)
        (by rw [boxed, addErrand, same]; exact perm.append_left _)
    · rw [appetite_addErrand, appetite]
      omega
  obtain rfl | ⟨r, readers, rfl, rfl⟩ := undertake_eq_some h
  · refine begin c rfl rfl rfl o.errand ?_ _ ?_ <;> cases o <;> simp [Order.errand, Errand.inHand,
      Errand.frames, Errand.takes, Move.fires]
  · exact begin { c with readers := readers } rfl rfl rfl .alerting rfl _ (Nat.zero_le _)

theorem perform {i : Nat} {e : Errand} (w : c.Conserved g n fires) (at_i : c.errands[i]? = some e)
    (free : e.stalls c.device = false) : (c.perform i e).Conserved g n fires := by
  obtain ⟨taken, kept, s, le⟩ := w
  obtain ⟨taken', kept', s', le'⟩ := (s.perm (out_errand at_i).symm).step free
  obtain ⟨inside, -⟩ := List.getElem?_eq_some_iff.mp at_i
  have now : (c.errands.set i (Errand.step (e, c.device)).1)[i]? =
      some (Errand.step (e, c.device)).1 := by simp [inside]
  have rest : (c.errands.set i (Errand.step (e, c.device)).1).eraseIdx i = c.errands.eraseIdx i :=
    List.eraseIdx_set_eq
  have stepped :
      Conserved { c with
        errands := c.errands.set i (Errand.step (e, c.device)).1
        device := (Errand.step (e, c.device)).2
        numbered := c.numbered ++ e.label c.device } g n fires := by
    refine ⟨taken', kept', s'.perm ?_, ?_⟩
    · refine (out_errand now).trans ?_
      rw [rest]
      exact .refl _
    · rw [appetite_errand now, rest]
      rw [appetite_errand at_i] at le
      change taken' + (_ + { c with errands := c.errands.eraseIdx i }.appetite) ≤ fires
      omega
  cases loud : e.notifies with
  | true =>
    rw [perform_of_notifies loud]
    obtain ⟨taken, kept, s, le⟩ := stepped
    exact ⟨taken, kept, by rwa [out_rouse], le⟩
  | false =>
    rw [perform_of_quiet loud]
    exact stepped

theorem setPhase {i : Nat} {v : Visit} {p : Reader.Phase} {device : Device ω}
    {readers : List Reader} (w : c.Conserved g n fires) (at_i : c.visits[i]? = some v)
    (own : ∀ taken kept out,
      c.device.Stock g n taken kept (v.phase.frames.flatMap Frame.loan ++ out) →
        device.Stock g n taken kept (p.frames.flatMap Frame.loan ++ out)) :
    { c.setPhase i v p with device := device, readers := readers }.Conserved g n fires := by
  obtain ⟨taken, kept, s, le⟩ := w
  obtain ⟨inside, -⟩ := List.getElem?_eq_some_iff.mp at_i
  have now : (c.visits.set i (v.moveTo p))[i]? = some (v.moveTo p) := by simp [inside]
  have rest : (c.visits.set i (v.moveTo p)).eraseIdx i = c.visits.eraseIdx i :=
    List.eraseIdx_set_eq
  refine ⟨taken, kept, (own taken kept _ (s.perm (out_visit at_i).symm)).perm ?_, le⟩
  refine (out_visit now).trans ?_
  dsimp only [Crowd.setPhase]
  rw [rest]
  exact .refl _

theorem leave {i : Nat} (w : c.Conserved g n fires) (h : c.leave i = some d) :
    d.Conserved g n fires := by
  obtain ⟨taken, kept, s, le⟩ := w
  obtain ⟨v, at_i, left⟩ := leave_eq_some h
  have out := out_visit at_i
  rcases left with ⟨f, got, ⟨-, rfl⟩ | ⟨buffer, -, rfl⟩⟩ | ⟨r, ended, other, rfl⟩
  · refine ⟨taken, kept, s.perm (.trans ?_ out.symm), le⟩
    rw [got, List.perm_iff_count]
    intro b
    simp only [Crowd.out, inHands, Reader.Phase.frames, List.flatMap_append, List.flatMap_cons,
      List.flatMap_nil, List.count_append, List.count_nil]
    omega
  · refine ⟨taken, kept, s.perm (.trans ?_ out.symm), ?_⟩
    · rw [got, List.perm_iff_count]
      intro b
      simp only [Crowd.out, inHands, copyOut, Errand.inHand, Errand.frames, Reader.Phase.frames,
        List.flatMap_append, List.flatMap_cons, List.flatMap_nil, List.count_append,
        List.count_nil]
      omega
    · simpa [appetite, copyOut, Errand.takes] using le
  · have nothing : v.phase.frames = [] := by
      rw [ended]
      unfold Reader.Phase.frames
      split
      next f taken => exact absurd (Reader.Phase.done.inj taken) (other f)
      next => rfl
    refine ⟨taken, kept, s.perm (.trans ?_ out.symm), le⟩
    rw [nothing]
    exact .refl _

theorem drop {k : Nat} (w : c.Conserved g n fires) (h : c.step (.drop k) = some d) :
    d.Conserved g n fires := by
  obtain ⟨taken, kept, s, le⟩ := w
  obtain ⟨f, at_k, free, rfl⟩ := drop_eq_some h
  obtain ⟨kept', s'⟩ := (s.perm (out_held at_k).symm).drop free
  exact ⟨taken, kept', s', le⟩

theorem detach {k : Nat} (w : c.Conserved g n fires) (h : c.step (.detach k) = some d) :
    d.Conserved g n fires := by
  obtain ⟨taken, kept, s, le⟩ := w
  obtain ⟨f, at_k, rfl⟩ := detach_eq_some h
  refine ⟨taken, kept, s.perm (.trans ?_ (out_held at_k).symm), le⟩
  rw [List.perm_iff_count]
  intro b
  simp only [out, inHands, List.count_append]
  omega

theorem step {m : Move ω} (w : c.Conserved g n fires) (h : c.step m = some d) :
    d.Conserved g n (fires + m.fires) := by
  cases m with
  | order o => exact w.undertake h
  | errand i =>
    obtain ⟨e, at_i, free, rfl⟩ := stepErrand_eq_some h
    exact w.perform at_i free
  | visit r mode buffer =>
    obtain rfl := visit_eq_some h
    obtain ⟨taken, kept, s, le⟩ := w
    refine ⟨taken, kept, ?_, le⟩
    simpa [out, inHands, frames_start_visit] using s
  | advance i =>
    obtain ⟨v, at_i, rfl⟩ := stepVisit_eq_some h
    exact w.setPhase at_i fun _ _ _ s => s.advance
  | signal i =>
    obtain ⟨v, _, at_i, asleep, rfl⟩ := signal_eq_some h
    exact w.setPhase at_i fun _ _ _ s => by rwa [asleep] at s
  | expire i =>
    obtain ⟨v, _, at_i, asleep, rfl⟩ := expire_eq_some h
    refine w.setPhase at_i fun _ _ _ s => Stock.expire ?_
    rwa [asleep] at s
  | leave i => exact w.leave h
  | drop k => exact w.drop h
  | detach k => exact w.detach h
  | _ =>
    obtain rfl := Option.some.inj h
    obtain ⟨taken, kept, s, le⟩ := w
    exact ⟨taken, kept, s.pass rfl rfl (.refl _), le⟩

theorem run {ms : List (Move ω)} (w : c.Conserved g n fires) (ran : c.run ms = some d) :
    d.Conserved g n (fires + Crowd.fires ms) := by
  induction ms generalizing c fires with
  | nil => exact Option.some.inj ran ▸ w
  | cons m ms ih =>
    obtain ⟨e, first, rest⟩ := Option.bind_eq_some_iff.mp ran
    have next := ih (w.step first) rest
    rwa [Nat.add_assoc] at next

end Conserved

-- on a frame-producing device all frames are on loan
structure Lent (c : Crowd ω) : Prop where
  producing : ∃ g p period, c.device.kind = .frames g p period
  unwritten : ∀ data kept, .labelling data kept ∉ c.errands
  pooled : ∀ f ∈ c.frames, f.pooled = true

theorem Lent.step {m : Move ω} (lent : c.Lent) (h : c.step m = some d) : d.Lent where
  producing := kind_step h ▸ lent.producing
  unwritten data kept member := by
    obtain ⟨g, p, period, kind⟩ := lent.producing
    obtain old | ⟨_, -, begun⟩ | ⟨_, capacity, -, simple, -⟩ := wanted_step h member rfl
    · exact lent.unwritten data kept old
    · simp at begun
    · simp [kind] at simple
  pooled f member := by
    rcases mem_frames_step h member with old | ⟨i, e, -, at_i, new⟩
    · exact lent.pooled f old
    · cases new with
      | drawn => rfl
      | labelled data kept => exact absurd (List.mem_of_getElem? at_i) (lent.unwritten data kept)

theorem Lent.run {ms : List (Move ω)} (lent : c.Lent) (ran : c.run ms = some d) : d.Lent :=
  run_invariant (fun _ _ _ lent h => Lent.step lent h) lent ran

theorem flatMap_loan {fs : List Frame} (pooled : ∀ f ∈ fs, f.pooled = true) :
    fs.flatMap Frame.loan = fs.map Frame.data := by
  induction fs with
  | nil => rfl
  | cons f fs ih =>
    have first := pooled f (List.mem_cons_self ..)
    have rest := ih fun f' member => pooled f' (List.mem_cons_of_mem _ member)
    simp [Frame.loan, first, rest]

theorem Lent.out_eq (lent : c.Lent) :
    c.device.boxed ++ c.out =
      c.device.mailbox.frame.toList.map Frame.data ++
        (c.inHands ++ (c.held.map Frame.data ++ c.detached)) := by
  have box : c.device.boxed = c.device.mailbox.frame.toList.map Frame.data :=
    flatMap_loan fun f member => lent.pooled f (mem_frames.mpr (.inl member))
  have held : c.held.flatMap Frame.loan = c.held.map Frame.data :=
    flatMap_loan fun f member => lent.pooled f (mem_frames.mpr (.inr (.inr (.inr member))))
  rw [box, out, held]

/-- The buffers that are not in the pool. -/
def abroad (c : Crowd ω) : Nat :=
  c.device.mailbox.frame.toList.length + c.inHands.length + c.held.length + c.detached.length

theorem conserved_start {memory : Nat} {g : Geometry} {p : Pattern} {period : Option Millis}
    {n : UInt64} {d : Device ω} (opened : openWith memory (.frames g p period) n = .ok d)
    (readers : Nat) : (start d readers).Conserved g n.toNat 0 := by
  obtain ⟨full, -⟩ := stock_of_openWith opened
  exact ⟨0, _, full.perm (by simp [start, out, inHands]), by simp [start, appetite]⟩

theorem lent_start {memory : Nat} {g : Geometry} {p : Pattern} {period : Option Millis}
    {n : UInt64} {d : Device ω} (opened : openWith memory (.frames g p period) n = .ok d)
    (readers : Nat) : (start d readers).Lent := by
  obtain ⟨-, kind, empty, -⟩ := stock_of_openWith opened
  refine ⟨⟨g, p, period, kind⟩, by simp [start], fun f member => ?_⟩
  simp [start, frames, empty] at member

theorem noBuffer_iff {taken : Nat} {kept : List Bytes} (s : c.device.Stock g n taken kept c.out)
    {i : Nat} (at_i : c.errands[i]? = some .popping) (h : c.stepErrand i = some d) :
    d.errands[i]? = some (.done (.ok .noBuffer)) ↔ kept = [] := by
  obtain ⟨e, at_i', -, rfl⟩ := stepErrand_eq_some h
  obtain rfl := Option.some.inj (at_i'.symm.trans at_i)
  obtain ⟨inside, -⟩ := List.getElem?_eq_some_iff.mp at_i
  rw [errands_perform, List.getElem?_set_self inside, Option.some.injEq]
  cases popped : c.device.popBuffer with
  | none => simp [Errand.step, popped, s.kept_eq_nil popped]
  | some found =>
    obtain ⟨rest, some_kept, -⟩ := s.popBuffer popped
    simp [Errand.step, popped, some_kept]

/--
In every state that is reached, the `n` buffers of a frame-producing device are in its pool, in its
mailbox, in the hands of calls, held by readers or detached, and are as long as a frame. The pool is
never full, and a tick finds no buffer exactly if all of them are abroad. A buffer that comes back
is stored at once while the positions of the ring fit into words, and always if laps of `2 * n`
cells go evenly into the number of words; else `Pool.Ring.push_after_words` applies in the end.
-/
theorem conserved_of_run {memory : Nat} {g : Geometry} {p : Pattern} {period : Option Millis}
    {n : UInt64} {d : Device ω} {readers : Nat} {ms : List (Move ω)} {c : Crowd ω}
    (opened : openWith memory (.frames g p period) n = .ok d)
    (ran : (start d readers).run ms = some c) :
    ∃ pool, c.device.pool = some pool ∧ pool.capacity = 2 * n.toNat ∧
      pool.len + c.abroad = n.toNat ∧
      (∀ b ∈ pool.toList ++ (c.device.mailbox.frame.toList.map Frame.data ++
        (c.inHands ++ (c.held.map Frame.data ++ c.detached))), b.length = g.frameSize) ∧
      pool.len < pool.capacity ∧
      (∀ i c', c.errands[i]? = some .popping → c.stepErrand i = some c' →
        (c'.errands[i]? = some (.done (.ok .noBuffer)) ↔ c.abroad = n.toNat)) ∧
      (2 * n.toNat ∣ 2 ^ 64 ∨ n.toNat + fires ms < 2 ^ 64 →
        (∀ b : Bytes, b.length = g.frameSize → ∃ q, pool.push b = .stored q) ∧
        (∀ e ∈ c.errands, e.stalls c.device = false) ∧
        ∀ f ∈ c.held, f.loan.any c.device.stalls = false) := by
  have lent := (lent_start opened readers).run ran
  obtain ⟨taken, kept, s, le⟩ := (conserved_start opened readers).run ran
  rw [Nat.zero_add] at le
  obtain ⟨pool, here, capacity, len, contents, lengths⟩ := s.pool_shows
  have account : pool.len + c.abroad = n.toNat := by
    have count := s.count
    rw [lent.out_eq] at count
    simp only [List.length_append, List.length_map] at count
    rw [len, abroad]
    omega
  refine ⟨pool, here, capacity, account, ?_, ?_, ?_, ?_⟩
  · intro b member
    rw [contents, ← lent.out_eq] at member
    rcases List.mem_append.mp member with inside | outside
    · exact lengths b inside
    · exact s.lengths b outside
  · rw [len, capacity]
    exact s.room
  · intro i c' popping stepped
    rw [noBuffer_iff s popping stepped, ← List.length_eq_zero_iff, ← len]
    omega
  · intro early
    have left : 2 * n.toNat ∣ 2 ^ 64 ∨ taken + kept.length < 2 ^ 64 := by
      refine early.imp_right fun few => ?_
      omega
    have outside : ∀ b ∈ c.out, b.length = g.frameSize :=
      fun b member => s.lengths b (List.mem_append_right _ member)
    refine ⟨fun b length => s.push_stored left here length, ?_, ?_⟩
    · intro e member
      refine s.errand_not_stalls left fun b mine => outside b ?_
      exact List.mem_append_left _ (List.mem_append_left _ (List.mem_flatMap.mpr ⟨e, member, mine⟩))
    · intro f member
      rw [List.any_eq_false]
      intro b mine
      have length := outside b (List.mem_append_right _
        (List.mem_append_left _ (List.mem_flatMap.mpr ⟨f, member, mine⟩)))
      simp [s.not_stalls left length]

def thirdTick : List (Move Unit) :=
  [.order .tick, .errand 0, .errand 0, .errand 0, .errand 0, .errand 0, .errand 0,
    .visit 0 .nonblocking none, .advance 0, .advance 0, .leave 0, .order .fire, .errand 1,
    .errand 1, .order .tick]

theorem conserved_of_run_thirdTick :
    ∃ d c, openWith 1024 (.frames ⟨2, 1, 2⟩ .gradient none) 2 = .ok d ∧
      (start d 1).run thirdTick = some c ∧ c.errands[2]? = some .popping ∧ c.abroad = 2 ∧
      (∀ c', c.stepErrand 2 = some c' → c'.errands[2]? = some (.done (.ok .noBuffer))) ∧
      ∀ e ∈ c.errands, e.stalls c.device = false := by
  have conserved (d : Device Unit) (c : Crowd Unit)
      (opened : openWith 1024 (.frames ⟨2, 1, 2⟩ .gradient none) 2 = .ok d)
      (ran : (start d 1).run thirdTick = some c) (popping : c.errands[2]? = some .popping)
      (abroad : c.abroad = 2) :
      (∀ c', c.stepErrand 2 = some c' → c'.errands[2]? = some (.done (.ok .noBuffer))) ∧
        ∀ e ∈ c.errands, e.stalls c.device = false := by
    obtain ⟨pool, -, -, -, -, -, none, early⟩ := conserved_of_run opened ran
    exact ⟨fun c' stepped => (none 2 c' popping stepped).mpr abroad, (early (.inl (by decide))).2.1⟩
  exact ⟨_, _, rfl, rfl, rfl, rfl, conserved _ _ rfl rfl rfl rfl⟩

end Crowd

end Framecast.Device
