import Framecast.Mailbox.Traffic
import Framecast.Proofs.Positions

set_option autoImplicit false

namespace Framecast.Mailbox

def Event.gives : Event → Option Frame
  | .accepted _ old => old
  | .refused _ _ => none
  | .closed pending => pending
  | .opened _ _ found => found

def given (es : List Event) : List Frame := es.filterMap Event.gives

/-- The event takes a frame away that `taker` might have got. -/
def Event.Forestalls (taker : Nat) : Event → Prop
  | .closed pending => pending.isSome
  | .opened other _ found => other ≠ taker ∧ found.isSome
  | _ => False

@[simp] theorem accepted_concat (es : List Event) (e : Event) :
    accepted (es ++ [e]) = accepted es ++ accepted [e] := List.filterMap_append

@[simp] theorem given_concat (es : List Event) (e : Event) :
    given (es ++ [e]) = given es ++ e.gives.toList := by
  cases h : e.gives <;> simp [given, h]

theorem given_perm (es : List Event) :
    (given es).Perm (taken es ++ displaced es ++ discarded es) := by
  induction es with
  | nil => exact .nil
  | cons e es ih =>
    have split (f : Frame) (xs ys : List Frame) (rest : (given es).Perm (xs ++ ys)) :
        (f :: given es).Perm (xs ++ f :: ys) :=
      (rest.cons f).trans List.perm_middle.symm
    cases e with
    | accepted f old =>
      cases old with
      | none => exact ih
      | some g =>
        have h := split g (taken es) (displaced es ++ discarded es)
          (by simpa only [List.append_assoc] using ih)
        change (g :: given es).Perm (taken es ++ (g :: displaced es) ++ discarded es)
        simpa only [List.append_assoc, List.cons_append] using h
    | refused f g => exact ih
    | closed pending =>
      cases pending with
      | none => exact ih
      | some g => exact split g (taken es ++ displaced es) (discarded es) ih
    | opened taker since found =>
      cases found with
      | none => exact ih
      | some g => exact ih.cons g

def Forestalled (es : List Event) (taker since upTo : Nat) : Prop :=
  ∃ k, ∃ e : Event, since ≤ k ∧ k < upTo ∧ es[k]? = some e ∧ e.Forestalls taker

theorem Forestalled.mono {es : List Event} {taker since i j : Nat}
    (h : Forestalled es taker since i) (le : i ≤ j) : Forestalled es taker since j := by
  obtain ⟨k, e, after, before, at_k, gone⟩ := h
  exact ⟨k, e, after, Nat.lt_of_lt_of_le before le, at_k, gone⟩

theorem Forestalled.concat {es : List Event} {taker since i : Nat} {e : Event}
    (h : Forestalled es taker since i) : Forestalled (es ++ [e]) taker since i := by
  obtain ⟨k, x, after, before, at_k, gone⟩ := h
  exact ⟨k, x, after, before, getElem?_concat at_k e, gone⟩

namespace Traffic

@[simp] theorem record_box (t : Traffic) (m : Mailbox) (e : Event) : (t.record m e).box = m := rfl

@[simp] theorem record_eager (t : Traffic) (m : Mailbox) (e : Event) :
    (t.record m e).eager = t.eager := rfl

@[simp] theorem record_events (t : Traffic) (m : Mailbox) (e : Event) :
    (t.record m e).events = t.events ++ [e] := rfl

@[simp] theorem setEager_box (t : Traffic) (i : Nat) (s : Option Nat) :
    (t.setEager i s).box = t.box := rfl

@[simp] theorem setEager_events (t : Traffic) (i : Nat) (s : Option Nat) :
    (t.setEager i s).events = t.events := rfl

theorem setEager_eager (t : Traffic) (i j : Nat) (s : Option Nat) :
    (t.setEager i s).eager j = if j = i then s else t.eager j := rfl

theorem step_cases {t u : Traffic} {m : Move} (h : t.step m = some u) :
    (∃ f, m = .publish f ∧ t.box.closed = false ∧
      u = t.record { t.box with frame := some f, ready := true, lastSeq := f.seq }
        (.accepted f t.box.frame)) ∨
    (∃ f, m = .publish f ∧ t.box.closed = true ∧ u = t.record t.box (.refused f f)) ∨
    (m = .close ∧
      u = t.record { t.box with frame := none, ready := false, closed := true }
        (.closed t.box.frame)) ∨
    (∃ i, m = .look i ∧ t.box.ready = false ∧ u = t) ∨
    (∃ i, m = .look i ∧ t.box.ready = true ∧ u = t.setEager i (some t.events.length)) ∨
    (∃ i since, m = .swap i ∧ t.eager i = some since ∧
      u = (t.setEager i none).record { t.box with frame := none, ready := false }
        (.opened i since t.box.frame)) := by
  cases m with
  | publish f =>
    cases closed : t.box.closed with
    | false =>
      simp only [step, publish_open closed, Option.some.injEq] at h
      exact .inl ⟨f, rfl, rfl, h.symm⟩
    | true =>
      simp only [step, publish_closed closed, Option.some.injEq] at h
      exact .inr (.inl ⟨f, rfl, rfl, h.symm⟩)
  | close =>
    simp only [step, Mailbox.close, Option.some.injEq] at h
    exact .inr (.inr (.inl ⟨rfl, h.symm⟩))
  | look i =>
    simp only [step] at h
    split at h
    next => simp at h
    next =>
      cases ready : t.box.ready with
      | false =>
        simp only [ready, Bool.false_eq_true, if_false, Option.some.injEq] at h
        exact .inr (.inr (.inr (.inl ⟨i, rfl, rfl, h.symm⟩)))
      | true =>
        simp only [ready, if_true, Option.some.injEq] at h
        exact .inr (.inr (.inr (.inr (.inl ⟨i, rfl, rfl, h.symm⟩))))
  | swap i =>
    simp only [step] at h
    split at h
    next => simp at h
    next since seen =>
      simp only [swapOut, Option.some.injEq] at h
      exact .inr (.inr (.inr (.inr (.inr ⟨i, since, rfl, seen, h.symm⟩))))

structure Sound (t : Traffic) : Prop where
  honest : t.box.Honest
  empty_of_closed : t.box.closed = true → t.box.frame = none
  closed_of_event : ∀ pending, Event.closed pending ∈ t.events → t.box.closed = true
  last : t.box.lastSeq = ((accepted t.events).getLast?.map Frame.seq).getD noSeq
  flow : accepted t.events = given t.events ++ t.box.frame.toList
  order : ∀ j (e : Event) f, t.events[j]? = some e → e.gives = some f →
    accepted (t.events.take j) = given (t.events.take j) ++ [f]
  returned : ∀ f g, Event.refused f g ∈ t.events → g = f
  -- a taker that saw the sign still finds a frame, unless it was forestalled
  hopeful : ∀ i since, t.eager i = some since → since ≤ t.events.length ∧
    (t.box.frame.isSome ∨ Forestalled t.events i since t.events.length)
  empty_handed : ∀ j i since, t.events[j]? = some (Event.opened i since none) →
    Forestalled t.events i since j

theorem sound_start : Sound {} where
  honest := rfl
  empty_of_closed := by simp
  closed_of_event := by simp
  last := rfl
  flow := rfl
  order := by simp
  returned := by simp
  hopeful := by simp
  empty_handed := by simp

variable {t u : Traffic}

theorem Sound.order_concat (s : t.Sound) {e : Event}
    (gives : ∀ f, e.gives = some f → t.box.frame = some f) (j : Nat) (x : Event) (f : Frame)
    (at_j : (t.events ++ [e])[j]? = some x) (out : x.gives = some f) :
    accepted ((t.events ++ [e]).take j) = given ((t.events ++ [e]).take j) ++ [f] := by
  rcases getElem?_concat_cases at_j with old | ⟨rfl, rfl⟩
  · obtain ⟨inside, _⟩ := List.getElem?_eq_some_iff.mp old
    rw [List.take_append_of_le_length (Nat.le_of_lt inside)]
    exact s.order j x f old out
  · rw [List.take_left, s.flow, gives f out]
    rfl

theorem Sound.returned_concat (s : t.Sound) {e : Event}
    (new : ∀ f g, e = .refused f g → g = f) (f g : Frame)
    (member : Event.refused f g ∈ t.events ++ [e]) : g = f := by
  rcases List.mem_append.mp member with old | last
  · exact s.returned f g old
  · exact new f g (List.mem_singleton.mp last).symm

theorem Sound.hopeful_concat (s : t.Sound) {e : Event} {box : Mailbox} {i since : Nat}
    (seen : t.eager i = some since)
    (new : t.box.frame.isSome → box.frame.isSome ∨ e.Forestalls i) :
    since ≤ (t.events ++ [e]).length ∧
      (box.frame.isSome ∨ Forestalled (t.events ++ [e]) i since (t.events ++ [e]).length) := by
  obtain ⟨bound, hope⟩ := s.hopeful i since seen
  rw [List.length_append, List.length_singleton]
  refine ⟨by omega, ?_⟩
  rcases hope with there | gone
  · rcases new there with still | gone
    · exact .inl still
    · exact .inr ⟨t.events.length, e, bound, by omega, by simp, gone⟩
  · exact .inr (gone.concat.mono (by omega))

theorem Sound.empty_handed_concat (s : t.Sound) {e : Event}
    (new : ∀ i since, e = .opened i since none → t.eager i = some since ∧ t.box.frame = none)
    (j i since : Nat) (at_j : (t.events ++ [e])[j]? = some (.opened i since none)) :
    Forestalled (t.events ++ [e]) i since j := by
  rcases getElem?_concat_cases at_j with old | ⟨rfl, last⟩
  · exact (s.empty_handed j i since old).concat
  · obtain ⟨seen, empty⟩ := new i since last.symm
    rcases (s.hopeful i since seen).2 with there | gone
    · simp [empty] at there
    · exact gone.concat

theorem Sound.accept (s : t.Sound) (f : Frame) (openBox : t.box.closed = false) :
    (t.record { t.box with frame := some f, ready := true, lastSeq := f.seq }
      (.accepted f t.box.frame)).Sound where
  honest := rfl
  empty_of_closed := by simp [openBox]
  closed_of_event pending member := by
    rcases List.mem_append.mp member with old | last
    · exact s.closed_of_event pending old
    · simp at last
  last := by simp [accepted]
  flow := by
    simp only [record_events, record_box, accepted_concat, given_concat, s.flow]
    rfl
  order := s.order_concat fun _ h => h
  returned := s.returned_concat (by simp)
  hopeful i since seen := s.hopeful_concat seen fun _ => .inl rfl
  empty_handed := s.empty_handed_concat (by simp)

theorem Sound.refuse (s : t.Sound) (f : Frame) : (t.record t.box (.refused f f)).Sound where
  honest := s.honest
  empty_of_closed := s.empty_of_closed
  closed_of_event pending member := by
    rcases List.mem_append.mp member with old | last
    · exact s.closed_of_event pending old
    · simp at last
  last := by simpa [accepted] using s.last
  flow := by
    simp only [record_events, record_box, accepted_concat, given_concat, s.flow]
    simp [accepted, Event.gives]
  order := s.order_concat (by simp [Event.gives])
  returned := s.returned_concat (by rintro _ _ ⟨⟩; rfl)
  hopeful i since seen := s.hopeful_concat seen .inl
  empty_handed := s.empty_handed_concat (by simp)

theorem Sound.close (s : t.Sound) :
    (t.record { t.box with frame := none, ready := false, closed := true }
      (.closed t.box.frame)).Sound where
  honest := rfl
  empty_of_closed _ := rfl
  closed_of_event _ _ := rfl
  last := by simpa [accepted] using s.last
  flow := by
    simp only [record_events, record_box, accepted_concat, given_concat, s.flow]
    simp [accepted, Event.gives]
  order := s.order_concat fun _ h => h
  returned := s.returned_concat (by simp)
  hopeful i since seen := s.hopeful_concat seen .inr
  empty_handed := s.empty_handed_concat (by simp)

theorem Sound.look (s : t.Sound) (i : Nat) (ready : t.box.ready = true) :
    (t.setEager i (some t.events.length)).Sound where
  honest := s.honest
  empty_of_closed := s.empty_of_closed
  closed_of_event := s.closed_of_event
  last := s.last
  flow := s.flow
  order := s.order
  returned := s.returned
  hopeful j since seen := by
    rw [setEager_eager] at seen
    split at seen
    next =>
      obtain rfl := Option.some.inj seen
      exact ⟨Nat.le_refl _, .inl (s.honest ▸ ready)⟩
    next => exact s.hopeful j since seen
  empty_handed := s.empty_handed

theorem Sound.open (s : t.Sound) (i since : Nat) (seen : t.eager i = some since) :
    ((t.setEager i none).record { t.box with frame := none, ready := false }
      (.opened i since t.box.frame)).Sound where
  honest := rfl
  empty_of_closed _ := rfl
  closed_of_event pending member := by
    rcases List.mem_append.mp member with old | last
    · exact s.closed_of_event pending old
    · simp at last
  last := by simpa [accepted] using s.last
  flow := by
    simp only [record_events, record_box, setEager_events, accepted_concat, given_concat, s.flow]
    simp [accepted, Event.gives]
  order := s.order_concat fun _ h => h
  returned := s.returned_concat (by simp)
  hopeful j since' seen' := by
    rw [record_eager, setEager_eager] at seen'
    split at seen'
    next => simp at seen'
    next other => exact s.hopeful_concat seen' fun there => .inr ⟨Ne.symm other, there⟩
  empty_handed := s.empty_handed_concat (by
    rintro _ _ same
    injection same with taker since empty
    exact ⟨taker ▸ since ▸ seen, empty⟩)

theorem Sound.step (s : t.Sound) {m : Move} (h : t.step m = some u) : u.Sound := by
  obtain ⟨f, -, openBox, rfl⟩ | ⟨f, -, -, rfl⟩ | ⟨-, rfl⟩ | ⟨i, -, -, rfl⟩ | ⟨i, -, ready, rfl⟩ |
    ⟨i, since, -, seen, rfl⟩ := step_cases h
  · exact s.accept f openBox
  · exact s.refuse f
  · exact s.close
  · exact s
  · exact s.look i ready
  · exact s.open i since seen

theorem Sound.run (s : t.Sound) {ms : List Move} (h : t.run ms = some u) : u.Sound := by
  induction ms generalizing t with
  | nil => exact Option.some.inj h ▸ s
  | cons m ms ih =>
    obtain ⟨v, first, rest⟩ := Option.bind_eq_some_iff.mp h
    exact ih (s.step first) rest

end Traffic

/--
Whatever its callers do and in whatever order they make their steps: the frames let in are those
that came out, in order, and after them the one that is stored. A frame comes out once all that
were let in before it have, to one taker, to one later caller that publishes or to one that closes.
-/
theorem delivery_of_run {ms : List Move} {t : Traffic} (ran : Traffic.run {} ms = some t) :
    (t.box.ready = true ↔ t.box.frame.isSome = true) ∧
    (∀ pending, Event.closed pending ∈ t.events →
      t.box.closed = true ∧ t.box.frame = none ∧ t.box.ready = false) ∧
    (accepted t.events = given t.events ++ t.box.frame.toList ∧
      (given t.events).Perm (taken t.events ++ displaced t.events ++ discarded t.events) ∧
      ∀ j (e : Event) f, t.events[j]? = some e → e.gives = some f →
        accepted (t.events.take j) = given (t.events.take j) ++ [f]) ∧
    ((∀ f g, Event.refused f g ∈ t.events → g = f) ∧
      ∀ f, t.box.closed = true → t.step (.publish f) = some (t.record t.box (.refused f f))) ∧
    t.box.lastSeq = ((accepted t.events).getLast?.map Frame.seq).getD noSeq ∧
    ∀ j i since, t.events[j]? = some (Event.opened i since none) →
      Forestalled t.events i since j := by
  have s : t.Sound := Traffic.sound_start.run ran
  refine ⟨?_, ?_, ⟨s.flow, given_perm _, s.order⟩, ⟨s.returned, ?_⟩, s.last, s.empty_handed⟩
  · rw [s.honest]
  · intro pending closing
    have closed := s.closed_of_event pending closing
    have empty := s.empty_of_closed closed
    exact ⟨closed, empty, by rw [s.honest, empty]; rfl⟩
  · intro f closed
    simp only [Traffic.step, publish_closed closed]

def twoTakers : List Move :=
  [.publish ⟨1, [7], true⟩, .look 0, .look 1, .swap 0, .publish ⟨2, [8], true⟩, .close, .swap 1,
    .publish ⟨3, [9], true⟩]

theorem delivery_of_twoTakers :
    ∃ t, Traffic.run {} twoTakers = some t ∧
      accepted t.events = [⟨1, [7], true⟩, ⟨2, [8], true⟩] ∧
      accepted t.events = given t.events ++ t.box.frame.toList ∧
      t.box.closed = true ∧ t.box.frame = none ∧ Forestalled t.events 1 1 4 := by
  refine ⟨_, rfl, rfl, ?_⟩
  obtain ⟨-, closing, ⟨flow, -⟩, -, -, empty⟩ := @delivery_of_run twoTakers _ rfl
  obtain ⟨closed, gone, -⟩ := closing (some ⟨2, [8], true⟩) (by decide)
  exact ⟨flow, closed, gone, empty 4 1 1 rfl⟩

end Framecast.Mailbox
