import Framecast.Proofs.Crowd.Steps
import Framecast.Proofs.Device.Steps

set_option autoImplicit false

namespace Framecast.Device

variable {ω : Type}

namespace Errand

inductive Makes (d : Device ω) : Errand → Frame → Prop where
  | drawn {g : Geometry} {p : Pattern} {period : Option Millis} {b : Bytes}
      (kind : d.kind = .frames g p period) (whole : (p.draw g d.nextSeq b).fault = none) :
      Makes d (.numbering b) ⟨d.nextSeq, (p.draw g d.nextSeq b).buffer, true⟩
  | labelled (data kept : Bytes) : Makes d (.labelling data kept) ⟨d.nextSeq, kept, false⟩

theorem frames_of_isOver {e : Errand} (ended : e.isOver = true) : e.frames = [] := by
  cases e <;> first | rfl | simp [isOver] at ended

theorem mem_frames_step {e : Errand} {d : Device ω} {f : Frame}
    (member : f ∈ (step (e, d)).1.frames ++ (step (e, d)).2.mailbox.frame.toList) :
    f ∈ e.frames ++ d.mailbox.frame.toList ∨ Makes d e f := by
  cases e with
  | firing =>
    obtain same | ⟨e, ended, same⟩ := step_firing_cases d <;> rw [same] at member
    · exact .inl member
    · rw [frames_of_isOver ended] at member
      exact .inl member
  | popping =>
    refine .inl ?_
    simp only [step] at member
    split at member
    next => exact member
    next b d' popped =>
      obtain ⟨p, q, -, -, rfl⟩ := popBuffer_eq_some popped
      exact member
  | numbering b =>
    obtain ⟨_, -, same⟩ | ⟨g, p, _, kind, ⟨-, same⟩ | ⟨whole, same⟩⟩ := step_numbering_cases b d
      <;> rw [same] at member
    · exact .inl member
    · exact .inl member
    · rcases List.mem_append.mp member with new | old
      · rw [List.mem_singleton.mp new]
        exact .inr (.drawn kind whole)
      · exact .inl (List.mem_append_right _ old)
  | offering memory data =>
    obtain ⟨_, -, -, same⟩ | ⟨e, ended, same⟩ := step_offering_cases memory data d <;> rw [same] at member
    · exact .inl member
    · rw [frames_of_isOver ended] at member
      exact .inl member
  | labelling data kept =>
    rcases List.mem_append.mp member with new | old
    · rw [List.mem_singleton.mp new]
      exact .inr (.labelled data kept)
    · exact .inl (List.mem_append_right _ old)
  | depositing f' =>
    cases closed : d.mailbox.closed with
    | true =>
      rw [step_depositing_closed closed] at member
      exact .inl member
    | false =>
      rw [step_depositing_open closed] at member
      simp only [frames, Option.toList_some, List.mem_append, List.mem_singleton] at member ⊢
      exact .inl member.symm
  | displacing old seq =>
    simp only [step, frames, mailbox_dropAny, List.nil_append] at member
    exact .inl (List.mem_append_right _ member)
  | dropping old =>
    simp only [step, frames, mailbox_dropAny, List.nil_append] at member
    exact .inl (List.mem_append_right _ member)
  | refused f' =>
    simp only [step, frames, mailbox_drop, List.nil_append] at member
    exact .inl (List.mem_append_right _ member)
  | releasing f' =>
    simp only [step, frames, mailbox_drop, List.nil_append] at member
    exact .inl (List.mem_append_right _ member)
  | closing =>
    refine .inl ?_
    simp only [step] at member
    split at member <;> exact member
  | shutting =>
    simp only [step, frames, shut, Mailbox.close, Option.toList_none, List.append_nil] at member
    exact .inl member
  | _ => exact .inl member

theorem kind_step (e : Errand) (d : Device ω) : (step (e, d)).2.kind = d.kind := by
  cases e with
  | firing =>
    obtain same | ⟨e, -, same⟩ := step_firing_cases d <;> rw [same]
  | popping =>
    simp only [step]
    split
    next => rfl
    next b d' popped => exact kind_popBuffer popped
  | numbering b =>
    obtain ⟨_, -, same⟩ | ⟨_, _, _, -, ⟨-, same⟩ | ⟨-, same⟩⟩ := step_numbering_cases b d <;>
      rw [same] <;> rfl
  | offering memory data =>
    obtain ⟨_, -, -, same⟩ | ⟨e, -, same⟩ := step_offering_cases memory data d <;> rw [same]
  | depositing f =>
    cases closed : d.mailbox.closed with
    | true => rw [step_depositing_closed closed]
    | false => rw [step_depositing_open closed]
  | displacing old seq => exact kind_dropAny d old
  | dropping old => exact kind_dropAny d old
  | refused f => exact kind_drop d f
  | releasing f => exact kind_drop d f
  | closing =>
    simp only [step]
    split <;> rfl
  | _ => rfl

def wanted : Errand → Option Bytes
  | .offering _ data | .labelling data _ => some data
  | _ => none

theorem wanted_of_isOver {e : Errand} (ended : e.isOver = true) : e.wanted = none := by
  cases e <;> first | rfl | simp [isOver] at ended

theorem wanted_step (e : Errand) (d : Device ω) :
    (∃ memory data capacity, e = .offering memory data ∧ d.kind = .simple capacity ∧
      data.take capacity.toNat ≠ [] ∧
      (step (e, d)).1 = .labelling data (data.take capacity.toNat)) ∨
    (step (e, d)).1.wanted = none := by
  cases e with
  | offering memory data =>
    obtain ⟨capacity, kind, some_left, same⟩ | ⟨e, ended, same⟩ := step_offering_cases memory data d
    · exact .inl ⟨memory, data, capacity, rfl, kind, some_left, by rw [same]⟩
    · exact .inr (by rw [same, wanted_of_isOver ended])
  | firing =>
    obtain same | ⟨e, ended, same⟩ := step_firing_cases d <;> rw [same]
    · exact .inr rfl
    · exact .inr (wanted_of_isOver ended)
  | popping =>
    simp only [step]
    split <;> exact .inr rfl
  | numbering b =>
    obtain ⟨_, -, same⟩ | ⟨_, _, _, -, ⟨-, same⟩ | ⟨-, same⟩⟩ := step_numbering_cases b d <;>
      rw [same] <;> exact .inr rfl
  | depositing f =>
    cases closed : d.mailbox.closed with
    | true => rw [step_depositing_closed closed]; exact .inr rfl
    | false => rw [step_depositing_open closed]; exact .inr rfl
  | closing =>
    simp only [step]
    split <;> exact .inr rfl
  | _ => exact .inr rfl

end Errand

namespace Reader

theorem advance_keeps (mode : Mode) (p : Phase) (r : Reader) (d : Device ω) :
    (advance mode (p, r, d)).2.2.kind = d.kind ∧
      (advance mode (p, r, d)).2.2.nextSeq = d.nextSeq ∧
      (advance mode (p, r, d)).2.2.closing = d.closing := by
  cases p with
  | observed e =>
    rw [device_advance_observed]
    exact ⟨rfl, rfl, rfl⟩
  | missed e | undeterred e | resigned e =>
    simp only [advance]
    split <;> exact ⟨rfl, rfl, rfl⟩
  | _ => exact ⟨rfl, rfl, rfl⟩

theorem expire_keeps (d : Device ω) :
    (expire d).2.kind = d.kind ∧ (expire d).2.nextSeq = d.nextSeq ∧
      (expire d).2.closing = d.closing := by
  rw [device_expire]
  exact ⟨rfl, rfl, rfl⟩

theorem mem_frames_collect {d : Device ω} {f : Frame}
    (member : f ∈ d.collect.1.toList ++ d.collect.2.mailbox.frame.toList) :
    f ∈ d.mailbox.frame.toList := by
  obtain ⟨-, same⟩ | ⟨-, same⟩ := collect_cases d <;> rw [same] at member
  · exact member
  · simpa using member

theorem mem_frames_advance {mode : Mode} {p : Phase} {r : Reader} {d : Device ω} {f : Frame}
    (member : f ∈ (advance mode (p, r, d)).1.frames ++
      (advance mode (p, r, d)).2.2.mailbox.frame.toList) :
    f ∈ p.frames ++ d.mailbox.frame.toList := by
  cases p with
  | observed e =>
    refine List.mem_append_right _ (mem_frames_collect ?_)
    simp only [advance] at member
    split at member <;> simp_all [Phase.frames]
  | missed e | undeterred e | resigned e =>
    simp only [advance] at member
    split at member <;> exact member
  | _ => exact member

theorem mem_frames_expire {d : Device ω} {f : Frame}
    (member : f ∈ (Phase.done (expire d).1).frames ++ (expire d).2.mailbox.frame.toList) :
    f ∈ d.mailbox.frame.toList := by
  refine mem_frames_collect ?_
  simp only [expire] at member
  split at member <;> simp_all [Phase.frames]

end Reader

namespace Crowd

variable {c d : Crowd ω} {f : Frame}

def frames (c : Crowd ω) : List Frame :=
  c.device.mailbox.frame.toList ++ c.errands.flatMap Errand.frames ++
    c.visits.flatMap (fun v => v.phase.frames) ++ c.held

theorem mem_frames :
    f ∈ c.frames ↔
      f ∈ c.device.mailbox.frame.toList ∨ (∃ e ∈ c.errands, f ∈ e.frames) ∨
        (∃ v ∈ c.visits, f ∈ v.phase.frames) ∨ f ∈ c.held := by
  simp only [frames, List.mem_append, List.mem_flatMap, or_assoc]

def Makes (c : Crowd ω) (m : Move ω) (f : Frame) : Prop :=
  ∃ i e, m = .errand i ∧ c.errands[i]? = some e ∧ e.Makes c.device f

theorem frames_roused (v : Visit) : v.roused.phase.frames = v.phase.frames := by
  cases phase : v.phase <;> simp [Visit.roused, Reader.Phase.roused, Reader.Phase.frames, phase]

theorem frames_rouse (c : Crowd ω) : c.rouse.frames = c.frames := by
  simp only [frames, rouse, List.flatMap_map, frames_roused]

theorem frames_orderErrand (o : Order) : o.errand.frames = [] := by
  cases o <;> rfl

theorem mem_frames_perform {i : Nat} {e : Errand} (at_i : c.errands[i]? = some e)
    (member : f ∈ (c.perform i e).frames) : f ∈ c.frames ∨ c.Makes (.errand i) f := by
  have performed :
      f ∈ { c with
        errands := c.errands.set i (Errand.step (e, c.device)).1
        device := (Errand.step (e, c.device)).2 }.frames := by
    cases loud : e.notifies with
    | true =>
      rw [perform_of_notifies loud, frames_rouse] at member
      exact member
    | false =>
      rw [perform_of_quiet loud] at member
      exact member
  -- only the call itself and the mailbox can have got a frame
  have own : f ∈ (Errand.step (e, c.device)).1.frames ++
      (Errand.step (e, c.device)).2.mailbox.frame.toList →
        f ∈ c.frames ∨ c.Makes (.errand i) f := by
    intro mine
    rcases Errand.mem_frames_step mine with old | new
    · refine .inl (mem_frames.mpr ?_)
      rcases List.mem_append.mp old with call | box
      · exact .inr (.inl ⟨e, List.mem_of_getElem? at_i, call⟩)
      · exact .inl box
    · exact .inr ⟨i, e, rfl, at_i, new⟩
  rcases mem_frames.mp performed with box | ⟨e', call, inside⟩ | visit | held
  · exact own (List.mem_append_right _ box)
  · rcases List.mem_or_eq_of_mem_set call with other | rfl
    · exact .inl (mem_frames.mpr (.inr (.inl ⟨e', other, inside⟩)))
    · exact own (List.mem_append_left _ inside)
  · exact .inl (mem_frames.mpr (.inr (.inr (.inl visit))))
  · exact .inl (mem_frames.mpr (.inr (.inr (.inr held))))

theorem mem_frames_setPhase {i : Nat} {v : Visit} {p : Reader.Phase} {device : Device ω}
    {readers : List Reader} (at_i : c.visits[i]? = some v)
    (own : ∀ f ∈ p.frames ++ device.mailbox.frame.toList,
      f ∈ v.phase.frames ++ c.device.mailbox.frame.toList)
    (member : f ∈ { c.setPhase i v p with device := device, readers := readers }.frames) :
    f ∈ c.frames := by
  have mine : f ∈ p.frames ++ device.mailbox.frame.toList → f ∈ c.frames := by
    intro mine
    refine mem_frames.mpr ?_
    rcases List.mem_append.mp (own f mine) with visit | box
    · exact .inr (.inr (.inl ⟨v, List.mem_of_getElem? at_i, visit⟩))
    · exact .inl box
  rcases mem_frames.mp member with box | call | ⟨v', visit, inside⟩ | held
  · exact mine (List.mem_append_right _ box)
  · exact mem_frames.mpr (.inr (.inl call))
  · rcases List.mem_or_eq_of_mem_set visit with other | rfl
    · exact mem_frames.mpr (.inr (.inr (.inl ⟨v', other, inside⟩)))
    · exact mine (List.mem_append_left _ inside)
  · exact mem_frames.mpr (.inr (.inr (.inr held)))

theorem mem_frames_leave {i : Nat} (h : c.leave i = some d) (member : f ∈ d.frames) :
    f ∈ c.frames := by
  obtain ⟨v, at_i, left⟩ := leave_eq_some h
  have visited : v ∈ c.visits := List.mem_of_getElem? at_i
  have erased : (∃ v ∈ c.visits.eraseIdx i, f ∈ v.phase.frames) → f ∈ c.frames := by
    rintro ⟨v', visit, inside⟩
    exact mem_frames.mpr (.inr (.inr (.inl ⟨v', List.mem_of_mem_eraseIdx visit, inside⟩)))
  rcases left with ⟨f', got, ⟨-, rfl⟩ | ⟨buffer, -, rfl⟩⟩ | ⟨r, -, -, rfl⟩
  · have taken : f' ∈ c.frames :=
      mem_frames.mpr (.inr (.inr (.inl ⟨v, visited, by simp [got, Reader.Phase.frames]⟩)))
    rcases mem_frames.mp member with box | call | visit | held
    · exact mem_frames.mpr (.inl box)
    · exact mem_frames.mpr (.inr (.inl call))
    · exact erased visit
    · rcases List.mem_append.mp held with old | new
      · exact mem_frames.mpr (.inr (.inr (.inr old)))
      · exact List.mem_singleton.mp new ▸ taken
  · have taken : f' ∈ c.frames :=
      mem_frames.mpr (.inr (.inr (.inl ⟨v, visited, by simp [got, Reader.Phase.frames]⟩)))
    rcases mem_frames.mp member with box | ⟨e, call, inside⟩ | visit | held
    · exact mem_frames.mpr (.inl box)
    · rcases List.mem_append.mp call with old | new
      · exact mem_frames.mpr (.inr (.inl ⟨e, old, inside⟩))
      · rw [List.mem_singleton.mp new] at inside
        exact List.mem_singleton.mp inside ▸ taken
    · exact erased visit
    · exact mem_frames.mpr (.inr (.inr (.inr held)))
  · rcases mem_frames.mp member with box | call | visit | held
    · exact mem_frames.mpr (.inl box)
    · exact mem_frames.mpr (.inr (.inl call))
    · exact erased visit
    · exact mem_frames.mpr (.inr (.inr (.inr held)))

theorem mem_frames_addErrand {e : Errand} (idle : e.frames = [])
    (member : f ∈ (c.addErrand e).frames) : f ∈ c.frames := by
  rw [frames, addErrand, List.flatMap_append, List.flatMap_singleton, idle, List.append_nil]
    at member
  exact member

theorem frames_start_visit (r : Nat) (mode : Mode) (buffer : Option Bytes) :
    (Visit.start r mode buffer).phase.frames = [] := by
  simp only [Visit.start]
  split <;> rfl

theorem mem_frames_step {m : Move ω} (h : c.step m = some d) (member : f ∈ d.frames) :
    f ∈ c.frames ∨ c.Makes m f := by
  cases m with
  | errand i =>
    obtain ⟨e, at_i, -, rfl⟩ := stepErrand_eq_some h
    exact mem_frames_perform at_i member
  | order o =>
    refine .inl ?_
    obtain rfl | ⟨r, readers, -, rfl⟩ := undertake_eq_some h
    · exact mem_frames_addErrand (frames_orderErrand o) member
    · exact mem_frames_addErrand rfl member
  | visit r mode buffer =>
    obtain rfl := visit_eq_some h
    rw [frames, List.flatMap_append, List.flatMap_singleton, frames_start_visit,
      List.append_nil] at member
    exact .inl member
  | advance i =>
    obtain ⟨v, at_i, rfl⟩ := stepVisit_eq_some h
    exact .inl (mem_frames_setPhase at_i (fun f => Reader.mem_frames_advance) member)
  | signal i =>
    obtain ⟨v, _, at_i, -, rfl⟩ := signal_eq_some h
    exact .inl (mem_frames_setPhase at_i (fun f => List.mem_append_right _) member)
  | expire i =>
    obtain ⟨v, _, at_i, -, rfl⟩ := expire_eq_some h
    exact .inl (mem_frames_setPhase at_i
      (fun f mine => List.mem_append_right _ (Reader.mem_frames_expire mine)) member)
  | leave i => exact .inl (mem_frames_leave h member)
  | drop k =>
    obtain ⟨f', at_k, -, rfl⟩ := drop_eq_some h
    refine .inl (mem_frames.mpr ?_)
    rcases mem_frames.mp member with box | call | visit | held
    · exact .inl (by simpa using box)
    · exact .inr (.inl call)
    · exact .inr (.inr (.inl visit))
    · exact .inr (.inr (.inr (List.mem_of_mem_eraseIdx held)))
  | detach k =>
    obtain ⟨f', at_k, rfl⟩ := detach_eq_some h
    refine .inl (mem_frames.mpr ?_)
    rcases mem_frames.mp member with box | call | visit | held
    · exact .inl box
    · exact .inr (.inl call)
    · exact .inr (.inr (.inl visit))
    · exact .inr (.inr (.inr (List.mem_of_mem_eraseIdx held)))
  | reset r =>
    obtain rfl := Option.some.inj h
    exact .inl member
  | register x =>
    obtain rfl := Option.some.inj h
    exact .inl member
  | deregister id =>
    obtain rfl := Option.some.inj h
    exact .inl member

theorem still_step {m : Move ω} (h : c.step m = some d) :
    (∃ i e, m = .errand i ∧ c.errands[i]? = some e ∧ d = c.perform i e) ∨
      (d.numbered = c.numbered ∧ d.device.kind = c.device.kind ∧
        d.device.nextSeq = c.device.nextSeq ∧ d.device.closing = c.device.closing) := by
  cases m with
  | errand i =>
    obtain ⟨e, at_i, -, rfl⟩ := stepErrand_eq_some h
    exact .inl ⟨i, e, rfl, at_i, rfl⟩
  | order o =>
    obtain rfl | ⟨r, readers, -, rfl⟩ := undertake_eq_some h <;> exact .inr ⟨rfl, rfl, rfl, rfl⟩
  | visit r mode buffer =>
    obtain rfl := visit_eq_some h
    exact .inr ⟨rfl, rfl, rfl, rfl⟩
  | advance i =>
    obtain ⟨v, -, rfl⟩ := stepVisit_eq_some h
    exact .inr ⟨rfl, Reader.advance_keeps _ _ _ _⟩
  | signal i =>
    obtain ⟨v, _, -, -, rfl⟩ := signal_eq_some h
    exact .inr ⟨rfl, rfl, rfl, rfl⟩
  | expire i =>
    obtain ⟨v, _, -, -, rfl⟩ := expire_eq_some h
    exact .inr ⟨rfl, Reader.expire_keeps _⟩
  | leave i =>
    obtain ⟨v, -, ⟨f, -, ⟨-, rfl⟩ | ⟨buffer, -, rfl⟩⟩ | ⟨r, -, -, rfl⟩⟩ := leave_eq_some h <;>
      exact .inr ⟨rfl, rfl, rfl, rfl⟩
  | drop k =>
    obtain ⟨f, -, -, rfl⟩ := drop_eq_some h
    obtain ⟨pool, same⟩ := drop_eq c.device f
    rw [same]
    exact .inr ⟨rfl, rfl, rfl, rfl⟩
  | detach k =>
    obtain ⟨f, -, rfl⟩ := detach_eq_some h
    exact .inr ⟨rfl, rfl, rfl, rfl⟩
  | _ =>
    obtain rfl := Option.some.inj h
    exact .inr ⟨rfl, rfl, rfl, rfl⟩

theorem kind_step {m : Move ω} (h : c.step m = some d) : d.device.kind = c.device.kind := by
  obtain ⟨i, e, -, -, rfl⟩ | ⟨-, same, -⟩ := still_step h
  · rw [device_perform, Errand.kind_step]
  · exact same

theorem wanted_step {m : Move ω} (h : c.step m = some d) {e : Errand} {data : Bytes}
    (member : e ∈ d.errands) (wanted : e.wanted = some data) :
    e ∈ c.errands ∨ (∃ memory, m = .order (.write memory data) ∧ e = .offering memory data) ∨
      ∃ memory capacity, .offering memory data ∈ c.errands ∧ c.device.kind = .simple capacity ∧
        e = .labelling data (data.take capacity.toNat) ∧ data.take capacity.toNat ≠ [] := by
  obtain old | ⟨o, rfl, rfl⟩ | ⟨f, rfl⟩ | ⟨e', call, rfl⟩ := mem_errands_step h member
  · exact .inl old
  · cases o with
    | write memory data' =>
      obtain rfl := Option.some.inj wanted
      exact .inr (.inl ⟨memory, rfl, rfl⟩)
    | _ => simp [Order.errand, Errand.wanted] at wanted
  · simp [Errand.wanted] at wanted
  · obtain ⟨memory, data', capacity, rfl, kind, some_left, labelling⟩ | none :=
      Errand.wanted_step e' c.device
    · rw [labelling] at wanted ⊢
      obtain rfl := Option.some.inj wanted
      exact .inr (.inr ⟨memory, capacity, call, kind, rfl, some_left⟩)
    · simp [none] at wanted

end Crowd

end Framecast.Device
