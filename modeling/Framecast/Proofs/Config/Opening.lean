import Framecast.Config.Basic
import Framecast.Device.Launch

set_option autoImplicit false

namespace Framecast

/-- The first problem that the fields of the configuration have, the others being in order. -/
def DeviceConfig.FirstProblem (c : DeviceConfig) : Device.Unfit → Prop
  | .emptyFrame =>
    (c.variant = .simpleBuffer ∧ c.capacity = 0) ∨
      (c.variant = .frameProducing ∧ c.geometry.frameSize = 0)
  | .zeroPeriod =>
    c.variant = .frameProducing ∧ c.geometry.frameSize ≠ 0 ∧ c.period.count = 0
  | .fewBuffers =>
    c.variant = .frameProducing ∧ c.geometry.frameSize ≠ 0 ∧ c.period.count ≠ 0 ∧ c.buffers < 2

namespace Config

def Invalid.unfit? : Invalid → Option Device.Unfit
  | .emptyFrame | .zeroCapacity => some .emptyFrame
  | .zeroPeriod => some .zeroPeriod
  | .fewBuffers => some .fewBuffers
  | .zeroPollInterval => none

/-- Validation stumbles over a field of the device. -/
def Stumbles (c : Config) (cause : Device.Unfit) : Prop :=
  ∃ e, c.validate = .error e ∧ e.unfit? = some cause

theorem stumbles_iff_firstProblem (c : Config) (cause : Device.Unfit) :
    c.Stumbles cause ↔ c.device.FirstProblem cause := by
  have device : c.Stumbles cause ↔
      ∃ e, validateDevice c.device = .error e ∧ e.unfit? = some cause := by
    simp only [Stumbles, validate]
    cases validateDevice c.device with
    | error e => rfl
    | ok u =>
      by_cases still : c.relay.pollInterval.count = 0 <;> simp [still, Invalid.unfit?]
  rw [device, validateDevice]
  cases variant : c.device.variant with
  | simpleBuffer =>
    by_cases empty : c.device.capacity = 0 <;>
      cases cause <;> simp [DeviceConfig.FirstProblem, Invalid.unfit?, variant, empty]
  | frameProducing =>
    by_cases empty : c.device.geometry.frameSize = 0
    · cases cause <;> simp [DeviceConfig.FirstProblem, Invalid.unfit?, variant, empty]
    by_cases still : c.device.period.count = 0
    · cases cause <;> simp [DeviceConfig.FirstProblem, Invalid.unfit?, variant, empty, still]
    by_cases few : c.device.buffers < 2 <;>
      cases cause <;> simp [DeviceConfig.FirstProblem, Invalid.unfit?, variant, empty, still, few]

theorem unfit?_eq_some_iff (c : DeviceConfig) (cause : Device.Unfit) :
    Device.unfit? c.kind c.buffers = some cause ↔ c.FirstProblem cause := by
  cases variant : c.variant with
  | simpleBuffer =>
    have kind : c.kind = .simple c.capacity := by simp [DeviceConfig.kind, variant]
    have size : c.capacity.toNat = 0 ↔ c.capacity = 0 := by
      rw [← UInt64.toNat_inj]
      rfl
    simp only [kind, Device.unfit?, Device.Kind.frameSize, size]
    by_cases empty : c.capacity = 0 <;>
      cases cause <;> simp [DeviceConfig.FirstProblem, variant, empty]
  | frameProducing =>
    have kind : c.kind = .frames c.geometry c.pattern (some c.period) := by
      simp [DeviceConfig.kind, variant]
    rw [kind, Device.unfit?, Device.Kind.frameSize]
    by_cases empty : c.geometry.frameSize = 0
    · cases cause <;> simp [DeviceConfig.FirstProblem, variant, empty]
    by_cases still : c.period.count = 0
    · cases cause <;> simp [DeviceConfig.FirstProblem, variant, empty, still]
    by_cases few : c.buffers < 2 <;>
      cases cause <;> simp [DeviceConfig.FirstProblem, variant, empty, still, few]

end Config

namespace Pool

theorem fault_of_reserve {limit bytes : Nat} {fault : Fault}
    (failed : reserve limit bytes = .error fault) : fault = .exhausted := by
  simp only [reserve] at failed
  split at failed
  next => simp at failed
  next => exact (Except.error.inj failed).symm

theorem fault_of_fill {limit n : Nat} {p : Pool} {fault : Fault}
    (failed : fill limit n p = .error fault) : fault = .exhausted := by
  induction n generalizing p with
  | zero => simp [fill] at failed
  | succ n ih =>
    cases reserved : reserve limit p.bufLen with
    | error e =>
      rw [fill, reserved] at failed
      exact Except.error.inj failed ▸ fault_of_reserve reserved
    | ok u =>
      rw [fill, reserved] at failed
      exact ih failed

theorem fault_of_withBuffers {limit capacity bufLen n : Nat} {fault : Fault}
    (some_cells : capacity ≠ 0) (room : n ≤ capacity)
    (failed : withBuffers limit capacity bufLen n = .error fault) : fault = .exhausted := by
  rw [withBuffers, if_neg some_cells, if_neg (Nat.not_lt.mpr room)] at failed
  cases reserved : reserve limit (capacity * cellSize) with
  | error e =>
    rw [reserved] at failed
    exact Except.error.inj failed ▸ fault_of_reserve reserved
  | ok u =>
    rw [reserved] at failed
    exact fault_of_fill failed

end Pool

namespace Device

variable {ω : Type}

theorem le_double (buffers : UInt64) : buffers.toNat ≤ Size.mul buffers.toNat 2 := by
  have word : buffers.toNat < UInt64.size := buffers.toNat_lt_size
  simp only [Size.mul, Size.limit]
  omega

theorem fault_of_poolFor {memory : Nat} {kind : Kind} {buffers : UInt64} {fault : Pool.Fault}
    (fit : unfit? kind buffers = none) (failed : poolFor memory kind buffers = .error fault) :
    fault = .exhausted := by
  cases kind with
  | simple capacity => simp [poolFor] at failed
  | frames g p period =>
    have enough := two_le_of_fit fit
    have room := le_double buffers
    rw [poolFor] at failed
    cases made : Pool.withBuffers memory (Size.mul buffers.toNat 2)
        (Kind.frames g p period).frameSize buffers.toNat with
    | ok q =>
      rw [made] at failed
      cases failed
    | error e =>
      rw [made] at failed
      obtain rfl := Except.error.inj failed
      exact Pool.fault_of_withBuffers (by omega) room made

theorem openWith_of_unfit {memory : Nat} {kind : Kind} {buffers : UInt64} {cause : Unfit}
    (unfit : unfit? kind buffers = some cause) :
    openWith memory kind buffers = (.error (.unfit cause) : Except Error (Device ω)) := by
  simp only [openWith, unfit]

theorem openWith_of_fit (ω : Type) (memory : Nat) {kind : Kind} {buffers : UInt64}
    (fit : unfit? kind buffers = none) :
    (∃ d : Device ω, openWith memory kind buffers = .ok d) ∨
      (openWith memory kind buffers : Except Error (Device ω)) =
        .error (.exhausted (Size.mul kind.frameSize buffers.toNat)) := by
  simp only [openWith, fit]
  cases poolFor memory kind buffers with
  | error e => exact .inr rfl
  | ok pool => exact .inl ⟨_, rfl⟩

theorem launch_eq_error {memory : Nat} {thread : Except String Unit} {kind : Kind}
    {buffers : UInt64} {e : LaunchError}
    (failed : (launch memory thread kind buffers : Except LaunchError (Device ω)) = .error e) :
    (∃ cause, unfit? kind buffers = some cause ∧ e = .device (.unfit cause)) ∨
      (unfit? kind buffers = none ∧
        (e = .device (.exhausted (Size.mul kind.frameSize buffers.toNat)) ∨
          ∃ cause, kind.period?.isSome = true ∧ thread = .error cause ∧ e = .spawn cause)) := by
  cases unfit : unfit? kind buffers with
  | some cause =>
    rw [launch, openWith_of_unfit unfit] at failed
    exact .inl ⟨cause, rfl, (Except.error.inj failed).symm⟩
  | none =>
    refine .inr ⟨rfl, ?_⟩
    obtain ⟨d, opened⟩ | exhausted := openWith_of_fit ω memory unfit
    · refine .inr ?_
      rw [launch, opened] at failed
      cases period : kind.period? <;> cases thread <;> simp_all
    · rw [launch, exhausted] at failed
      exact .inl (Except.error.inj failed).symm

theorem launch_of_unfit {memory : Nat} {thread : Except String Unit} {kind : Kind}
    {buffers : UInt64} {cause : Unfit} :
    (launch memory thread kind buffers : Except LaunchError (Device ω)) =
        .error (.device (.unfit cause)) ↔
      unfit? kind buffers = some cause := by
  constructor
  · intro failed
    obtain ⟨cause', unfit, same⟩ | ⟨-, same | ⟨_, -, -, same⟩⟩ := launch_eq_error failed
    · simp_all
    · simp at same
    · simp at same
  · intro unfit
    rw [launch, openWith_of_unfit unfit]

end Device

namespace Config

theorem fit_of_valid {c : Config} (valid : c.validate = .ok ()) :
    Device.unfit? c.device.kind c.device.buffers = none := by
  refine Option.eq_none_iff_forall_ne_some.mpr fun cause unfit => ?_
  have stumbles := (stumbles_iff_firstProblem c cause).mpr ((unfit?_eq_some_iff _ _).mp unfit)
  obtain ⟨e, invalid, -⟩ := stumbles
  simp [valid] at invalid

/--
A launch finds the kind and the number of buffers unfit if and only if validation stumbles over a
field of the device, and for the same reason: the first problem in their common order. So what is
valid can only lack memory or a thread, and no pool is ever asked for without cells or with more
buffers than cells.
-/
theorem launch_unfit_iff_stumbles {ω : Type} (memory : Nat) (thread : Except String Unit)
    (c : Config) :
    (∀ cause, (Device.launch memory thread c.device.kind c.device.buffers :
        Except Device.LaunchError (Device ω)) = .error (.device (.unfit cause)) ↔
      c.Stumbles cause) ∧
    (∀ cause, c.Stumbles cause ↔ c.device.FirstProblem cause) ∧
    (c.validate = .ok () →
      ∀ e, (Device.launch memory thread c.device.kind c.device.buffers :
          Except Device.LaunchError (Device ω)) = .error e →
        e = .device
            (.exhausted (Size.mul c.device.kind.frameSize c.device.buffers.toNat)) ∨
          ∃ cause, thread = .error cause ∧ e = .spawn cause) ∧
    ∀ kind buffers fault, Device.unfit? kind buffers = none →
      Device.poolFor memory kind buffers = .error fault → fault = .exhausted := by
  refine ⟨fun cause => ?_, stumbles_iff_firstProblem c, fun valid e failed => ?_, ?_⟩
  · rw [Device.launch_of_unfit, unfit?_eq_some_iff, stumbles_iff_firstProblem]
  · have fit := fit_of_valid valid
    obtain ⟨cause, unfit, -⟩ | ⟨-, exhausted | ⟨cause, -, refused, same⟩⟩ :=
      Device.launch_eq_error failed
    · simp [fit] at unfit
    · exact .inl exhausted
    · exact .inr ⟨cause, refused, same⟩
  · exact fun kind buffers fault fit failed => Device.fault_of_poolFor fit failed

-- neither the frame size nor twice the number of buffers fits a word
def saturated : Config :=
  { device := { geometry := ⟨0xFFFFFFFF, 0xFFFFFFFF, 0xFFFFFFFF⟩, buffers := 0xFFFFFFFFFFFFFFFF } }

theorem launch_unfit_iff_stumbles_saturated :
    saturated.validate = .ok () ∧ saturated.device.geometry.frameSize = Size.limit ∧
      (Device.launch 1024 (.ok ()) saturated.device.kind saturated.device.buffers :
        Except Device.LaunchError (Device Unit)) = .error (.device (.exhausted Size.limit)) ∧
      ¬saturated.device.FirstProblem .fewBuffers ∧
      ∀ fault, Device.poolFor 1024 saturated.device.kind saturated.device.buffers = .error fault →
        fault = .exhausted := by
  have agree := @launch_unfit_iff_stumbles Unit 1024 (.ok ()) saturated
  have valid : saturated.validate = .ok () := rfl
  have failed : (Device.launch 1024 (.ok ()) saturated.device.kind saturated.device.buffers :
      Except Device.LaunchError (Device Unit)) = .error (.device (.exhausted Size.limit)) := rfl
  obtain ⟨unfit, order, exhausted, pool⟩ := agree
  refine ⟨valid, by decide, ?_, ?_, ?_⟩
  · obtain same | ⟨_, granted, -⟩ := exhausted valid _ failed
    · rw [failed, same]
    · cases granted
  · rw [← order, ← unfit, failed]
    simp
  · exact fun fault => pool _ _ fault (by decide)

end Config

end Framecast
