import Framecast.Proofs.Endpoint.Reading
import Mathlib

set_option autoImplicit false

namespace Framecast

def IPv4.dots (ip : IPv4) : List Char :=
  ['.'].intercalate ([ip.a, ip.b, ip.c, ip.d].map fun o => Nat.toDigits 10 o.toNat)

namespace IPv6

def colons (gs : List UInt16) : List Char :=
  [':'].intercalate (gs.map fun g => Nat.toDigits 16 g.toNat)

/-- The first among the longest runs of zero groups. -/
structure FirstLongest (gs : List UInt16) (start length : Nat) : Prop
    extends ZeroRun gs start length where
  longest : ∀ s l, ZeroRun gs s l → l ≤ length
  first : ∀ s, ZeroRun gs s length → start ≤ s

def holding (ip : IPv4) : List UInt16 := [0, 0, 0, 0, 0, 0xffff] ++ ip.toGroups

inductive NormalForm : List UInt16 → List Char → Prop where
  | dotted (ip : IPv4) :
    NormalForm (holding ip) ([':', ':', 'f', 'f', 'f', 'f', ':'] ++ ip.dots)
  | gap {gs : List UInt16} {start length : Nat} (own : ∀ ip, gs ≠ holding ip)
    (run : FirstLongest gs start length) (two : 2 ≤ length) :
    NormalForm gs (colons (gs.take start) ++ [':', ':'] ++ colons (gs.drop (start + length)))
  | full {gs : List UInt16} (own : ∀ ip, gs ≠ holding ip)
    (short : ∀ s l, ZeroRun gs s l → l < 2) : NormalForm gs (colons gs)

end IPv6

namespace Endpoint

inductive NormalForm : Endpoint → List Char → Prop where
  | v4 (ip : IPv4) (port : UInt16) :
    NormalForm (.v4 ip port) (ip.dots ++ ':' :: Nat.toDigits 10 port.toNat)
  | v6 {ip : IPv6} {cs : List Char} (address : IPv6.NormalForm ip.groups cs) (port : UInt16) :
    NormalForm (.v6 ip port 0) ('[' :: cs ++ ']' :: ':' :: Nat.toDigits 10 port.toNat)
  | v6Scoped {ip : IPv6} {cs : List Char} {scope : UInt32} (address : IPv6.NormalForm ip.groups cs)
    (port : UInt16) (present : scope ≠ 0) :
    NormalForm (.v6 ip port scope)
      ('[' :: cs ++ '%' :: Nat.toDigits 10 scope.toNat ++
        ']' :: ':' :: Nat.toDigits 10 port.toNat)

end Endpoint

namespace IPv6

variable {g : UInt16} {gs : List UInt16} {start length s l : Nat}

theorem ZeroRun.le_leadingZeros (run : ZeroRun gs 0 l) : l ≤ leadingZeros gs := by
  induction gs generalizing l with
  | nil => exact Nat.le_trans (Nat.le_add_left l 0) run.within
  | cons g gs ih =>
    cases l with
    | zero => exact Nat.zero_le _
    | succ l =>
      obtain ⟨rfl, rest⟩ := zeroRun_zero_succ.mp run
      exact (leadingZeros_zero gs).symm ▸ Nat.succ_le_succ (ih rest)

theorem longestZeros_dominates (gs : List UInt16) :
    (∀ s l, ZeroRun gs s l → l ≤ (longestZeros gs).2) ∧
      ∀ s, ZeroRun gs s (longestZeros gs).2 → (longestZeros gs).1 ≤ s := by
  induction gs with
  | nil =>
    refine ⟨fun s l run => ?_, fun s run => Nat.zero_le s⟩
    exact Nat.le_trans (Nat.le_add_left l s) run.within
  | cons g gs ih =>
    obtain ⟨longest, first⟩ := ih
    simp only [longestZeros]
    split
    next least =>
      -- the run in front is taken even if one further back is as long
      refine ⟨fun s l run => ?_, fun s run => Nat.zero_le s⟩
      cases s with
      | zero => exact run.le_leadingZeros
      | succ s => exact Nat.le_trans (longest s l (zeroRun_cons.mp run)) least
    next more =>
      refine ⟨fun s l run => ?_, fun s run => ?_⟩
      · cases s with
        | zero => exact Nat.le_trans run.le_leadingZeros (Nat.le_of_not_le more)
        | succ s => exact longest s l (zeroRun_cons.mp run)
      · cases s with
        | zero => exact absurd run.le_leadingZeros more
        | succ s => exact Nat.succ_le_succ (first s (zeroRun_cons.mp run))

theorem firstLongest_longestZeros (gs : List UInt16) :
    FirstLongest gs (longestZeros gs).1 (longestZeros gs).2 :=
  { zeroRun_longestZeros gs with
    longest := (longestZeros_dominates gs).1
    first := (longestZeros_dominates gs).2 }

theorem FirstLongest.unique (one : FirstLongest gs start length) (other : FirstLongest gs s l) :
    start = s ∧ length = l := by
  obtain rfl : length = l := Nat.le_antisymm (other.longest _ _ one.toZeroRun)
    (one.longest _ _ other.toZeroRun)
  exact ⟨Nat.le_antisymm (one.first _ other.toZeroRun) (other.first _ one.toZeroRun), rfl⟩

theorem colons_eq (gs : List UInt16) : colons gs = writeGroups gs := by
  simp only [colons, writeGroups, Numeral.write_eq_toDigits (by decide : 2 ≤ 16) (by decide)]

theorem dots_eq (ip : IPv4) : ip.dots = ip.write := by
  simp only [IPv4.dots, IPv4.write, Numeral.write_eq_toDigits (by decide : 2 ≤ 10) (by decide)]

theorem ofGroups_toGroups (ip : IPv4) {high low : UInt16} (groups : ip.toGroups = [high, low]) :
    IPv4.ofGroups high low = ip := by
  have upper (a b : UInt8) : ((a.toUInt16 * 256 + b.toUInt16) / 256).toUInt8 = a := by
    have high := a.toNat_lt
    have low := b.toNat_lt
    apply UInt8.toNat_inj.mp
    simp
    omega
  have lower (a b : UInt8) : (a.toUInt16 * 256 + b.toUInt16).toUInt8 = b := by
    apply UInt8.toNat_inj.mp
    simp
  simp only [IPv4.toGroups, List.cons.injEq, and_true] at groups
  obtain ⟨rfl, rfl⟩ := groups
  simp [IPv4.ofGroups, upper, lower]

theorem write_holding {ip : IPv6} {short : IPv4} (holds : ip.groups = holding short) :
    ip.write = [':', ':', 'f', 'f', 'f', 'f', ':'] ++ short.write := by
  rw [write]
  split
  next high low groups =>
    have own : short.toGroups = [high, low] := List.append_cancel_left (holds.symm.trans groups)
    rw [ofGroups_toGroups short own]
  next other => exact absurd holds (other _ _)

theorem write_own {ip : IPv6} (own : ∀ short, ip.groups ≠ holding short) :
    ip.write = writeCompressed ip.groups := by
  rw [write]
  split
  next high low groups =>
    refine absurd groups ?_
    rw [← Endpoint.toGroups_ofGroups]
    exact own (IPv4.ofGroups high low)
  next => rfl

theorem normalForm_write (ip : IPv6) : NormalForm ip.groups ip.write := by
  by_cases held : ∃ short, ip.groups = holding short
  next =>
    obtain ⟨short, holds⟩ := held
    rw [write_holding holds, holds, ← dots_eq]
    exact .dotted short
  next =>
    have own : ∀ short, ip.groups ≠ holding short := fun short holds => held ⟨short, holds⟩
    have run := firstLongest_longestZeros ip.groups
    rw [write_own own]
    by_cases two : 1 < (longestZeros ip.groups).2
    next =>
      rw [writeCompressed_of_lt two, ← colons_eq, ← colons_eq]
      exact .gap own run two
    next =>
      rw [writeCompressed_of_not_lt two, ← colons_eq]
      exact .full own fun s l other => Nat.lt_of_le_of_lt (run.longest s l other)
        (Nat.lt_succ_of_le (Nat.not_lt.mp two))

theorem NormalForm.eq_write {ip : IPv6} {gs : List UInt16} {cs : List Char}
    (normal : NormalForm gs cs) (groups : gs = ip.groups) : cs = ip.write := by
  have longest := firstLongest_longestZeros ip.groups
  cases normal with
  | dotted short => rw [write_holding groups.symm, dots_eq]
  | gap own run two =>
    subst groups
    obtain ⟨rfl, rfl⟩ := run.unique longest
    rw [write_own own, writeCompressed_of_lt two, colons_eq, colons_eq]
  | full own short =>
    subst groups
    have few : ¬ 1 < (longestZeros ip.groups).2 := fun two =>
      Nat.not_lt.mpr two (short _ _ longest.toZeroRun)
    rw [write_own own, writeCompressed_of_not_lt few, colons_eq]

end IPv6

namespace Endpoint

theorem writePort_eq (port : UInt16) : writePort port = ':' :: Nat.toDigits 10 port.toNat := by
  rw [writePort, Numeral.write_eq_toDigits (by decide) (by decide)]

theorem writeScope_of_ne {scope : UInt32} (present : scope ≠ 0) :
    writeScope scope = '%' :: Nat.toDigits 10 scope.toNat := by
  rw [writeScope, if_neg present, Numeral.write_eq_toDigits (by decide) (by decide)]

theorem normalForm_iff {e : Endpoint} {cs : List Char} : NormalForm e cs ↔ cs = e.write := by
  constructor
  · intro normal
    cases normal with
    | v4 ip port => rw [write, IPv6.dots_eq, writePort_eq]
    | v6 address port => simp [write, address.eq_write rfl, writePort_eq, writeScope]
    | v6Scoped address port present =>
      simp [write, address.eq_write rfl, writePort_eq, writeScope_of_ne present]
  · rintro rfl
    cases e with
    | v4 ip port =>
      rw [write, ← IPv6.dots_eq, writePort_eq]
      exact .v4 ip port
    | v6 ip port scope =>
      have address := ip.normalForm_write
      by_cases absent : scope = 0
      next => simpa [write, absent, writeScope, writePort_eq] using .v6 address port
      next =>
        have normal := NormalForm.v6Scoped address port absent
        simpa [write, writeScope_of_ne absent, writePort_eq] using normal

def Small (cs : List Char) : Prop := ∀ c ∈ cs, c.isUpper = false

theorem small_append {cs ds : List Char} : Small (cs ++ ds) ↔ Small cs ∧ Small ds :=
  List.forall_mem_append

theorem small_cons {c : Char} {cs : List Char} : Small (c :: cs) ↔ c.isUpper = false ∧ Small cs :=
  List.forall_mem_cons

theorem small_ten (n : Nat) : Small (Numeral.write 10 n) := fun _ =>
  Numeral.isUpper_of_mem_write (by decide) (by decide)

theorem small_v4 (ip : IPv4) : Small ip.write := by
  simp [write_v4, small_append, small_cons, small_ten]

theorem small_spell (first : Bool) (gs : List UInt16) : Small (spell first gs) := by
  induction gs generalizing first with
  | nil => simp [Small, spell]
  | cons g gs ih =>
    have digits : Small (Numeral.write 16 g.toNat) := fun _ =>
      Numeral.isUpper_of_mem_write (by decide) (by decide)
    cases first <;> simp [spell, lead, small_append, small_cons, digits, ih]

theorem small_v6 (ip : IPv6) : Small ip.write := by
  rw [IPv6.write]
  split
  next high low _ =>
    have front : Small [':', ':', 'f', 'f', 'f', 'f', ':'] := by simp [Small]
    exact small_append.mpr ⟨front, small_v4 _⟩
  next =>
    by_cases two : 1 < (IPv6.longestZeros ip.groups).2
    next =>
      rw [IPv6.writeCompressed_of_lt two, writeGroups_eq, writeGroups_eq]
      simp [small_append, small_cons, small_spell]
    next =>
      rw [IPv6.writeCompressed_of_not_lt two, writeGroups_eq]
      exact small_spell true ip.groups

theorem small_write (e : Endpoint) : Small e.write := by
  cases e with
  | v4 ip port => simp [write, writePort, small_append, small_cons, small_v4, small_ten]
  | v6 ip port scope =>
    have tail : Small (writeScope scope) := by
      rw [writeScope]
      split
      next => simp [Small]
      next => simp [small_cons, small_ten]
    simp [write, writePort, small_append, small_cons, small_v6, small_ten, tail]

/--
Every socket address can be read back from how it is written, so no two are written alike; and a
text that can be read is written in normal form when it is written again, and stays as it is from
then on.
-/
theorem display_normal_form :
    (∀ e : Endpoint, parse? e.display = some e) ∧
    (∀ e f : Endpoint, e.display = f.display → e = f) ∧
    (∀ s e, parse? s = some e →
      parse? e.display = parse? s ∧ (parse? e.display).map display = some e.display) ∧
    (∀ (e : Endpoint) (s : String), NormalForm e s.toList ↔ s = e.display) ∧
    ∀ e : Endpoint, ∀ c ∈ e.display.toList, c.isUpper = false := by
  refine ⟨parse?_display, fun e f same => ?_, fun s e read => ?_, fun e s => ?_, fun e => ?_⟩
  · have read := parse?_display e
    rw [same, parse?_display] at read
    exact (Option.some.inj read).symm
  · rw [parse?_display, read]
    exact ⟨rfl, rfl⟩
  · rw [normalForm_iff, display, ← String.toList_inj, String.toList_ofList]
  · rw [display, String.toList_ofList]
    exact small_write e

def twoRuns : Endpoint := .v6 ⟨[1, 0, 0, 2, 0, 0, 3, 0xabcd], rfl⟩ 80 0

-- the first of two longest runs is left out, and so are zeros in front and the scope zero
theorem display_normal_form_twoRuns :
    parse? "[0001:0:0:2:0:0:3:ABCD%0]:080" = some twoRuns ∧
      NormalForm twoRuns "[1::2:0:0:3:abcd]:80".toList ∧
      parse? "[1::2:0:0:3:abcd]:80" = some twoRuns ∧
      (parse? "[1::2:0:0:3:abcd]:80").map display = some "[1::2:0:0:3:abcd]:80" := by
  have read : parse? "[0001:0:0:2:0:0:3:ABCD%0]:080" = some twoRuns := by cbv
  have written : twoRuns.display = "[1::2:0:0:3:abcd]:80" := by cbv
  obtain ⟨again, -, stays, normal, -⟩ := display_normal_form
  refine ⟨read, (normal twoRuns _).mpr written.symm, ?_, ?_⟩
  · rw [← written]
    exact again twoRuns
  · rw [← written]
    exact (stays _ twoRuns read).2

end Endpoint

end Framecast
