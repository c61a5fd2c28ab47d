import Framecast.Endpoint.Parser
import Framecast.Endpoint.Printer
import Framecast.Proofs.Text.Numerals

set_option autoImplicit false

namespace Framecast

namespace Endpoint

variable {base n limit : Nat} {most : Option Nat} {leadingZero : Bool} {cs rest : List Char}

@[simp] theorem expect_cons (c : Char) (cs : List Char) : expect c (c :: cs) = some cs := by
  simp [expect]

theorem expect_of_ne {c : Char} (other : ∀ d ∈ cs.head?, d ≠ c) : expect c cs = none := by
  cases cs with
  | nil => rfl
  | cons d cs => rw [expect, if_neg (other d rfl)]

def Stops (base : Nat) (cs : List Char) : Prop := ∀ c ∈ cs.head?, Numeral.isDigit base c = false

theorem Stops.takeWhile_eq (stops : Stops base cs) : cs.takeWhile (Numeral.isDigit base) = [] := by
  cases cs with
  | nil => rfl
  | cons c cs => simp [stops c rfl]

theorem Stops.dropWhile_eq (stops : Stops base cs) : cs.dropWhile (Numeral.isDigit base) = cs := by
  cases cs with
  | nil => rfl
  | cons c cs => simp [stops c rfl]

theorem number_of_stops (stops : Stops base cs) : number base most leadingZero limit cs = none := by
  simp only [number, stops.takeWhile_eq, Numeral.read?]
  split
  next => rfl
  next => split <;> rfl

theorem number_write (two : 2 ≤ base) (small : base ≤ 16) (within : n ≤ limit)
    (short : ∀ k ∈ most, (Numeral.write base n).length ≤ k) (stops : Stops base rest) :
    number base most leadingZero limit (Numeral.write base n ++ rest) = some (n, rest) := by
  have digits : ∀ c ∈ Numeral.write base n, Numeral.isDigit base c = true := fun _ =>
    Numeral.isDigit_of_mem_write two small
  have front : (Numeral.write base n ++ rest).takeWhile (Numeral.isDigit base) =
      Numeral.write base n := by
    rw [List.takeWhile_append_of_pos digits, stops.takeWhile_eq, List.append_nil]
  have back : (Numeral.write base n ++ rest).dropWhile (Numeral.isDigit base) = rest := by
    rw [List.dropWhile_append_of_pos digits, stops.dropWhile_eq]
  have few : most.any (· < (Numeral.write base n).length) = false := by
    cases most with
    | none => rfl
    | some k => simpa using short k rfl
  have bare : ((Numeral.write base n).head? == some '0' &&
      decide (1 < (Numeral.write base n).length)) = false := by
    rcases Nat.eq_zero_or_pos n with rfl | pos
    · simp [Numeral.write_of_lt (Nat.lt_of_lt_of_le Nat.zero_lt_two two)]
    · have head := Numeral.head?_write_ne two small pos
      simp [head]
  simp only [number, front, back, few, Bool.and_assoc, bare, Bool.and_false, Bool.false_eq_true,
    if_false, Numeral.read?_write two small, if_pos within]

theorem rest_of_number (read : number base most leadingZero limit cs = some (n, rest)) :
    rest = cs.dropWhile (Numeral.isDigit base) := by
  simp only [number] at read
  split at read
  next => simp at read
  next =>
    split at read
    next => simp at read
    next =>
      split at read
      next =>
        split at read
        next => simp_all
        next => simp at read
      next => simp at read

theorem ipv4_of_stops (stops : Stops 10 cs) : ipv4 cs = none := by
  simp [ipv4, octet, number_of_stops stops]

theorem octet_write (o : UInt8) (stops : Stops 10 rest) :
    octet (Numeral.write 10 o.toNat ++ rest) = some (o, rest) := by
  have bound := o.toNat_lt
  have short : ∀ k ∈ some 3, (Numeral.write 10 o.toNat).length ≤ k := by
    rintro k ⟨⟩
    exact Numeral.length_write_le (by decide) (by decide) (by decide) (by omega)
  rw [octet, number_write (by decide) (by decide) (by omega) short stops]
  simp

theorem stops_dot (cs : List Char) : Stops 10 ('.' :: cs) := by
  rintro c ⟨⟩
  decide

theorem write_v4 (ip : IPv4) :
    ip.write = Numeral.write 10 ip.a.toNat ++ '.' :: (Numeral.write 10 ip.b.toNat ++
      '.' :: (Numeral.write 10 ip.c.toNat ++ '.' :: Numeral.write 10 ip.d.toNat)) := by
  simp [IPv4.write]

theorem ipv4_write (ip : IPv4) (stops : Stops 10 rest) :
    ipv4 (ip.write ++ rest) = some (ip, rest) := by
  simp only [write_v4, List.append_assoc, List.cons_append, ipv4, octet_write _ (stops_dot _),
    expect_cons, octet_write _ stops, Option.bind_eq_bind, Option.bind_some, Option.pure_def]

def Closes (cs : List Char) : Prop := ∀ c ∈ cs.head?, c = ':' ∨ c = ']' ∨ c = '%'

theorem Closes.stops (closes : Closes cs) : Stops 16 cs := by
  intro c head
  obtain rfl | rfl | rfl := closes c head <;> decide

theorem Closes.stops_ten (closes : Closes cs) : Stops 10 cs := by
  intro c head
  obtain rfl | rfl | rfl := closes c head <;> decide

theorem expect_dropWhile {c : Char} (absent : c ∉ cs) (other : ∀ d ∈ rest.head?, d ≠ c)
    (stops : Stops base rest) :
    expect c ((cs ++ rest).dropWhile (Numeral.isDigit base)) = none := by
  induction cs with
  | nil => rw [List.nil_append, stops.dropWhile_eq, expect_of_ne other]
  | cons d cs ih =>
    rw [List.mem_cons, not_or] at absent
    rw [List.cons_append, List.dropWhile_cons]
    split
    next => exact ih absent.2
    next => rw [expect, if_neg (Ne.symm absent.1)]

theorem ipv4_write_group (g : Nat) (closes : Closes rest) :
    ipv4 (Numeral.write 16 g ++ rest) = none := by
  have no_dot : '.' ∉ Numeral.write 16 g := fun member =>
    absurd (Numeral.isDigit_of_mem_write (by decide) (by decide) member) (by decide)
  have other : ∀ d ∈ rest.head?, d ≠ '.' := by
    intro d head
    obtain rfl | rfl | rfl := closes d head <;> decide
  -- the digits in front may make an octet, but then no dot comes after it
  have dotless := expect_dropWhile no_dot other closes.stops_ten
  cases first : octet (Numeral.write 16 g ++ rest) with
  | none => simp only [ipv4, first, Option.bind_eq_bind, Option.bind_none]
  | some read =>
    obtain ⟨⟨n, cs⟩, numeral, rfl⟩ := Option.map_eq_some_iff.mp first
    simp only [ipv4, first, rest_of_number numeral, dotless, Option.bind_eq_bind,
      Option.bind_some, Option.bind_none]

-- each group but the first has a colon before it
def lead (first : Bool) (cs : List Char) : List Char := if first then cs else ':' :: cs

@[simp] theorem separated_lead (first : Bool) (cs : List Char) :
    separated first (lead first cs) = some cs := by
  cases first <;> simp [separated, lead]

theorem group_write (first : Bool) (g : UInt16) (closes : Closes rest) :
    group first (lead first (Numeral.write 16 g.toNat ++ rest)) = some (g, rest) := by
  have bound := g.toNat_lt
  have short : ∀ k ∈ some 4, (Numeral.write 16 g.toNat).length ≤ k := by
    rintro k ⟨⟩
    exact Numeral.length_write_le (by decide) (by decide) (by decide) (by omega)
  rw [group, separated_lead, Option.bind_some,
    number_write (by decide) (by decide) (by omega) short closes.stops]
  simp

def Ends (cs : List Char) : Prop :=
  ∃ rest, cs = ':' :: ':' :: rest ∨ cs = ']' :: rest ∨ cs = '%' :: rest

theorem Ends.closes (ends : Ends cs) : Closes cs := by
  obtain ⟨rest, rfl | rfl | rfl⟩ := ends <;> rintro c ⟨⟩ <;> simp

theorem Ends.separated (ends : Ends cs) {first : Bool} (led : separated first cs = some rest) :
    Closes rest := by
  cases first with
  | true => exact Option.some.inj led ▸ ends.closes
  | false =>
    obtain ⟨after, rfl | rfl | rfl⟩ := ends <;> simp [Endpoint.separated, expect] at led
    subst led
    rintro c ⟨⟩
    exact .inl rfl

theorem Ends.embedded (ends : Ends cs) (first : Bool) : embedded first cs = none :=
  Option.bind_eq_none_iff.mpr fun _ led => ipv4_of_stops (ends.separated led).stops_ten

theorem Ends.group (ends : Ends cs) (first : Bool) : group first cs = none :=
  Option.map_eq_none_iff.mpr (Option.bind_eq_none_iff.mpr fun _ led =>
    number_of_stops (ends.separated led).stops)

def spell : Bool → List UInt16 → List Char
  | _, [] => []
  | first, g :: gs => lead first (Numeral.write 16 g.toNat ++ spell false gs)

theorem writeGroups_eq (gs : List UInt16) : IPv6.writeGroups gs = spell true gs := by
  have after (gs : List UInt16) : spell false gs =
      if gs = [] then [] else ':' :: IPv6.writeGroups gs := by
    induction gs with
    | nil => rfl
    | cons g gs ih =>
      rw [spell, ih]
      cases gs <;> simp [lead, IPv6.writeGroups]
  cases gs with
  | nil => rfl
  | cons g gs =>
    rw [spell, after]
    cases gs <;> simp [lead, IPv6.writeGroups]

theorem Ends.closes_spell (ends : Ends rest) (gs : List UInt16) :
    Closes (spell false gs ++ rest) := by
  cases gs with
  | nil => exact ends.closes
  | cons g gs =>
    rintro c ⟨⟩
    exact .inl rfl

theorem embedded_group (first : Bool) (g : Nat) (closes : Closes rest) :
    embedded first (lead first (Numeral.write 16 g ++ rest)) = none := by
  rw [embedded, separated_lead, Option.bind_some, ipv4_write_group g closes]

theorem groups_spell {room : Nat} (first : Bool) {gs : List UInt16} (fits : gs.length ≤ room)
    (ends : Ends rest) : groups room first (spell first gs ++ rest) = (gs, false, rest) := by
  -- where the groups end there may be room left, but neither dots nor a group can be read there
  induction gs generalizing room first with
  | nil =>
    cases room with
    | zero => rfl
    | succ room =>
      simp only [spell, List.nil_append, groups, ends.embedded, ends.group, ite_self]
  | cons g gs ih =>
    obtain ⟨room, rfl⟩ : ∃ n, room = n + 1 := ⟨room - 1, by rw [List.length_cons] at fits; omega⟩
    have closes := ends.closes_spell gs
    have text : spell first (g :: gs) ++ rest =
        lead first (Numeral.write 16 g.toNat ++ (spell false gs ++ rest)) := by
      cases first <;> simp [spell, lead]
    simp only [text, groups, embedded_group first _ closes, ite_self, group_write first g closes,
      ih false (Nat.le_of_succ_le_succ fits)]

theorem groups_dotted (room : Nat) (g : UInt16) (ip : IPv4) (stops : Stops 10 rest) :
    groups (room + 3) true (Numeral.write 16 g.toNat ++ ':' :: (ip.write ++ rest)) =
      (g :: ip.toGroups, true, rest) := by
  have closes : Closes (':' :: (ip.write ++ rest)) := by
    rintro c ⟨⟩
    exact .inl rfl
  have first := embedded_group true g.toNat closes
  have read := group_write true g closes
  have dots : embedded false (':' :: (ip.write ++ rest)) = some (ip, rest) := by
    simp [embedded, separated, ipv4_write ip stops]
  simp only [lead, if_true] at first read
  simp only [groups, first, ite_self, read, Nat.zero_lt_succ, if_true, dots]

end Endpoint

namespace IPv6

structure ZeroRun (gs : List UInt16) (start length : Nat) : Prop where
  within : start + length ≤ gs.length
  zero : ∀ i, i < length → gs[start + i]? = some 0

variable {g : UInt16} {gs : List UInt16} {start length : Nat}

theorem zeroRun_cons : ZeroRun (g :: gs) (start + 1) length ↔ ZeroRun gs start length := by
  constructor
  · rintro ⟨within, zero⟩
    refine ⟨by rw [List.length_cons] at within; omega, fun i inside => ?_⟩
    rw [← zero i inside, Nat.add_right_comm, List.getElem?_cons_succ]
  · rintro ⟨within, zero⟩
    refine ⟨by rw [List.length_cons]; omega, fun i inside => ?_⟩
    rw [← zero i inside, Nat.add_right_comm, List.getElem?_cons_succ]

theorem zeroRun_zero_succ : ZeroRun (g :: gs) 0 (length + 1) ↔ g = 0 ∧ ZeroRun gs 0 length := by
  constructor
  · rintro ⟨within, zero⟩
    refine ⟨by simpa using zero 0 (Nat.zero_lt_succ length), ?_, fun i inside => ?_⟩
    · rw [List.length_cons] at within
      omega
    · rw [← zero (i + 1) (Nat.succ_lt_succ inside), ← Nat.add_assoc, List.getElem?_cons_succ]
  · rintro ⟨rfl, within, zero⟩
    refine ⟨by rw [List.length_cons]; omega, fun i inside => ?_⟩
    cases i with
    | zero => rfl
    | succ i =>
      rw [← zero i (Nat.lt_of_succ_lt_succ inside), ← Nat.add_assoc, List.getElem?_cons_succ]

@[simp] theorem leadingZeros_zero (gs : List UInt16) :
    leadingZeros (0 :: gs) = leadingZeros gs + 1 := by
  simp [leadingZeros]

theorem leadingZeros_of_ne (other : g ≠ 0) : leadingZeros (g :: gs) = 0 := by
  simp [leadingZeros, other]

theorem zeroRun_leadingZeros (gs : List UInt16) : ZeroRun gs 0 (leadingZeros gs) := by
  induction gs with
  | nil => exact ⟨by simp [leadingZeros], by simp [leadingZeros]⟩
  | cons g gs ih =>
    by_cases zero : g = 0
    next =>
      rw [zero, leadingZeros_zero]
      exact zeroRun_zero_succ.mpr ⟨rfl, ih⟩
    next =>
      rw [leadingZeros_of_ne zero]
      exact ⟨by simp, by simp⟩

theorem zeroRun_longestZeros (gs : List UInt16) :
    ZeroRun gs (longestZeros gs).1 (longestZeros gs).2 := by
  induction gs with
  | nil => exact ⟨by simp [longestZeros], by simp [longestZeros]⟩
  | cons g gs ih =>
    simp only [longestZeros]
    split
    next => exact zeroRun_leadingZeros (g :: gs)
    next => exact zeroRun_cons.mpr ih

theorem writeCompressed_of_lt (two : 1 < (longestZeros gs).2) :
    writeCompressed gs =
      writeGroups (gs.take (longestZeros gs).1) ++ [':', ':'] ++
        writeGroups (gs.drop ((longestZeros gs).1 + (longestZeros gs).2)) := if_pos two

theorem writeCompressed_of_not_lt (few : ¬ 1 < (longestZeros gs).2) :
    writeCompressed gs = writeGroups gs := if_neg few

theorem ZeroRun.split (run : ZeroRun gs start length) :
    gs.take start ++ List.replicate length 0 ++ gs.drop (start + length) = gs := by
  obtain ⟨within, zero⟩ := run
  have middle : (gs.drop start).take length = List.replicate length 0 := by
    refine List.eq_replicate_iff.mpr ⟨by rw [List.length_take, List.length_drop]; omega, ?_⟩
    intro g member
    obtain ⟨i, at_i⟩ := List.getElem?_of_mem member
    rw [List.getElem?_take, List.getElem?_drop] at at_i
    split at at_i
    next inside => exact Option.some.inj (at_i.symm.trans (zero i inside))
    next => simp at at_i
  rw [← middle, ← List.drop_drop, List.append_assoc, List.take_append_drop, List.take_append_drop]

end IPv6

namespace Endpoint

variable {rest : List Char}

def Follows (cs : List Char) : Prop := ∃ rest, cs = ']' :: rest ∨ cs = '%' :: rest

theorem Follows.ends {cs : List Char} (follows : Follows cs) : Ends cs :=
  follows.imp fun _ => .inr

theorem ends_gap (cs : List Char) : Ends (':' :: ':' :: cs) := ⟨cs, .inl rfl⟩

theorem ipv6_writeGroups (ip : IPv6) (follows : Follows rest) :
    ipv6 (IPv6.writeGroups ip.groups ++ rest) = some (ip, rest) := by
  have read := groups_spell true (Nat.le_of_eq ip.length_groups) follows.ends
  simp [ipv6, writeGroups_eq, read, ip.length_groups]

theorem ipv6_gap {front back : List UInt16} {ip : IPv6} {zeros : Nat}
    (some_left_out : 0 < zeros) (whole : front ++ List.replicate zeros 0 ++ back = ip.groups)
    (follows : Follows rest) :
    ipv6 (IPv6.writeGroups front ++ [':', ':'] ++ IPv6.writeGroups back ++ rest) =
      some (ip, rest) := by
  have eight : front.length + zeros + back.length = 8 := by
    rw [← ip.length_groups, ← whole]
    simp [Nat.add_assoc]
  have before := groups_spell true (by omega : front.length ≤ 8)
    (ends_gap (IPv6.writeGroups back ++ rest))
  have after := groups_spell true (by omega : back.length ≤ 7 - front.length)
    follows.ends
  have short : front.length ≠ 8 := by omega
  have left_out : 8 - front.length - back.length = zeros := by omega
  rw [← writeGroups_eq] at before after
  simp only [List.append_assoc, List.cons_append, List.nil_append, ipv6, before, short, if_false,
    Bool.false_eq_true, expect_cons, Option.bind_eq_bind, Option.bind_some, after, left_out]
  rw [← List.append_assoc, whole, IPv6.ofGroups?_groups]
  rfl

theorem toGroups_ofGroups (high low : UInt16) :
    (IPv4.ofGroups high low).toGroups = [high, low] := by
  have whole (g : UInt16) : (g / 256).toUInt8.toUInt16 * 256 + g.toUInt8.toUInt16 = g := by
    have bound := g.toNat_lt
    apply UInt16.toNat_inj.mp
    simp
    omega
  simp only [IPv4.toGroups, IPv4.ofGroups, whole]

theorem Follows.stops {cs : List Char} (follows : Follows cs) : Stops 10 cs :=
  follows.ends.closes.stops_ten

theorem write_ffff : Numeral.write 16 (0xffff : UInt16).toNat = ['f', 'f', 'f', 'f'] := by
  rw [Numeral.write_eq_toDigits (by decide) (by decide)]
  decide

theorem ipv6_mapped {high low : UInt16} {ip : IPv6}
    (mapped : ip.groups = [0, 0, 0, 0, 0, 0xffff, high, low]) (follows : Follows rest) :
    ipv6 ([':', ':', 'f', 'f', 'f', 'f', ':'] ++ (IPv4.ofGroups high low).write ++ rest) =
      some (ip, rest) := by
  have before := groups_spell true (by decide : ([] : List UInt16).length ≤ 8)
    (ends_gap ('f' :: 'f' :: 'f' :: 'f' :: ':' :: ((IPv4.ofGroups high low).write ++ rest)))
  have after := groups_dotted 4 0xffff (IPv4.ofGroups high low) follows.stops
  have whole : List.replicate 5 0 ++ 0xffff :: [high, low] = ip.groups := mapped.symm
  rw [write_ffff, toGroups_ofGroups] at after
  simp only [spell, List.nil_append, List.cons_append] at before after
  simp only [List.cons_append, List.nil_append, ipv6, before, List.length_nil, Nat.reduceEqDiff,
    Bool.false_eq_true, if_false, expect_cons, Option.bind_eq_bind, Option.bind_some, after,
    List.length_cons, Nat.reduceAdd, Nat.reduceSub, whole, IPv6.ofGroups?_groups]
  rfl

theorem ipv6_write (ip : IPv6) (follows : Follows rest) :
    ipv6 (ip.write ++ rest) = some (ip, rest) := by
  rw [IPv6.write]
  split
  next mapped => exact ipv6_mapped mapped follows
  next =>
    by_cases two : 1 < (IPv6.longestZeros ip.groups).2
    next =>
      have whole := (IPv6.zeroRun_longestZeros ip.groups).split
      rw [IPv6.writeCompressed_of_lt two]
      exact ipv6_gap (Nat.zero_lt_of_lt two) whole follows
    next =>
      rw [IPv6.writeCompressed_of_not_lt two]
      exact ipv6_writeGroups ip follows

theorem portAfter_write (port : UInt16) : portAfter (writePort port) = some (port, []) := by
  have bound := port.toNat_lt
  have read : number 10 none true 0xffff (Numeral.write 10 port.toNat ++ []) =
      some (port.toNat, []) :=
    number_write (by decide) (by decide) (by omega) (by simp) (by simp [Stops])
  rw [List.append_nil] at read
  simp [portAfter, writePort, read]

theorem scopeAfter_write {scope : UInt32} (present : scope ≠ 0) (rest : List Char) :
    scopeAfter (writeScope scope ++ ']' :: rest) = some (scope, ']' :: rest) := by
  have bound := scope.toNat_lt
  have stops : Stops 10 (']' :: rest) := Follows.stops ⟨rest, .inl rfl⟩
  have read : number 10 none true 0xffffffff (Numeral.write 10 scope.toNat ++ ']' :: rest) =
      some (scope.toNat, ']' :: rest) :=
    number_write (by decide) (by decide) (by omega) (by simp) stops
  simp [scopeAfter, writeScope, present, read]

theorem follows_writeScope (scope : UInt32) (rest : List Char) :
    Follows (writeScope scope ++ ']' :: rest) := by
  rw [writeScope]
  split
  next => exact ⟨rest, .inl rfl⟩
  next => exact ⟨_, .inr rfl⟩

theorem scope_write (scope : UInt32) (rest : List Char) :
    (scopeAfter (writeScope scope ++ ']' :: rest)).getD
        (0, writeScope scope ++ ']' :: rest) = (scope, ']' :: rest) := by
  by_cases absent : scope = 0
  next => simp [absent, writeScope, scopeAfter, expect]
  next => rw [scopeAfter_write absent, Option.getD_some]

theorem read?_write (e : Endpoint) : read? e.write = some e := by
  cases e with
  | v4 ip port =>
    have stops : Stops 10 (writePort port) := by
      rintro c ⟨⟩
      decide
    simp [read?, write, addressV4, ipv4_write ip stops, portAfter_write]
  | v6 ip port scope =>
    have bracket : Stops 10 ('[' :: (ip.write ++ (writeScope scope ++ ']' :: writePort port))) := by
      rintro c ⟨⟩
      decide
    have read := ipv6_write ip (follows_writeScope scope (writePort port))
    simp only [read?, write, List.cons_append, List.append_assoc, addressV4,
      ipv4_of_stops bracket, addressV6, expect_cons, read, scope_write, portAfter_write,
      Option.bind_eq_bind, Option.bind_none, Option.bind_some, Option.pure_def,
      Option.orElse_eq_orElse, Option.orElse_none]

theorem parse?_display (e : Endpoint) : parse? e.display = some e := by
  rw [parse?, display, String.toList_ofList, read?_write]

end Endpoint

end Framecast
