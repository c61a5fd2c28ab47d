import Framecast.Toml.Document

set_option autoImplicit false

namespace Framecast.Toml

namespace Entries

variable {es : Entries} {k : String} {v : Item} {e : String × Item}

theorem mem_of_get? (found : es.get? k = some v) : (k, v) ∈ es := by
  induction es with
  | nil => simp [get?] at found
  | cons e es ih =>
    obtain ⟨j, w⟩ := e
    by_cases same : j = k
    · simp only [get?, if_pos same, Option.some.injEq] at found
      simp [same, found]
    · rw [get?, if_neg same] at found
      exact List.mem_cons_of_mem _ (ih found)

theorem get?_eq_none : es.get? k = none ↔ k ∉ es.keys := by
  induction es with
  | nil => simp [get?, keys]
  | cons e es ih =>
    obtain ⟨j, w⟩ := e
    by_cases same : j = k
    · simp [get?, keys, same]
    · simpa [get?, keys, same, Ne.symm same] using ih

theorem mem_keys : k ∈ es.keys ↔ ∃ v, es.get? k = some v := by
  rw [← Option.ne_none_iff_exists', Ne, get?_eq_none, Classical.not_not]

theorem get?_of_mem (distinct : es.keys.Nodup) (member : (k, v) ∈ es) : es.get? k = some v := by
  induction es with
  | nil => simp at member
  | cons e es ih =>
    obtain ⟨j, w⟩ := e
    obtain ⟨new, distinct⟩ := List.nodup_cons.mp distinct
    rcases List.mem_cons.mp member with same | later
    · obtain ⟨rfl, rfl⟩ := Prod.mk.inj same
      simp [get?]
    · have other : j ≠ k := by
        rintro rfl
        exact new (List.mem_map.mpr ⟨_, later, rfl⟩)
      rw [get?, if_neg other]
      exact ih distinct later

theorem mem_of_mem_replace (member : e ∈ es.replace k v) : e ∈ es ∨ e = (k, v) := by
  induction es with
  | nil => simp [replace] at member
  | cons d es ih =>
    obtain ⟨j, w⟩ := d
    by_cases same : j = k
    · rw [replace, if_pos same, same] at member
      exact (List.mem_cons.mp member).symm.imp_left (List.mem_cons_of_mem _)
    · rw [replace, if_neg same] at member
      rcases List.mem_cons.mp member with rfl | later
      · exact .inl List.mem_cons_self
      · exact (ih later).imp_left (List.mem_cons_of_mem _)

theorem remove_sublist (k : String) (es : Entries) : (es.remove k).Sublist es := by
  induction es with
  | nil => exact .slnil
  | cons e es ih =>
    obtain ⟨j, w⟩ := e
    rw [remove]
    split
    next => exact List.sublist_cons_self _ _
    next => exact ih.cons_cons _

end Entries

inductive Item.Sound : Item → Prop
  | text (s : String) : Sound (.text s)
  | integer {n : Int} (low : smallest ≤ n) (high : n ≤ largest) : Sound (.integer n)
  | float (x : FloatValue) : Sound (.float x)
  | boolean (b : Bool) : Sound (.boolean b)
  | dateTime : Sound .dateTime
  | array {xs : List Item} (each : ∀ x ∈ xs, Sound x) : Sound (.array xs)
  | table {inline : Bool} {origin : Origin} {es : Entries} (distinct : es.keys.Nodup)
      (each : ∀ e ∈ es, Sound e.2) : Sound (.table inline origin es)
  | tables {xs : List Item} (each : ∀ x ∈ xs, Sound x) : Sound (.tables xs)

structure Entries.Sound (es : Entries) : Prop where
  distinct : es.keys.Nodup
  each : ∀ e ∈ es, e.2.Sound

theorem Item.sound_table {inline : Bool} {origin : Origin} {es : Entries} :
    (Item.table inline origin es).Sound ↔ es.Sound := by
  refine ⟨fun sound => ?_, fun sound => .table sound.distinct sound.each⟩
  cases sound with
  | table distinct each => exact ⟨distinct, each⟩

theorem Item.sound_tables {xs : List Item} : (Item.tables xs).Sound ↔ ∀ x ∈ xs, x.Sound := by
  refine ⟨fun sound => ?_, .tables⟩
  cases sound with
  | tables each => exact each

namespace Entries.Sound

variable {es es' : Entries} {k : String} {v : Item}

theorem nil : Entries.Sound [] := ⟨List.nodup_nil, by simp⟩

theorem get? (sound : es.Sound) (found : es.get? k = some v) : v.Sound :=
  sound.each _ (mem_of_get? found)

theorem append (sound : es.Sound) (new : es.get? k = none) (item : v.Sound) :
    Entries.Sound (es ++ [(k, v)]) := by
  obtain ⟨distinct, each⟩ := sound
  constructor
  · rw [keys, List.map_append]
    refine List.nodup_append.mpr ⟨distinct, by simp, ?_⟩
    rintro j member j' same rfl
    obtain rfl : j = k := List.mem_singleton.mp same
    exact get?_eq_none.mp new member
  · intro e member
    rcases List.mem_append.mp member with old | same
    · exact each e old
    · rw [List.mem_singleton.mp same]
      exact item

theorem replace (sound : es.Sound) (item : v.Sound) : (es.replace k v).Sound := by
  obtain ⟨distinct, each⟩ := sound
  refine ⟨by rwa [keys_replace], fun e member => ?_⟩
  rcases mem_of_mem_replace member with old | rfl
  · exact each e old
  · exact item

theorem remove (sound : es.Sound) : (es.remove k).Sound := by
  obtain ⟨distinct, each⟩ := sound
  have part := remove_sublist k es
  exact ⟨distinct.sublist (part.map _), fun e member => each e (part.subset member)⟩

end Entries.Sound

theorem mem_updateLast {f : Item → Option Item} {xs ys : List Item} {y : Item}
    (updated : updateLast f xs = some ys) (member : y ∈ ys) :
    y ∈ xs ∨ ∃ x ∈ xs, f x = some y := by
  induction xs generalizing ys with
  | nil => simp [updateLast] at updated
  | cons x xs ih =>
    cases xs with
    | nil =>
      obtain ⟨z, made, rfl⟩ := Option.map_eq_some_iff.mp updated
      rw [List.mem_singleton.mp member]
      exact .inr ⟨x, List.mem_cons_self, made⟩
    | cons x' xs =>
      obtain ⟨zs, updated', rfl⟩ := Option.map_eq_some_iff.mp updated
      rcases List.mem_cons.mp member with rfl | later
      · exact .inl List.mem_cons_self
      · refine (ih updated' later).imp (List.mem_cons_of_mem _) ?_
        rintro ⟨z, there, made⟩
        exact ⟨z, List.mem_cons_of_mem _ there, made⟩

variable {es es' : Entries} {k : String} {v : Item} {path : List String} {b b' : Builder}

theorem sound_descend {inline dotted : Bool} {f : Origin → Entries → Option Entries}
    (preserves : ∀ origin es es', es.Sound → f origin es = some es' → es'.Sound)
    {origin : Origin} (sound : es.Sound)
    (made : descend inline dotted f path origin es = some es') : es'.Sound := by
  induction path generalizing origin es es' with
  | nil => exact preserves origin es es' sound made
  | cons k path ih =>
    rw [descend] at made
    split at made
    next new =>
      obtain ⟨sub, deeper, rfl⟩ := Option.map_eq_some_iff.mp made
      exact sound.append new (Item.sound_table.mpr (ih .nil deeper))
    next i origin sub found =>
      split at made
      next => simp at made
      next =>
        split at made
        next => simp at made
        next =>
          obtain ⟨sub', deeper, rfl⟩ := Option.map_eq_some_iff.mp made
          have before := Item.sound_table.mp (sound.get? found)
          exact sound.replace (Item.sound_table.mpr (ih before deeper))
    next xs found =>
      obtain ⟨ys, updated, rfl⟩ := Option.map_eq_some_iff.mp made
      have each := Item.sound_tables.mp (sound.get? found)
      refine sound.replace (.tables fun y member => ?_)
      rcases mem_updateLast updated member with old | ⟨x, there, entered⟩
      · exact each y old
      · -- only tables of the array are entered
        split at entered
        next i origin sub =>
          obtain ⟨sub', deeper, rfl⟩ := Option.map_eq_some_iff.mp entered
          have before := Item.sound_table.mp (each _ there)
          exact Item.sound_table.mpr (ih before deeper)
        next => simp at entered
    next => simp at made

theorem sound_addEntry (sound : es.Sound) (item : v.Sound) (made : addEntry k v es = some es') :
    es'.Sound := by
  rw [addEntry] at made
  split at made
  next new => exact Option.some.inj made ▸ sound.append new item
  next => simp at made

theorem sound_addDotted {inline : Bool} (sound : es.Sound) (item : v.Sound)
    (made : addDotted inline path k v es = some es') : es'.Sound := by
  refine sound_descend ?_ sound made
  intro origin es es' sound made
  split at made
  next => simp at made
  next => exact sound_addEntry sound item made

namespace Builder

structure Sound (b : Builder) : Prop where
  root : b.root.Sound
  current : b.current.Sound

theorem Sound.add (sound : b.Sound) (item : v.Sound) (made : b.add path k v = some b') :
    b'.Sound := by
  obtain ⟨es, added, rfl⟩ := Option.map_eq_some_iff.mp made
  exact ⟨sound.root, sound_addDotted sound.current item added⟩

theorem Sound.finish (sound : b.Sound) (made : b.finish = some es) : es.Sound := by
  rw [Builder.finish] at made
  split at made
  next => exact Option.some.inj made ▸ sound.current
  next path k place =>
    have table : (Item.table false .written b.current).Sound := Item.sound_table.mpr sound.current
    refine sound_descend ?_ sound.root made
    intro origin es es' sound made
    split at made
    next new _ => exact Option.some.inj made ▸ sound.append new table
    next new _ =>
      exact Option.some.inj made ▸ sound.append new (.tables (by simpa using table))
    next xs found _ =>
      have each := Item.sound_tables.mp (sound.get? found)
      refine Option.some.inj made ▸ sound.replace (.tables fun x member => ?_)
      rcases List.mem_append.mp member with old | same
      · exact each x old
      · exact List.mem_singleton.mp same ▸ table
    next => simp at made

theorem sound_entriesAt (sound : es.Sound) : (entriesAt path es).Sound := by
  induction path generalizing es with
  | nil => exact sound
  | cons k path ih =>
    rw [entriesAt]
    split
    next i origin sub found => exact ih (Item.sound_table.mp (sound.get? found))
    next xs found =>
      have each := Item.sound_tables.mp (sound.get? found)
      split
      next i origin sub last =>
        exact ih (Item.sound_table.mp (each _ (List.mem_of_getLast? last)))
      next => exact .nil
    next => exact .nil

theorem Sound.openTable (sound : b.Sound) (made : b.openTable path k = some b') : b'.Sound := by
  simp only [Builder.openTable, Option.bind_eq_bind, Option.bind_eq_some_iff] at made
  obtain ⟨root, finished, root', cleared, made⟩ := made
  obtain rfl := Option.some.inj made
  have before := sound.finish finished
  constructor
  · refine sound_descend ?_ before cleared
    intro origin es es' sound made
    split at made
    next => exact Option.some.inj made ▸ sound
    next => exact Option.some.inj made ▸ sound.remove
    next => simp at made
  · dsimp only
    split
    next i origin sub found =>
      exact Item.sound_table.mp ((sound_entriesAt before).get? found)
    next => exact .nil

theorem Sound.openListed (sound : b.Sound) (made : b.openListed path k = some b') :
    b'.Sound := by
  simp only [Builder.openListed, Option.bind_eq_bind, Option.bind_eq_some_iff] at made
  obtain ⟨root, finished, root', opened, made⟩ := made
  obtain rfl := Option.some.inj made
  refine ⟨sound_descend ?_ (sound.finish finished) opened, .nil⟩
  intro origin es es' sound made
  split at made
  next new => exact Option.some.inj made ▸ sound.append new (.tables (by simp))
  next => exact Option.some.inj made ▸ sound
  next => simp at made

end Builder

variable {x : Item} {cs rest : Chars}

theorem inRange_eq_some {n m : Int} (inside : inRange n = some m) :
    smallest ≤ m ∧ m ≤ largest := by
  rw [inRange] at inside
  split at inside
  next bounds => exact Option.some.inj inside ▸ bounds
  next => simp at inside

theorem integer_bounds {n : Int} (read : integer cs = some (n, rest)) :
    smallest ≤ n ∧ n ≤ largest := by
  have based (base : Nat) (cs : Chars) (read : prefixed base cs = some (n, rest)) :
      smallest ≤ n ∧ n ≤ largest := by
    simp only [prefixed, Option.bind_eq_bind, Option.bind_eq_some_iff] at read
    obtain ⟨⟨ds, rest'⟩, -, m, inside, same⟩ := read
    obtain ⟨rfl, -⟩ := Prod.mk.inj (Option.some.inj same)
    exact inRange_eq_some inside
  rw [integer.eq_def] at read
  split at read
  next => exact based 16 _ read
  next => exact based 8 _ read
  next => exact based 2 _ read
  next =>
    simp only [Option.bind_eq_bind, Option.bind_eq_some_iff] at read
    obtain ⟨⟨ds, rest'⟩, -, m, inside, same⟩ := read
    obtain ⟨rfl, -⟩ := Prod.mk.inj (Option.some.inj same)
    exact inRange_eq_some inside

theorem sound_number (read : number cs = some (x, rest)) : x.Sound := by
  rw [number] at read
  split at read
  next value rest' _ =>
    obtain ⟨y, -, same⟩ := Option.map_eq_some_iff.mp read
    obtain ⟨rfl, -⟩ := Prod.mk.inj same
    exact .float y
  next =>
    split at read
    next y rest' _ =>
      obtain ⟨rfl, -⟩ := Prod.mk.inj (Option.some.inj read)
      exact .float y
    next =>
      obtain ⟨⟨n, rest'⟩, scanned, same⟩ := Option.map_eq_some_iff.mp read
      obtain ⟨rfl, -⟩ := Prod.mk.inj same
      obtain ⟨low, high⟩ := integer_bounds scanned
      exact .integer low high

theorem sound_plainValue (read : plainValue cs = some (x, rest)) : x.Sound := by
  rw [plainValue.eq_def] at read
  split at read
  next =>
    obtain ⟨rfl, -⟩ := Prod.mk.inj (Option.some.inj read)
    exact .boolean true
  next =>
    obtain ⟨rfl, -⟩ := Prod.mk.inj (Option.some.inj read)
    exact .boolean false
  next =>
    split at read
    next =>
      obtain ⟨rfl, -⟩ := Prod.mk.inj (Option.some.inj read)
      exact .dateTime
    next => exact sound_number read

structure SoundWithin (fuel : Nat) : Prop where
  value : ∀ depth cs x rest, value fuel depth cs = some (x, rest) → x.Sound
  elements : ∀ depth cs xs rest, elements fuel depth cs = some (xs, rest) → ∀ x ∈ xs, x.Sound
  pairs : ∀ depth es cs es' rest, es.Sound → pairs fuel depth es cs = some (es', rest) →
    es'.Sound

namespace SoundWithin

variable {fuel depth : Nat} {xs : List Item} {es es' : Entries}

theorem value_succ (within : SoundWithin fuel)
    (read : Toml.value (fuel + 1) depth cs = some (x, rest)) : x.Sound := by
  rw [Toml.value.eq_def] at read
  dsimp only at read
  split at read
  next =>
    obtain ⟨⟨s, rest'⟩, -, same⟩ := Option.map_eq_some_iff.mp read
    obtain ⟨rfl, -⟩ := Prod.mk.inj same
    exact .text s
  next =>
    obtain ⟨⟨s, rest'⟩, -, same⟩ := Option.map_eq_some_iff.mp read
    obtain ⟨rfl, -⟩ := Prod.mk.inj same
    exact .text s
  next =>
    split at read
    next =>
      obtain ⟨⟨xs, rest'⟩, inner, same⟩ := Option.map_eq_some_iff.mp read
      obtain ⟨rfl, -⟩ := Prod.mk.inj same
      exact .array (within.elements _ _ _ _ inner)
    next => simp at read
  next =>
    split at read
    next =>
      split at read
      next =>
        obtain ⟨rfl, -⟩ := Prod.mk.inj (Option.some.inj read)
        exact Item.sound_table.mpr .nil
      next =>
        obtain ⟨⟨es, rest'⟩, inner, same⟩ := Option.map_eq_some_iff.mp read
        obtain ⟨rfl, -⟩ := Prod.mk.inj same
        exact Item.sound_table.mpr (within.pairs _ _ _ _ _ .nil inner)
    next => simp at read
  next => exact sound_plainValue read

theorem elements_succ (within : SoundWithin fuel)
    (read : Toml.elements (fuel + 1) depth cs = some (xs, rest)) : ∀ x ∈ xs, x.Sound := by
  rw [Toml.elements.eq_def] at read
  dsimp only at read
  split at read
  next =>
    obtain ⟨rfl, -⟩ := Prod.mk.inj (Option.some.inj read)
    simp
  next =>
    obtain ⟨⟨x, rest'⟩, first, read⟩ := Option.bind_eq_some_iff.mp read
    have head := within.value _ _ _ _ first
    dsimp only at read
    split at read
    next =>
      obtain ⟨rfl, -⟩ := Prod.mk.inj (Option.some.inj read)
      simpa using head
    next =>
      obtain ⟨⟨xs, rest'⟩, later, same⟩ := Option.bind_eq_some_iff.mp read
      obtain ⟨rfl, -⟩ := Prod.mk.inj (Option.some.inj same)
      exact List.forall_mem_cons.mpr ⟨head, within.elements _ _ _ _ later⟩
    next => simp at read

theorem pairs_succ (within : SoundWithin fuel) (sound : es.Sound)
    (read : Toml.pairs (fuel + 1) depth es cs = some (es', rest)) : es'.Sound := by
  simp only [Toml.pairs, Option.bind_eq_bind, Option.bind_eq_some_iff] at read
  obtain ⟨⟨⟨path, k⟩, _⟩, -, _, -, ⟨v, _⟩, item, after, added, read⟩ := read
  have further := sound_addDotted sound (within.value _ _ _ _ item) added
  dsimp only at read
  split at read
  next =>
    obtain ⟨rfl, -⟩ := Prod.mk.inj (Option.some.inj read)
    exact further
  next => exact within.pairs _ _ _ _ _ further read
  next => simp at read

end SoundWithin

theorem soundWithin (fuel : Nat) : SoundWithin fuel := by
  induction fuel with
  | zero => constructor <;> simp [value, elements, pairs]
  | succ fuel ih =>
    exact ⟨fun _ _ _ _ => ih.value_succ, fun _ _ _ _ => ih.elements_succ,
      fun _ _ _ _ _ => ih.pairs_succ⟩

theorem sound_header (sound : b.Sound) (read : header b cs = some (b', rest)) : b'.Sound := by
  rw [header.eq_def] at read
  split at read
  next =>
    simp only [Option.bind_eq_bind, Option.bind_eq_some_iff] at read
    obtain ⟨_, -, _, -, _, -, _, -, made, opened, same⟩ := read
    obtain ⟨rfl, -⟩ := Prod.mk.inj (Option.some.inj same)
    exact sound.openListed opened
  next =>
    simp only [Option.bind_eq_bind, Option.bind_eq_some_iff] at read
    obtain ⟨_, -, _, -, _, -, made, opened, same⟩ := read
    obtain ⟨rfl, -⟩ := Prod.mk.inj (Option.some.inj same)
    exact sound.openTable opened

theorem sound_entry (sound : b.Sound) (read : entry b cs = some (b', rest)) : b'.Sound := by
  simp only [entry, Option.bind_eq_bind, Option.bind_eq_some_iff] at read
  obtain ⟨_, -, _, -, ⟨v, _⟩, item, _, -, made, added, same⟩ := read
  obtain ⟨rfl, -⟩ := Prod.mk.inj (Option.some.inj same)
  exact sound.add ((soundWithin _).value _ _ _ _ item) added

theorem sound_lines {fuel : Nat} (sound : b.Sound) (read : lines fuel b cs = some es) :
    es.Sound := by
  induction fuel generalizing b cs with
  | zero => simp [lines] at read
  | succ fuel ih =>
    rw [lines.eq_def] at read
    dsimp only at read
    split at read
    next => exact sound.finish read
    next =>
      obtain ⟨rest, -, read⟩ := Option.bind_eq_some_iff.mp read
      exact ih sound read
    next =>
      obtain ⟨⟨b', rest⟩, opened, read⟩ := Option.bind_eq_some_iff.mp read
      exact ih (sound_header sound opened) read
    next =>
      split at read
      next => exact ih sound read
      next =>
        obtain ⟨⟨b', rest⟩, added, read⟩ := Option.bind_eq_some_iff.mp read
        exact ih (sound_entry sound added) read

theorem sound_of_parse {s : String} (parsed : parse? s = some es) : es.Sound :=
  sound_lines ⟨.nil, .nil⟩ parsed

/-- The same but for the order of entries and the way in which tables are written. -/
inductive Item.Alike : Item → Item → Prop
  | same (x : Item) : Alike x x
  | array {xs xs' : List Item} (length : xs.length = xs'.length)
      (each : ∀ (i : Nat) (x x' : Item), xs[i]? = some x → xs'[i]? = some x' → Alike x x') :
      Alike (.array xs) (.array xs')
  | table {inline inline' : Bool} {origin origin' : Origin} {es es' : Entries}
      (keys : ∀ k, k ∈ es.keys ↔ k ∈ es'.keys)
      (each : ∀ k v v', (k, v) ∈ es → (k, v') ∈ es' → Alike v v') :
      Alike (.table inline origin es) (.table inline' origin' es')
  | tables {xs xs' : List Item} (length : xs.length = xs'.length)
      (each : ∀ (i : Nat) (x x' : Item), xs[i]? = some x → xs'[i]? = some x' → Alike x x') :
      Alike (.tables xs) (.tables xs')

structure Entries.Alike (es es' : Entries) : Prop where
  keys : ∀ k, k ∈ es.keys ↔ k ∈ es'.keys
  each : ∀ k v v', (k, v) ∈ es → (k, v') ∈ es' → v.Alike v'

theorem Item.Alike.of_entries {inline inline' : Bool} {origin origin' : Origin} {es es' : Entries}
    (alike : es.Alike es') :
    Item.Alike (.table inline origin es) (.table inline' origin' es') :=
  .table alike.keys alike.each

def Item.isPlain : Item → Bool
  | .array _ | .table .. | .tables _ => false
  | _ => true

def Item.isTable : Item → Bool
  | .table .. => true
  | _ => false

theorem Item.Alike.eq_of_isPlain {x y : Item} (alike : x.Alike y) (plain : x.isPlain = true) :
    y = x := by
  cases alike with
  | same => rfl
  | array | table | tables => simp [isPlain] at plain

theorem Item.Alike.isTable {x y : Item} (alike : x.Alike y) : y.isTable = x.isTable := by
  cases alike <;> rfl

namespace Entries

def sub (k : String) (es : Entries) : Entries :=
  match es.get? k with
  | some (.table _ _ entries) => entries
  | _ => []

variable {es es' : Entries} {k : String} {v v' : Item}

theorem sub_of_get? {inline : Bool} {origin : Origin}
    (found : es.get? k = some (.table inline origin es')) : es.sub k = es' := by
  rw [sub, found]

theorem sub_of_none (missing : es.get? k = none) : es.sub k = [] := by
  rw [sub, missing]

theorem sub_of_isTable (found : es.get? k = some v) (plain : v.isTable = false) :
    es.sub k = [] := by
  rw [sub, found]
  cases v <;> first | rfl | simp [Item.isTable] at plain

theorem Sound.sub (sound : es.Sound) (k : String) : (es.sub k).Sound := by
  rw [Entries.sub]
  split
  next found => exact Item.sound_table.mp (sound.get? found)
  next => exact .nil

namespace Alike

theorem refl (distinct : es.keys.Nodup) : es.Alike es := by
  refine ⟨fun _ => Iff.rfl, fun k v v' here there => ?_⟩
  have found := get?_of_mem distinct here
  obtain rfl := Option.some.inj (found.symm.trans (get?_of_mem distinct there))
  exact .same v

theorem of_perm (perm : es.Perm es') (distinct : es.keys.Nodup) : es.Alike es' := by
  refine ⟨fun k => (perm.map _).mem_iff, fun k v v' here there => ?_⟩
  exact (refl distinct).each k v v' here (perm.mem_iff.mpr there)

theorem of_get? (distinct : es'.keys.Nodup) (keys : es.keys.Perm es'.keys)
    (each : ∀ e ∈ es, ∀ v, es'.get? e.1 = some v → e.2.Alike v) : es.Alike es' := by
  refine ⟨fun k => keys.mem_iff, fun k v v' here there => ?_⟩
  exact each _ here v' (get?_of_mem distinct there)

theorem get?_eq_some (alike : es.Alike es') (found : es'.get? k = some v') :
    ∃ v, es.get? k = some v ∧ v.Alike v' := by
  obtain ⟨v, here⟩ := mem_keys.mp ((alike.keys k).mpr (mem_keys.mpr ⟨v', found⟩))
  exact ⟨v, here, alike.each k v v' (mem_of_get? here) (mem_of_get? found)⟩

theorem sub (alike : es.Alike es') (distinct : (es.sub k).keys.Nodup) :
    (es.sub k).Alike (es'.sub k) := by
  cases found : es'.get? k with
  | none =>
    have missing : es.get? k = none := by
      rw [Entries.get?_eq_none] at found ⊢
      rwa [alike.keys]
    rw [sub_of_none found, sub_of_none missing]
    exact refl List.nodup_nil
  | some v' =>
    obtain ⟨v, here, same⟩ := alike.get?_eq_some found
    cases same with
    | same =>
      rw [show es'.sub k = es.sub k by rw [Entries.sub, Entries.sub, found, here]]
      exact refl distinct
    | table keys each =>
      rw [sub_of_get? found, sub_of_get? here]
      exact ⟨keys, each⟩
    | array | tables =>
      rw [sub_of_isTable found rfl, sub_of_isTable here rfl]
      exact refl List.nodup_nil

end Alike

end Entries

end Framecast.Toml
