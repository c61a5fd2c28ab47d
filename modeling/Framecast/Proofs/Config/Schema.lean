import Framecast.Config.Schema
import Framecast.Proofs.Toml.Documents
import Mathlib

set_option autoImplicit false

namespace Framecast

namespace Toml.Entries

def Each (es : Entries) (k : String) (P : Item → Prop) : Prop := ∀ v, es.get? k = some v → P v

/-- The value `a` is what is written under the key, or the default if nothing is. -/
structure Gives {α : Type} (es : Entries) (k : String) (reads : Item → α → Prop) (default a : α) :
    Prop where
  written : es.Each k fun v => reads v a
  unwritten : es.get? k = none → a = default

namespace Gives

variable {α : Type} {es es' : Entries} {k : String} {reads reads' : Item → α → Prop}
variable {default a b : α}

theorem imp {R : Item → Prop} (gives : es.Gives k reads default a) (given : es.Each k R)
    (weaker : ∀ v, R v → reads v a → reads' v a) : es.Gives k reads' default a :=
  ⟨fun v found => weaker v (given v found) (gives.written v found), gives.unwritten⟩

theorem unique (gives : es.Gives k reads default a) (gives' : es.Gives k reads default b)
    (functional : ∀ v, reads v a → reads v b → a = b) : a = b := by
  cases found : es.get? k with
  | none => rw [gives.unwritten found, gives'.unwritten found]
  | some v => exact functional v (gives.written v found) (gives'.written v found)

theorem alike (gives : es.Gives k reads default a) (alike : es.Alike es')
    (plain : ∀ v, reads v a → v.isPlain = true) : es'.Gives k reads default a := by
  constructor
  · intro v' found'
    obtain ⟨v, found, same⟩ := alike.get?_eq_some found'
    have read := gives.written v found
    rwa [same.eq_of_isPlain (plain v read)]
  · intro missing
    rw [Entries.get?_eq_none, ← alike.keys, ← Entries.get?_eq_none] at missing
    exact gives.unwritten missing

end Gives

theorem Each.alike {es es' : Entries} {k : String} {P : Item → Prop} (each : es.Each k P)
    (alike : es.Alike es') (plain : ∀ v, P v → v.isPlain = true) : es'.Each k P := by
  intro v' found'
  obtain ⟨v, found, same⟩ := alike.get?_eq_some found'
  have holds := each v found
  rwa [same.eq_of_isPlain (plain v holds)]

theorem Each.isTable_alike {es es' : Entries} {k : String}
    (tables : es.Each k fun v => v.isTable = true) (alike : es.Alike es') :
    es'.Each k fun v => v.isTable = true := by
  intro v' found'
  obtain ⟨v, found, same⟩ := alike.get?_eq_some found'
  rw [same.isTable, tables v found]

theorem Each.congr {es : Entries} {k : String} {P Q R : Item → Prop} (given : es.Each k R)
    (same : ∀ v, R v → (P v ↔ Q v)) : es.Each k P ↔ es.Each k Q :=
  forall₂_congr fun v found => same v (given v found)

theorem Sound.each_sound {es : Entries} (sound : es.Sound) (k : String) : es.Each k Item.Sound :=
  fun _ found => sound.get? found

theorem sub_cases {es : Entries} {k : String} (tables : es.Each k fun v => v.isTable = true) :
    (es.get? k = none ∧ es.sub k = []) ∨
      ∃ inline origin, es.get? k = some (.table inline origin (es.sub k)) := by
  cases found : es.get? k with
  | none => exact .inl ⟨rfl, sub_of_none found⟩
  | some v =>
    have table := tables v found
    cases v with
    | table inline origin entries => exact .inr ⟨inline, origin, by rw [sub_of_get? found]⟩
    | _ => simp [Item.isTable] at table

end Toml.Entries

def Variant.spelling : Variant → String
  | .simpleBuffer => "simple-buffer"
  | .frameProducing => "frame-producing"

def Pattern.spelling : Pattern → String
  | .gradient => "gradient"
  | .text => "text"

theorem Variant.spelling_injective {a b : Variant} (same : a.spelling = b.spelling) : a = b := by
  cases a <;> cases b <;> simp_all [spelling]

theorem Pattern.spelling_injective {a b : Pattern} (same : a.spelling = b.spelling) : a = b := by
  cases a <;> cases b <;> simp_all [spelling]

namespace Config

open Toml (Item Entries)

variable {σ α : Type}

-- whether a value is accepted depends on nothing that was read before
def Field.Even (f : Field σ) : Prop :=
  ∀ v s t s', f.set v s = .ok s' → ∃ t', f.set v t = .ok t'

def Field.Keeps (f : Field σ) (get : σ → α) : Prop :=
  ∀ v s s', f.set v s = .ok s' → get s' = get s

@[simp] theorem Field.name_of (name : String) (read : Decoder α) (put : α → σ → σ) :
    (Field.of name read put).name = name := rfl

theorem Field.set_of {name : String} {read : Decoder α} {put : α → σ → σ} {v : Item} {s s' : σ} :
    (Field.of name read put).set v s = .ok s' ↔ ∃ a, read v = .ok a ∧ put a s = s' := by
  simp only [Field.of]
  cases read v <;> simp [Except.map]

@[simp] theorem Field.exists_set_of {name : String} {read : Decoder α} {put : α → σ → σ} {v : Item}
    {s : σ} : (∃ s', (Field.of name read put).set v s = .ok s') ↔ ∃ a, read v = .ok a := by
  simp only [Field.set_of]
  exact ⟨fun ⟨_, a, read, _⟩ => ⟨a, read⟩, fun ⟨a, read⟩ => ⟨put a s, a, read, rfl⟩⟩

@[simp] theorem Field.even_of (name : String) (read : Decoder α) (put : α → σ → σ) :
    (Field.of name read put).Even := by
  intro v s t s' set
  exact Field.exists_set_of.mpr (Field.exists_set_of.mp ⟨s', set⟩)

@[simp] theorem Field.keeps_of {β : Type} (name : String) (read : Decoder α) (put : α → σ → σ)
    {get : σ → β} (apart : ∀ a s, get (put a s) = get s) : (Field.of name read put).Keeps get := by
  intro v s s' set
  obtain ⟨a, -, rfl⟩ := Field.set_of.mp set
  exact apart a s

namespace Schema

variable {schema : Schema σ} {f : Field σ} {es : Entries} {s s' : σ} {k : String} {v : Item}

structure Regular (schema : Schema σ) : Prop where
  unique : schema.names.Nodup
  even : ∀ f ∈ schema.fields, f.Even

theorem find?_of_mem {fields : List (Field σ)} (unique : (fields.map (·.name)).Nodup)
    (member : f ∈ fields) : fields.find? (·.name == f.name) = some f := by
  induction fields with
  | nil => simp at member
  | cons g fields ih =>
    obtain ⟨new, unique⟩ := List.nodup_cons.mp unique
    rcases List.mem_cons.mp member with rfl | later
    · simp
    · have other : g.name ≠ f.name := fun same => new (List.mem_map.mpr ⟨f, later, same.symm⟩)
      rw [List.find?_cons_of_neg (by simpa using other)]
      exact ih unique later

theorem entry_of_mem (unique : schema.names.Nodup) (member : f ∈ schema.fields) (s : σ) (v : Item) :
    schema.entry s (f.name, v) = f.set v s := by
  simp only [entry, find?_of_mem unique member]

theorem entry_of_unknown (unknown : k ∉ schema.names) (s : σ) (v : Item) :
    schema.entry s (k, v) =
      if schema.lenient then .ok s else .error (.unknownField k schema.names) := by
  have none : schema.fields.find? (·.name == k) = none := by
    refine List.find?_eq_none.mpr fun f member => ?_
    rw [beq_iff_eq]
    rintro rfl
    exact unknown (List.mem_map_of_mem member)
  simp only [entry, none]

theorem Regular.entry_even (regular : schema.Regular) {e : String × Item} (t : σ)
    (read : schema.entry s e = .ok s') : ∃ t', schema.entry t e = .ok t' := by
  obtain ⟨k, v⟩ := e
  by_cases known : k ∈ schema.names
  · obtain ⟨f, member, rfl⟩ := List.mem_map.mp known
    rw [entry_of_mem regular.unique member] at read ⊢
    exact regular.even f member v s t s' read
  · rw [entry_of_unknown known] at read ⊢
    split at read
    next lenient => exact ⟨t, if_pos lenient⟩
    next => simp at read

theorem Regular.foldlM_iff (regular : schema.Regular) (s t : σ) :
    (∃ s', es.foldlM schema.entry s = .ok s') ↔ ∀ e ∈ es, ∃ t', schema.entry t e = .ok t' := by
  induction es generalizing s with
  | nil => simp [pure, Except.pure]
  | cons e es ih =>
    rw [List.foldlM_cons, List.forall_mem_cons]
    cases first : schema.entry s e with
    | error problem =>
      have refused : ¬∃ t', schema.entry t e = .ok t' := by
        rintro ⟨t', read⟩
        obtain ⟨s', read'⟩ := regular.entry_even s read
        simp [first] at read'
      simp [refused, bind, Except.bind]
    | ok s₁ =>
      simp only [bind, Except.bind, ih s₁]
      exact ⟨fun later => ⟨regular.entry_even t first, later⟩, And.right⟩

/-- A table is accepted if its keys are known and its values are, each by itself. -/
theorem Regular.accepts_iff (regular : schema.Regular) (distinct : es.keys.Nodup) :
    (∃ s, schema.ofEntries es = .ok s) ↔
      (schema.lenient = true ∨ ∀ k ∈ es.keys, k ∈ schema.names) ∧
        ∀ f ∈ schema.fields, es.Each f.name fun v => ∃ s, f.set v schema.initial = .ok s := by
  rw [ofEntries, regular.foldlM_iff schema.initial schema.initial]
  constructor
  · intro accepted
    constructor
    · cases lenient : schema.lenient with
      | true => exact .inl rfl
      | false =>
        refine .inr fun k member => Classical.byContradiction fun unknown => ?_
        obtain ⟨v, found⟩ := Entries.mem_keys.mp member
        obtain ⟨t, read⟩ := accepted _ (Entries.mem_of_get? found)
        simp [entry_of_unknown unknown, lenient] at read
    · intro f member v found
      have read := accepted _ (Entries.mem_of_get? found)
      rwa [entry_of_mem regular.unique member] at read
  · rintro ⟨known, fields⟩ ⟨k, v⟩ member
    by_cases named : k ∈ schema.names
    · obtain ⟨f, there, rfl⟩ := List.mem_map.mp named
      rw [entry_of_mem regular.unique there]
      exact fields f there v (Entries.get?_of_mem distinct member)
    · have lenient : schema.lenient = true :=
        known.resolve_right fun all => named (all k (List.mem_map_of_mem member))
      exact ⟨schema.initial, by rw [entry_of_unknown named, if_pos lenient]⟩

/-- Part of a structure that one field alone writes, and what it has to do with the value there. -/
structure Part (schema : Schema σ) (name : String) (reads : Item → α → Prop) (get : σ → α) :
    Prop where
  own : ∃ f ∈ schema.fields, f.name = name ∧ ∀ v s s', f.set v s = .ok s' → reads v (get s')
  other : ∀ f ∈ schema.fields, f.name ≠ name → f.Keeps get

theorem part_of {β : Type} {name : String} {read : Decoder β} {put : β → σ → σ}
    {reads : Item → α → Prop} {get : σ → α} {i : Nat}
    (at_i : schema.fields[i]? = some (.of name read put))
    (written : ∀ v b s, read v = .ok b → reads v (get (put b s)))
    (other : ∀ f ∈ schema.fields, f.name ≠ name → f.Keeps get) : schema.Part name reads get := by
  refine ⟨⟨_, List.mem_of_getElem? at_i, rfl, fun v s s' set => ?_⟩, other⟩
  obtain ⟨b, read, rfl⟩ := Field.set_of.mp set
  exact written v b s read

theorem Part.gives {name : String} {reads : Item → α → Prop} {get : σ → α}
    (part : schema.Part name reads get) (regular : schema.Regular) (distinct : es.keys.Nodup)
    (decoded : es.foldlM schema.entry s = .ok s') : es.Gives name reads (get s) (get s') := by
  induction es generalizing s with
  | nil =>
    obtain rfl := Except.ok.inj decoded
    exact ⟨by simp [Entries.Each, Entries.get?], fun _ => rfl⟩
  | cons e es ih =>
    obtain ⟨k, v⟩ := e
    obtain ⟨new, distinct⟩ := List.nodup_cons.mp distinct
    rw [List.foldlM_cons] at decoded
    cases first : schema.entry s (k, v) with
    | error problem => simp [first, bind, Except.bind] at decoded
    | ok s₁ =>
      rw [first] at decoded
      have later := ih distinct decoded
      by_cases own : k = name
      · -- the entry of the part: there is none after it
        subst own
        obtain ⟨f, member, rfl, written⟩ := part.own
        rw [entry_of_mem regular.unique member] at first
        have kept := later.unwritten (Entries.get?_eq_none.mpr new)
        refine ⟨?_, by simp [Entries.get?]⟩
        simpa [Entries.Each, Entries.get?, kept] using written v s s₁ first
      · have kept : get s₁ = get s := by
          by_cases known : k ∈ schema.names
          · obtain ⟨f, member, rfl⟩ := List.mem_map.mp known
            rw [entry_of_mem regular.unique member] at first
            exact part.other f member own v s s₁ first
          · rw [entry_of_unknown known] at first
            split at first
            next => rw [Except.ok.inj first]
            next => simp at first
        rw [kept] at later
        exact ⟨by simpa [Entries.Each, Entries.get?, own] using later.written,
          by simpa [Entries.get?, own] using later.unwritten⟩

end Schema

theorem wholeNumber_eq_ok {limit n : Nat} {expected : String} {v : Item} :
    wholeNumber limit expected v = .ok n ↔ v = .integer n ∧ n ≤ limit := by
  cases v with
  | integer m =>
    rw [wholeNumber]
    split
    next inside =>
      rw [Except.ok.injEq, Item.integer.injEq]
      omega
    next outside =>
      simp only [reduceCtorEq, Item.integer.injEq, false_iff, not_and]
      omega
  | _ => simp [wholeNumber]

theorem map_wholeNumber_eq_ok {limit : Nat} {expected : String} {make : Nat → α} {val : α → Nat}
    (val_make : ∀ n, n ≤ limit → val (make n) = n) (make_val : ∀ a, make (val a) = a)
    (bound : ∀ a, val a ≤ limit) {v : Item} {a : α} :
    (wholeNumber limit expected v).map make = .ok a ↔ v = .integer (val a) := by
  have made : (wholeNumber limit expected v).map make = .ok a ↔
      ∃ n, wholeNumber limit expected v = .ok n ∧ make n = a := by
    cases wholeNumber limit expected v <;> simp [Except.map]
  simp only [made, wholeNumber_eq_ok]
  constructor
  · rintro ⟨n, ⟨rfl, inside⟩, rfl⟩
    rw [val_make n inside]
  · rintro rfl
    exact ⟨val a, ⟨rfl, bound a⟩, make_val a⟩

theorem word32_eq_ok {v : Item} {n : UInt32} : word32 v = .ok n ↔ v = .integer n.toNat :=
  map_wholeNumber_eq_ok
    (fun _ inside => UInt32.toNat_ofNat_of_lt' (Nat.lt_of_le_pred (by decide) inside))
    (fun _ => UInt32.ofNat_toNat) fun n => Nat.le_pred_of_lt n.toNat_lt

theorem map_toUInt64_eq_ok {expected : String} {v : Item} {n : UInt64} :
    (wholeNumber (UInt64.size - 1) expected v).map Nat.toUInt64 = .ok n ↔ v = .integer n.toNat :=
  map_wholeNumber_eq_ok
    (fun _ inside => UInt64.toNat_ofNat_of_lt' (Nat.lt_of_le_pred (by decide) inside))
    (fun _ => UInt64.ofNat_toNat) fun n => Nat.le_pred_of_lt n.toNat_lt

theorem word64_eq_ok {v : Item} {n : UInt64} : word64 v = .ok n ↔ v = .integer n.toNat :=
  map_toUInt64_eq_ok

theorem size_eq_ok {v : Item} {n : UInt64} : size v = .ok n ↔ v = .integer n.toNat :=
  map_toUInt64_eq_ok

theorem endpoint_eq_ok {v : Item} {e : Endpoint} :
    endpoint v = .ok e ↔ ∃ s, v = .text s ∧ Endpoint.parse? s = some e := by
  cases v with
  | text s =>
    rw [endpoint]
    split <;> simp [*]
  | _ => simp [endpoint]

theorem choice_text_eq_ok {choices : List (String × α)} {s : String} {a : α} :
    choice choices (.text s) = .ok a ↔ choices.lookup s = some a := by
  rw [choice, named]
  split <;> simp [*]

def IsWord (v : Item) : Prop := ∃ n : Int, v = .integer n ∧ 0 ≤ n ∧ n ≤ 4294967295

def IsWhole (v : Item) : Prop := ∃ n : Int, v = .integer n ∧ 0 ≤ n

theorem exists_word32 {v : Item} : (∃ n, word32 v = .ok n) ↔ IsWord v := by
  simp only [word32_eq_ok]
  constructor
  · rintro ⟨n, rfl⟩
    have below := n.toNat_lt
    exact ⟨n.toNat, rfl, by omega, by omega⟩
  · rintro ⟨n, rfl, low, high⟩
    have same : (UInt32.ofNat n.toNat).toNat = n.toNat :=
      UInt32.toNat_ofNat_of_lt' (by simp [UInt32.size]; omega)
    refine ⟨UInt32.ofNat n.toNat, ?_⟩
    rw [same, Int.toNat_of_nonneg low]

theorem exists_toNat_iff_isWhole {v : Item} (sound : v.Sound) :
    (∃ n : UInt64, v = .integer n.toNat) ↔ IsWhole v := by
  constructor
  · rintro ⟨n, rfl⟩
    exact ⟨n.toNat, rfl, by omega⟩
  · rintro ⟨n, rfl, low⟩
    cases sound with
    | integer _ high =>
      rw [Toml.largest] at high
      have same : (UInt64.ofNat n.toNat).toNat = n.toNat :=
        UInt64.toNat_ofNat_of_lt' (by simp [UInt64.size]; omega)
      refine ⟨UInt64.ofNat n.toNat, ?_⟩
      rw [same, Int.toNat_of_nonneg low]

theorem exists_word64 {v : Item} (sound : v.Sound) : (∃ n, word64 v = .ok n) ↔ IsWhole v := by
  simp only [word64_eq_ok, exists_toNat_iff_isWhole sound]

theorem exists_size {v : Item} (sound : v.Sound) : (∃ n, size v = .ok n) ↔ IsWhole v := by
  simp only [size_eq_ok, exists_toNat_iff_isWhole sound]

theorem choice_variants_eq_ok {v : Item} {a : Variant} (text : ∃ s, v = .text s) :
    choice variants v = .ok a ↔ v = .text a.spelling := by
  obtain ⟨s, rfl⟩ := text
  rw [choice_text_eq_ok]
  by_cases simple : s = "simple-buffer"
  · cases a <;> simp [simple, variants, Variant.spelling]
  by_cases frames : s = "frame-producing"
  · cases a <;> simp [frames, variants, Variant.spelling, List.lookup]
  have unknown : variants.lookup s = none := by
    simp [variants, List.lookup, beq_false_of_ne simple, beq_false_of_ne frames]
  cases a <;> simp [unknown, simple, frames, Variant.spelling]

theorem choice_patterns_eq_ok {v : Item} {a : Pattern} (text : ∃ s, v = .text s) :
    choice patterns v = .ok a ↔ v = .text a.spelling := by
  obtain ⟨s, rfl⟩ := text
  rw [choice_text_eq_ok]
  by_cases gradient : s = "gradient"
  · cases a <;> simp [gradient, patterns, Pattern.spelling]
  by_cases text : s = "text"
  · cases a <;> simp [text, patterns, Pattern.spelling, List.lookup]
  have unknown : patterns.lookup s = none := by
    simp [patterns, List.lookup, beq_false_of_ne gradient, beq_false_of_ne text]
  cases a <;> simp [unknown, gradient, text, Pattern.spelling]

theorem word32_unique {v : Item} {m n : UInt32} (read : v = .integer m.toNat)
    (read' : v = .integer n.toNat) : m = n := by
  rw [read, Item.integer.injEq, Int.natCast_inj] at read'
  exact UInt32.toNat_inj.mp read'

theorem word64_unique {v : Item} {m n : UInt64} (read : v = .integer m.toNat)
    (read' : v = .integer n.toNat) : m = n := by
  rw [read, Item.integer.injEq, Int.natCast_inj] at read'
  exact UInt64.toNat_inj.mp read'

theorem isPlain_integer {v : Item} {n : Int} (read : v = .integer n) : v.isPlain = true := by
  rw [read]
  rfl

theorem isPlain_text {v : Item} {s : String} (read : v = .text s) : v.isPlain = true := by
  rw [read]
  rfl

section Tables

variable {es : Entries} {k : String} {inner : Schema σ}

theorem each_decode_iff (tables : es.Each k fun v => v.isTable = true) :
    (es.Each k fun v => ∃ a, inner.decode v = .ok a) ↔
      ∃ a, inner.ofEntries (es.sub k) = .ok a := by
  obtain ⟨missing, none⟩ | ⟨inline, origin, found⟩ := Entries.sub_cases tables
  · simp only [Entries.Each, missing, none]
    exact ⟨fun _ => ⟨inner.initial, rfl⟩, by simp⟩
  · simp only [Entries.Each, found, Option.some.injEq, forall_eq']
    rfl

end Tables

end Config

end Framecast
