import Framecast.Proofs.Config.Schema

set_option autoImplicit false

namespace Framecast.Config

open Toml (Item Entries)

namespace Schema

variable {σ : Type} {schema : Schema σ} {es : Entries} {k : String} {v : Item} {s : σ}

def entriesOf (schema : Schema σ) : Item → Entries
  | .table _ _ es => es
  | .array xs | .tables xs => schema.names.zip xs
  | .dateTime => [(dateTimeKey, .dateTime)]
  | _ => []

def within (schema : Schema σ) (es : Entries) (k : String) : Entries :=
  match es.get? k with
  | some v => schema.entriesOf v
  | none => []

theorem Regular.ofValues_eq (regular : schema.Regular) (xs : List Item) :
    schema.ofValues xs = schema.ofEntries (schema.names.zip xs) := by
  -- a fold over any of the fields; each is the first with its name
  have folds (fields : List (Field σ)) (inside : ∀ f ∈ fields, f ∈ schema.fields) (xs : List Item)
      (s : σ) :
      (fields.zip xs).foldlM (fun s p => p.1.set p.2 s) s =
        ((fields.map (·.name)).zip xs).foldlM schema.entry s := by
    induction fields generalizing xs s with
    | nil => rfl
    | cons f fields ih =>
      cases xs with
      | nil => rfl
      | cons x xs =>
        obtain ⟨member, inside⟩ := List.forall_mem_cons.mp inside
        simp only [List.zip_cons_cons, List.map_cons, List.foldlM_cons,
          entry_of_mem regular.unique member, ih inside]
  exact folds schema.fields (fun _ member => member) xs schema.initial

theorem Regular.ofEntries_entriesOf (regular : schema.Regular) (decoded : schema.decode v = .ok s) :
    schema.ofEntries (schema.entriesOf v) = .ok s := by
  cases v with
  | table inline origin es => exact decoded
  | array xs => exact (regular.ofValues_eq xs).symm.trans decoded
  | tables xs => exact (regular.ofValues_eq xs).symm.trans decoded
  | dateTime => exact decoded
  | _ => simp [decode] at decoded

theorem Regular.ofEntries_within (regular : schema.Regular)
    (gives : es.Gives k (fun v s => schema.decode v = .ok s) schema.initial s) :
    schema.ofEntries (schema.within es k) = .ok s := by
  rw [within]
  cases found : es.get? k with
  | none =>
    rw [gives.unwritten found]
    rfl
  | some v => exact regular.ofEntries_entriesOf (gives.written v found)

theorem keys_zip_sublist (ks : List String) (xs : List Item) :
    (Entries.keys (ks.zip xs)).Sublist ks := by
  induction ks generalizing xs with
  | nil => exact .slnil
  | cons k ks ih =>
    cases xs with
    | nil => exact List.nil_sublist _
    | cons x xs => exact (ih xs).cons_cons k

theorem Regular.sound_zip (regular : schema.Regular) {xs : List Item} (each : ∀ x ∈ xs, x.Sound) :
    Entries.Sound (schema.names.zip xs) where
  distinct := regular.unique.sublist (keys_zip_sublist _ xs)
  each _ member := each _ (List.of_mem_zip member).2

theorem Regular.sound_entriesOf (regular : schema.Regular) (sound : v.Sound) :
    (schema.entriesOf v).Sound := by
  cases sound with
  | array each => exact regular.sound_zip each
  | table distinct each => exact ⟨distinct, each⟩
  | tables each => exact regular.sound_zip each
  | dateTime => exact ⟨by simp [entriesOf, Entries.keys], by simp [entriesOf, Item.Sound.dateTime]⟩
  | _ => exact .nil

theorem Regular.sound_within (regular : schema.Regular) (sound : es.Sound) (k : String) :
    (schema.within es k).Sound := by
  rw [within]
  split
  next v found => exact regular.sound_entriesOf (sound.get? found)
  next => exact .nil

theorem within_of_isTable (tables : es.Each k fun v => v.isTable = true) :
    schema.within es k = es.sub k := by
  obtain ⟨missing, none⟩ | ⟨inline, origin, found⟩ := Entries.sub_cases tables
  · rw [within, missing, none]
  · simp only [within, found, entriesOf]

end Schema

inductive Spells : Item → String → Prop
  | text (s : String) : Spells (.text s) s
  | key {v : Item} (void : isVoid v = true) (inline : Bool) (origin : Toml.Origin) (s : String) :
    Spells (.table inline origin [(s, v)]) s

theorem choice_key_eq_ok {α : Type} {choices : List (String × α)} {inline : Bool}
    {origin : Toml.Origin} {s : String} {v : Item} {a : α} :
    choice choices (.table inline origin [(s, v)]) = .ok a ↔
      isVoid v = true ∧ choices.lookup s = some a := by
  simp only [choice, named]
  cases choices.lookup s with
  | none => simp [bind, Except.bind]
  | some b =>
    cases isVoid v <;> simp [bind, Except.bind, pure, Except.pure, throw, throwThe]

theorem choice_eq_ok {α : Type} {choices : List (String × α)} {v : Item} {a : α} :
    choice choices v = .ok a ↔ ∃ s, Spells v s ∧ choices.lookup s = some a := by
  constructor
  · intro chosen
    -- the three ways in which a choice is read
    unfold choice at chosen
    split at chosen
    next s => exact ⟨s, .text s, choice_text_eq_ok.mp chosen⟩
    next inline origin s v =>
      have chosen : choice choices (.table inline origin [(s, v)]) = .ok a := chosen
      obtain ⟨void, found⟩ := choice_key_eq_ok.mp chosen
      exact ⟨s, .key void inline origin s, found⟩
    next => simp at chosen
  · rintro ⟨s, spells, found⟩
    cases spells with
    | text => exact choice_text_eq_ok.mpr found
    | key void => exact choice_key_eq_ok.mpr ⟨void, found⟩

theorem lookup_variants_eq_some {s : String} {a : Variant} :
    variants.lookup s = some a ↔ s = a.spelling := by
  rw [← choice_text_eq_ok, choice_variants_eq_ok ⟨s, rfl⟩, Item.text.injEq]

theorem lookup_patterns_eq_some {s : String} {a : Pattern} :
    patterns.lookup s = some a ↔ s = a.spelling := by
  rw [← choice_text_eq_ok, choice_patterns_eq_ok ⟨s, rfl⟩, Item.text.injEq]

theorem choice_variants_iff_spells {v : Item} {a : Variant} :
    choice variants v = .ok a ↔ Spells v a.spelling := by
  simp [choice_eq_ok, lookup_variants_eq_some]

theorem choice_patterns_iff_spells {v : Item} {a : Pattern} :
    choice patterns v = .ok a ↔ Spells v a.spelling := by
  simp [choice_eq_ok, lookup_patterns_eq_some]

theorem eq_text_of_spells {v : Item} {s : String} (text : ∃ s, v = .text s) (spells : Spells v s) :
    v = .text s := by
  obtain ⟨s, rfl⟩ := text
  cases spells
  rfl

end Framecast.Config
