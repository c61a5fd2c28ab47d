import Framecast.Config.Basic
import Framecast.Decimal.Shortest
import Framecast.Endpoint.Parser
import Framecast.Text.Quoted
import Framecast.Toml.Item

/-!
How a document becomes a configuration: each structure has its fields in order, each field a reader
for its value, and a field that is not written keeps its default.
-/

set_option autoImplicit false

namespace Framecast.Config

open Toml (Item Entries)

inductive DecodeError where
  | unknownField (name : String) (known : List String)
  | unknownVariant (name : String) (known : List String)
  | invalidType (found : Item) (expected : String)
  | outOfRange (n : Int) (expected : String)
  | address (e : Endpoint.SyntaxError)
  -- a choice that is neither a name nor a table with one name in it
  | malformedChoice

namespace DecodeError

def tick (s : String) : String := "`" ++ s ++ "`"

def oneOf : List String → String
  | [a, b] => tick a ++ " or " ++ tick b
  | names => "one of " ++ ", ".intercalate (names.map tick)

def floatText : Toml.FloatValue → String
  | .nan => "NaN"
  | .infinite negative => if negative then "-inf" else "inf"
  | .finite negative magnitude =>
    (if negative then "-" else "") ++ String.ofList (Decimal.shortest magnitude).positional

def found : Item → String
  | .text s => "string " ++ Text.quoted s
  | .integer n => "integer " ++ tick (Numeral.signed n)
  | .float x => "floating point " ++ tick (floatText x)
  | .boolean b => "boolean " ++ tick (if b then "true" else "false")
  | .dateTime => "map"
  | .array _ => "sequence"
  | .table .. => "map"
  | .tables _ => "sequence"

def message? : DecodeError → Option String
  | .unknownField name known =>
    some ("unknown field " ++ tick name ++ ", expected " ++ oneOf known)
  | .unknownVariant name known =>
    some ("unknown variant " ++ tick name ++ ", expected " ++ oneOf known)
  | .invalidType item expected =>
    some ("invalid type: " ++ found item ++ ", expected " ++ expected)
  | .outOfRange n expected =>
    some ("invalid value: integer " ++ tick (Numeral.signed n) ++ ", expected " ++ expected)
  | .address e => some e.message
  | .malformedChoice => none

end DecodeError

abbrev Decoder (α : Type) := Item → Except DecodeError α

def wholeNumber (limit : Nat) (expected : String) : Decoder Nat
  | .integer n =>
    if 0 ≤ n ∧ n ≤ limit then .ok n.toNat else .error (.outOfRange n expected)
  | item => .error (.invalidType item expected)

def word32 : Decoder UInt32 := fun item =>
  (wholeNumber (UInt32.size - 1) "u32" item).map Nat.toUInt32

def word64 : Decoder UInt64 := fun item =>
  (wholeNumber (UInt64.size - 1) "u64" item).map Nat.toUInt64

def size : Decoder UInt64 := fun item =>
  (wholeNumber (UInt64.size - 1) "usize" item).map Nat.toUInt64

def endpoint : Decoder Endpoint
  | .text s =>
    match Endpoint.parse? s with
    | some e => .ok e
    | none => .error (.address ⟨⟩)
  | item => .error (.invalidType item "socket address")

def isVoid : Item → Bool
  | .table _ _ es => es.isEmpty
  | .array xs => xs.isEmpty
  | .tables xs => xs.isEmpty
  | _ => false

def named {α : Type} (choices : List (String × α)) (name : String) : Except DecodeError α :=
  match choices.lookup name with
  | some a => .ok a
  | none => .error (.unknownVariant name (choices.map (·.1)))

-- one of several names, as a text or as the only key of a table with nothing in it
def choice {α : Type} (choices : List (String × α)) : Decoder α
  | .text s => named choices s
  | .table _ _ [(name, item)] => do
    let a ← named choices name
    if isVoid item then return a else throw .malformedChoice
  | _ => .error .malformedChoice

/-- One field of a structure: its name, and how its value is read into the structure. -/
structure Field (σ : Type) where
  name : String
  set : Item → σ → Except DecodeError σ

def Field.of {σ α : Type} (name : String) (read : Decoder α) (put : α → σ → σ) : Field σ where
  name := name
  set item s := (read item).map fun a => put a s

/-- A structure: what it is called, its fields in order, and whether others are let pass. -/
structure Schema (σ : Type) where
  expected : String
  fields : List (Field σ)
  lenient : Bool
  initial : σ

-- the key under which a date or time shows when it is read as a table
def dateTimeKey : String := "$__toml_private_datetime"

namespace Schema

variable {σ : Type}

def names (schema : Schema σ) : List String := schema.fields.map (·.name)

def entry (schema : Schema σ) (s : σ) (e : String × Item) : Except DecodeError σ :=
  match schema.fields.find? (·.name == e.1) with
  | some f => f.set e.2 s
  | none => if schema.lenient then .ok s else .error (.unknownField e.1 schema.names)

def ofEntries (schema : Schema σ) (es : Entries) : Except DecodeError σ :=
  es.foldlM schema.entry schema.initial

-- reads values for the fields in their order; missing ones keep their defaults
def ofValues (schema : Schema σ) (xs : List Item) : Except DecodeError σ :=
  (schema.fields.zip xs).foldlM (fun s p => p.1.set p.2 s) schema.initial

def decode (schema : Schema σ) : Decoder σ
  | .table _ _ es => schema.ofEntries es
  | .array xs => schema.ofValues xs
  | .tables xs => schema.ofValues xs
  | .dateTime => schema.ofEntries [(dateTimeKey, .dateTime)]
  | item => .error (.invalidType item schema.expected)

end Schema

def variants : List (String × Variant) :=
  [("simple-buffer", .simpleBuffer), ("frame-producing", .frameProducing)]

def patterns : List (String × Pattern) := [("gradient", .gradient), ("text", .text)]

def geometrySchema : Schema Geometry where
  expected := "struct FrameGeometry"
  fields :=
    [.of "width" word32 fun w g => { g with width := w },
     .of "height" word32 fun h g => { g with height := h },
     .of "bytes_per_sample" word32 fun b g => { g with bytesPerSample := b }]
  lenient := true
  initial := .vga

def deviceSchema : Schema DeviceConfig where
  expected := "struct DeviceConfig"
  fields :=
    [.of "kind" (choice variants) fun v c => { c with variant := v },
     .of "geometry" geometrySchema.decode fun g c => { c with geometry := g },
     .of "pattern" (choice patterns) fun p c => { c with pattern := p },
     .of "period_ms" word64 fun n c => { c with period := ⟨n⟩ },
     .of "buffers" size fun n c => { c with buffers := n },
     .of "capacity" size fun n c => { c with capacity := n }]
  lenient := false
  initial := {}

def relaySchema : Schema RelayConfig where
  expected := "struct RelayConfig"
  fields :=
    [.of "bind" endpoint fun e c => { c with bind := e },
     .of "frame_budget" word64 fun n c => { c with frameBudget := n },
     .of "poll_interval_ms" word64 fun n c => { c with pollInterval := ⟨n⟩ },
     .of "send_buffer_size" size fun n c => { c with sendBufferSize := some n }]
  lenient := false
  initial := {}

def schema : Schema Config where
  expected := "struct Config"
  fields :=
    [.of "device" deviceSchema.decode fun d c => { c with device := d },
     .of "relay" relaySchema.decode fun r c => { c with relay := r }]
  lenient := false
  initial := {}

end Framecast.Config
