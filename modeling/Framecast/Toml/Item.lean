import Framecast.Decimal.Binary

set_option autoImplicit false

namespace Framecast.Toml

inductive FloatValue where
  | finite (negative : Bool) (magnitude : Decimal.Binary)
  | infinite (negative : Bool)
  | nan
  deriving DecidableEq, Repr

-- how a table came to be in its document
inductive Origin where
  -- by a header or as a value
  | written
  -- on the way of a longer header
  | implied
  -- on the way of a dotted key
  | dotted
  deriving DecidableEq, Repr

inductive Item where
  | text (s : String)
  | integer (n : Int)
  | float (x : FloatValue)
  | boolean (b : Bool)
  | dateTime
  | array (xs : List Item)
  | table (inline : Bool) (origin : Origin) (entries : List (String × Item))
  -- an array of tables written with double brackets
  | tables (xs : List Item)
  deriving Repr, Inhabited

abbrev Entries := List (String × Item)

namespace Entries

def get? (k : String) : Entries → Option Item
  | [] => none
  | (j, v) :: es => if j = k then some v else get? k es

def replace (k : String) (v : Item) : Entries → Entries
  | [] => []
  | (j, w) :: es => if j = k then (j, v) :: es else (j, w) :: replace k v es

def remove (k : String) : Entries → Entries
  | [] => []
  | (j, w) :: es => if j = k then es else (j, w) :: remove k es

def keys (es : Entries) : List String := es.map (·.1)

@[simp] theorem keys_replace (k : String) (v : Item) (es : Entries) :
    keys (replace k v es) = keys es := by
  induction es with
  | nil => rfl
  | cons e es ih =>
    obtain ⟨j, w⟩ := e
    by_cases h : j = k
    · simp [replace, h, keys]
    · simpa [replace, h, keys] using ih

end Entries

end Framecast.Toml
