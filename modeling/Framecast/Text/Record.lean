set_option autoImplicit false

namespace Framecast.Record

def field (f : String × String) : String := f.1 ++ ": " ++ f.2

def fields (fs : List (String × String)) : String := ", ".intercalate (fs.map field)

def text (name : String) (fs : List (String × String)) : String :=
  name ++ " \x7b " ++ fields fs ++ " \x7d"

def openText (name : String) (fs : List (String × String)) : String :=
  name ++ " \x7b " ++ fields fs ++ ", .. \x7d"

def flag (b : Bool) : String := if b then "true" else "false"

def optional : Option String → String
  | none => "None"
  | some s => "Some(" ++ s ++ ")"

def list (xs : List String) : String := "[" ++ ", ".intercalate xs ++ "]"

end Framecast.Record
