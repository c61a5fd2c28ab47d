import Framecast.Toml.Item

set_option autoImplicit false

namespace Framecast.Toml

def updateLast (f : Item → Option Item) : List Item → Option (List Item)
  | [] => none
  | [x] => (f x).map ([·])
  | x :: y :: xs => (updateLast f (y :: xs)).map (x :: ·)

/--
Applies `f` to the table at the end of a path, making the tables that are missing on the way. An
array of tables is entered at its last one.
-/
def descend (inline dotted : Bool) (f : Origin → Entries → Option Entries) :
    List String → Origin → Entries → Option Entries
  | [], origin, es => f origin es
  | k :: path, _, es =>
    match es.get? k with
    | none =>
      let origin : Origin := if dotted then .dotted else .implied
      (descend inline dotted f path origin []).map fun sub =>
        es ++ [(k, .table inline origin sub)]
    | some (.table i origin sub) =>
      if i ≠ inline then none
      else if dotted && origin == .written then none
      else
        (descend inline dotted f path origin sub).map fun sub =>
          es.replace k (.table inline origin sub)
    | some (.tables xs) =>
      (updateLast
          (fun
            | .table i origin sub =>
              (descend inline dotted f path origin sub).map (.table i origin ·)
            | _ => none)
          xs).map
        fun xs => es.replace k (.tables xs)
    | some _ => none

def addEntry (k : String) (v : Item) (es : Entries) : Option Entries :=
  match es.get? k with
  | none => some (es ++ [(k, v)])
  | some _ => none

def addDotted (inline : Bool) (path : List String) (k : String) (v : Item) (es : Entries) :
    Option Entries :=
  descend inline true
    (fun origin es => if (origin == .dotted) = path.isEmpty then none else addEntry k v es)
    path .written es

structure Builder where
  root : Entries := []
  current : Entries := []
  -- where the current table goes; nowhere for the outermost one
  place : Option (List String × String) := none
  -- whether the current table is one of an array
  listed : Bool := false

namespace Builder

def add (b : Builder) (path : List String) (k : String) (v : Item) : Option Builder :=
  (addDotted false path k v b.current).map fun es => { b with current := es }

def finish (b : Builder) : Option Entries :=
  match b.place with
  | none => some b.current
  | some (path, k) =>
    let table := Item.table false .written b.current
    descend false false
      (fun _ es =>
        match es.get? k, b.listed with
        | none, false => some (es ++ [(k, table)])
        | none, true => some (es ++ [(k, .tables [table])])
        | some (.tables xs), true => some (es.replace k (.tables (xs ++ [table])))
        | some _, _ => none)
      path .written b.root

def entriesAt : List String → Entries → Entries
  | [], es => es
  | k :: path, es =>
    match es.get? k with
    | some (.table _ _ sub) => entriesAt path sub
    | some (.tables xs) =>
      match xs.getLast? with
      | some (.table _ _ sub) => entriesAt path sub
      | _ => []
    | _ => []

def openTable (b : Builder) (path : List String) (k : String) : Option Builder := do
  let root ← b.finish
  let kept :=
    match (entriesAt path root).get? k with
    | some (.table _ _ sub) => sub
    | _ => []
  let root ←
    descend false false
      (fun _ es =>
        match es.get? k with
        | none => some es
        | some (.table false .implied _) => some (es.remove k)
        | some _ => none)
      path .written root
  return { root := root, current := kept, place := some (path, k) }

def openListed (b : Builder) (path : List String) (k : String) : Option Builder := do
  let root ← b.finish
  let root ←
    descend false false
      (fun _ es =>
        match es.get? k with
        | none => some (es ++ [(k, .tables [])])
        | some (.tables _) => some es
        | some _ => none)
      path .written root
  return { root := root, place := some (path, k), listed := true }

end Builder

end Framecast.Toml
