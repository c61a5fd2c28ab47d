import Framecast.Cli.Options
import Framecast.Config.Schema
import Framecast.Endpoint.Parser

set_option autoImplicit false

namespace Framecast.Cli

def readSigned? : List Char → Option Int
  | '-' :: cs => (Numeral.read? 10 cs).map fun n => -(n : Int)
  | '+' :: cs => (Numeral.read? 10 cs).map Int.ofNat
  | cs => (Numeral.read? 10 cs).map Int.ofNat

-- a number from zero to `limit`; a minus sign is allowed before zero
def readUpTo? (limit : Nat) (s : String) : Option Nat :=
  (readSigned? s.toList).bind fun n => if 0 ≤ n ∧ n ≤ limit then some n.toNat else none

def readWord16? (s : String) : Option UInt16 := (readUpTo? (UInt16.size - 1) s).map Nat.toUInt16

def readWord32? (s : String) : Option UInt32 := (readUpTo? (UInt32.size - 1) s).map Nat.toUInt32

def readWord64? (s : String) : Option UInt64 :=
  if s.startsWith "-" then none else (readUpTo? (UInt64.size - 1) s).map Nat.toUInt64

def readPath? (s : String) : Option String := if s.isEmpty then none else some s

def readPattern? (s : String) : Option Pattern := Config.patterns.lookup s

inductive Effect where
  | value (set : Options → String → Option Options)
  | switch (set : Options → Options)
  | help
  | version

structure Flag where
  long : String
  short : Option Char := none
  effect : Effect

def valued {α : Type} (read : String → Option α) (set : Options → α → Options) : Effect :=
  .value fun o s => (read s).map (set o)

def flags : List Flag :=
  [⟨"config", some 'c', valued readPath? fun o v => { o with config := some v }⟩,
   ⟨"bind", none, valued Endpoint.parse? fun o v => { o with bind := some v }⟩,
   ⟨"port", some 'p', valued readWord16? fun o v => { o with port := some v }⟩,
   ⟨"frames", some 'n', valued readWord64? fun o v => { o with frames := some v }⟩,
   ⟨"period-ms", none, valued readWord64? fun o v => { o with period := some ⟨v⟩ }⟩,
   ⟨"pattern", none, valued readPattern? fun o v => { o with pattern := some v }⟩,
   ⟨"width", none, valued readWord32? fun o v => { o with width := some v }⟩,
   ⟨"height", none, valued readWord32? fun o v => { o with height := some v }⟩,
   ⟨"bytes-per-sample", none,
     valued readWord32? fun o v => { o with bytesPerSample := some v }⟩,
   ⟨"echo", none, .switch fun o => { o with echo := true }⟩,
   ⟨"help", some 'h', .help⟩,
   ⟨"version", some 'V', .version⟩]

inductive Request where
  | run (options : Options)
  | help
  | version
  -- the arguments make no sense
  | misuse
  deriving DecidableEq, Repr

/-- A flag as it stands in one argument, with the value that is attached to it. -/
structure Mention where
  flag : Flag
  attached : Option String

def splitAtEquals (cs : List Char) : String × Option String :=
  let name := cs.takeWhile (· ≠ '=')
  match cs.drop name.length with
  | _ :: value => (String.ofList name, some (String.ofList value))
  | [] => (String.ofList name, none)

def longMention? (cs : List Char) : Option Mention :=
  let (name, attached) := splitAtEquals cs
  (flags.find? (·.long == name)).bind fun f =>
    match f.effect, attached with
    | .value _, _ | _, none => some ⟨f, attached⟩
    | _, some _ => none

def shortMention? (c : Char) (cs : List Char) : Option Mention :=
  (flags.find? (·.short == some c)).map fun f =>
    match cs with
    | [] => ⟨f, none⟩
    | '=' :: value => ⟨f, some (String.ofList value)⟩
    | value => ⟨f, some (String.ofList value)⟩

def mention? (arg : String) : Option Mention :=
  match arg.toList with
  | '-' :: '-' :: cs => longMention? cs
  | '-' :: c :: cs => shortMention? c cs
  | _ => none

-- whether an argument is taken for a flag where a value is looked for
def isFlagLike (arg : String) : Bool :=
  match arg.toList with
  | '-' :: _ :: _ => true
  | _ => false

def parseFrom (seen : List String) (o : Options) : List String → Request
  | [] => .run o
  | ["--"] => .run o
  | arg :: rest =>
    match mention? arg with
    | none => .misuse
    | some ⟨f, attached⟩ =>
      if seen.contains f.long then .misuse
      else
        match f.effect, attached, rest with
        | .help, _, _ => .help
        | .version, _, _ => .version
        | .switch set, _, rest => parseFrom (f.long :: seen) (set o) rest
        | .value set, some v, rest =>
          match set o v with
          | some o => parseFrom (f.long :: seen) o rest
          | none => .misuse
        | .value set, none, v :: rest =>
          if isFlagLike v then .misuse
          else
            match set o v with
            | some o => parseFrom (f.long :: seen) o rest
            | none => .misuse
        | .value _, none, [] => .misuse
termination_by args => args.length

def parse (args : List String) : Request := parseFrom [] {} args

end Framecast.Cli
