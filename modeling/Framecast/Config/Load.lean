import Framecast.Bytes
import Framecast.Config.Schema
import Framecast.Toml.Document

set_option autoImplicit false

namespace Framecast.Config

inductive FileError where
  | notFound
  | isDirectory
  -- the file is not text
  | invalidData
  deriving DecidableEq, Repr

def FileError.message : FileError → String
  | .notFound => "No such file or directory (os error 2)"
  | .isDirectory => "Is a directory (os error 21)"
  | .invalidData => "stream did not contain valid UTF-8"

inductive LoadError where
  | file (path : String) (cause : FileError)
  -- the document is no TOML
  | syntaxError
  | decode (cause : DecodeError)
  | invalid (cause : Invalid)

def LoadError.message : LoadError → String
  | .file path cause => "failed to read " ++ path ++ ": " ++ cause.message
  | .syntaxError => "failed to parse configuration"
  | .decode cause => "failed to parse configuration: " ++ cause.message?.getD "malformed value"
  | .invalid cause => "invalid configuration: " ++ cause.message

def checked (c : Config) : Except LoadError Config :=
  match c.validate with
  | .ok () => .ok c
  | .error e => .error (.invalid e)

def ofEntries (es : Toml.Entries) : Except LoadError Config :=
  match schema.ofEntries es with
  | .ok c => checked c
  | .error e => .error (.decode e)

def ofDocumentBy (parse? : String → Option Toml.Entries) (s : String) : Except LoadError Config :=
  match parse? s with
  | none => .error .syntaxError
  | some es => ofEntries es

/-- The configuration that a TOML document describes. -/
def ofDocument : String → Except LoadError Config := ofDocumentBy Toml.parse?

def load (path : String) (contents : Except FileError Bytes) : Except LoadError Config :=
  match contents with
  | .error e => .error (.file path e)
  | .ok bytes =>
    match String.fromUTF8? ⟨bytes.toArray⟩ with
    | none => .error (.file path .invalidData)
    | some s => ofDocument s

end Framecast.Config
