import Framecast.Config.Load

set_option autoImplicit false

namespace Framecast

inductive BindError where
  | addressInUse
  | addressNotAvailable
  deriving DecidableEq, Repr

def BindError.message : BindError → String
  | .addressInUse => "Address already in use (os error 98)"
  | .addressNotAvailable => "Cannot assign requested address (os error 99)"

inductive ConnectError where
  | networkUnreachable
  deriving DecidableEq, Repr

def ConnectError.message : ConnectError → String
  | .networkUnreachable => "Network is unreachable (os error 101)"

structure Host where
  -- the largest piece of memory that can be reserved, in bytes
  memory : Nat
  -- whether a connection to this machine can be made at all
  reachable : Bool
  -- whether the machine has the longer kind of address, so that one can listen at it
  hasIPv6 : Bool
  directories : List String
  files : List (String × Bytes)
  deriving DecidableEq, Repr

namespace Host

def standardDirectories : List String :=
  ["/", "/bin", "/boot", "/dev", "/dev/pts", "/dev/shm", "/etc", "/etc/ssl", "/home", "/lib",
   "/lib64", "/media", "/mnt", "/opt", "/proc", "/proc/self", "/root", "/run", "/sbin", "/srv",
   "/sys", "/tmp", "/usr", "/usr/bin", "/usr/include", "/usr/lib", "/usr/local", "/usr/local/bin",
   "/usr/local/lib", "/usr/sbin", "/usr/share", "/var", "/var/cache", "/var/lib", "/var/log",
   "/var/tmp"]

-- a machine with no network interface: one can listen there, but no connection gets through
def isolated : Host :=
  { memory := 64 * 1024 * 1024 * 1024
    reachable := false
    hasIPv6 := false
    directories := standardDirectories
    files := [("/dev/null", [])] }

def connected : Host := { isolated with reachable := true, hasIPv6 := true }

def withFile (h : Host) (path : String) (contents : Bytes) : Host :=
  { h with files := (path, contents) :: h.files }

def pathOf (names : List String) : String := "/" ++ "/".intercalate names

def workingDirectory : List String := ["root"]

def isDirectory (h : Host) (names : List String) : Bool := h.directories.contains (pathOf names)

-- one part of a path leads from a directory to a place; a point leads nowhere, two lead back
def follow (h : Host) (names : List String) (part : String) : Option (List String) :=
  if !h.isDirectory names then none
  else if part.isEmpty || part == "." then some names
  else if part == ".." then some names.dropLast
  else some (names ++ [part])

def locate (h : Host) (path : String) : Option (List String) :=
  if path.isEmpty then none
  else
    let start := if path.startsWith "/" then [] else workingDirectory
    (path.splitOn "/").foldlM h.follow start

def read (h : Host) (path : String) : Except Config.FileError Bytes :=
  match h.files.lookup path with
  | some bytes => .ok bytes
  | none =>
    if h.directories.contains path then .error .isDirectory
    else
      match h.locate path with
      | none => .error .notFound
      | some names =>
        match h.files.lookup (pathOf names) with
        | some bytes => .ok bytes
        | none => if h.isDirectory names then .error .isDirectory else .error .notFound

/-- Two listeners on one port get into each other's way unless their addresses differ. -/
def clash (a b : Endpoint) : Bool :=
  a.port == b.port &&
    match a, b with
    | .v4 x _, .v4 y _ => x == y || x == ⟨0, 0, 0, 0⟩ || y == ⟨0, 0, 0, 0⟩
    | .v6 x _ _, .v6 y _ _ => x == y
    | _, _ => false

def freePort (listening : List Endpoint) : UInt16 :=
  ((List.range 16384).map fun n => (49152 + n).toUInt16).find?
    (fun p => !listening.any (·.port == p)) |>.getD 49152

def serves (h : Host) : Endpoint → Bool
  | .v4 .. => true
  | .v6 ip _ _ => h.hasIPv6 || ip.groups.all (· == 0)

def bind (h : Host) (listening : List Endpoint) (e : Endpoint) : Except BindError Endpoint :=
  if !h.serves e then .error .addressNotAvailable
  else if e.port = 0 then .ok (e.atPort (freePort listening))
  else if listening.any (clash e) then .error .addressInUse
  else .ok e

def connect (h : Host) : Except ConnectError Unit :=
  if h.reachable then .ok () else .error .networkUnreachable

end Host

end Framecast
