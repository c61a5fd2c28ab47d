import Framecast.Bytes
import Framecast.Size
import Framecast.Text.Numeral
import Framecast.Text.Record

/-!
A bounded pool of buffers of one length, kept in a ring of cells.

Each cell has a turn. A cell takes a buffer in at the position equal to its turn and gives it out
at the position one below; giving it out moves the turn on by the number of cells. Positions and
turns are 64-bit words and wrap.
-/

set_option autoImplicit false

namespace Framecast

structure Cell where
  turn : UInt64
  buffer : Option Bytes
  deriving DecidableEq, Repr

structure Pool where
  cells : Array Cell
  -- the position of the next buffer in
  head : UInt64 := 0
  -- the position of the next buffer out
  tail : UInt64 := 0
  bufLen : Nat
  deriving DecidableEq, Repr

namespace Pool

inductive Fault where
  | noCapacity
  | overfilled
  -- the memory for the cells or for a buffer cannot be reserved
  | exhausted
  deriving DecidableEq, Repr

def Fault.message : Fault → String
  | .noCapacity => "pool capacity must be greater than 0"
  | .overfilled => "cannot prefill beyond capacity"
  | .exhausted => "memory allocation failed"

inductive Push where
  | stored (pool : Pool)
  -- the ring is full or the buffer has another length
  | refused
  -- the cell's turn is ahead of the position read: somebody else took the position
  | overtaken

inductive Pop where
  | given (buffer : Bytes) (pool : Pool)
  | empty
  | overtaken
  -- the cell's turn says that it is filled, but it holds nothing
  | unfilled

def capacity (p : Pool) : Nat := p.cells.size

def index (p : Pool) (position : UInt64) : Nat := position.toNat % p.cells.size

/-- One try to store `buffer` at the head. -/
def push (p : Pool) (buffer : Bytes) : Push :=
  if buffer.length ≠ p.bufLen then .refused
  else
    match p.cells[p.index p.head]? with
    | none => .refused
    | some c =>
      let ahead := c.turn - p.head
      if ahead = 0 then
        .stored
          { p with
            cells := p.cells.setIfInBounds (p.index p.head) ⟨p.head + 1, some buffer⟩
            head := p.head + 1 }
      else if ahead.toInt64 < 0 then .refused
      else .overtaken

/-- One try to take the buffer at the tail. -/
def pop (p : Pool) : Pop :=
  match p.cells[p.index p.tail]? with
  | none => .empty
  | some c =>
    let ahead := c.turn - (p.tail + 1)
    if ahead = 0 then
      match c.buffer with
      | none => .unfilled
      | some b =>
        .given b
          { p with
            cells :=
              p.cells.setIfInBounds (p.index p.tail) ⟨p.tail + p.cells.size.toUInt64, none⟩
            tail := p.tail + 1 }
    else if ahead.toInt64 < 0 then .empty
    else .overtaken

def len (p : Pool) : Nat := min (p.head - p.tail).toNat p.cells.size

def isEmpty (p : Pool) : Bool := p.len == 0

def toList (p : Pool) : List Bytes :=
  (List.range (p.head - p.tail).toNat).filterMap fun i =>
    (p.cells[p.index (p.tail + i.toUInt64)]?).bind (·.buffer)

-- brings a buffer back; one of another length is dropped
def putBack (p : Pool) (buffer : Bytes) : Pool :=
  match p.push buffer with
  | .stored q => q
  | _ => p

def take? (p : Pool) : Option (Bytes × Pool) :=
  match p.pop with
  | .given b q => some (b, q)
  | _ => none

-- whether a buffer has to be pushed again: it is not stored, although its length is right
def stalls (p : Pool) (buffer : Bytes) : Bool :=
  match p.push buffer with
  | .stored _ => false
  | _ => buffer.length == p.bufLen

-- whether the buffer at the tail has to be asked for again
def lags (p : Pool) : Bool :=
  match p.pop with
  | .overtaken => true
  | _ => false

def isFull (p : Pool) : Bool := p.len == p.capacity

/-- A ring of one cell cannot tell full from empty: a push writes over the buffer that is there. -/
def overruns (p : Pool) : Bool := p.capacity == 1 && p.isFull

def cellSize : Nat := 64

def reserve (limit bytes : Nat) : Except Fault Unit :=
  if bytes ≤ min limit Size.pieceLimit then .ok () else .error .exhausted

def emptyRing (capacity bufLen : Nat) : Pool :=
  { cells := Array.ofFn fun i : Fin capacity => ⟨i.val.toUInt64, none⟩, bufLen := bufLen }

def fill (limit : Nat) : Nat → Pool → Except Fault Pool
  | 0, p => .ok p
  | n + 1, p => do
    reserve limit p.bufLen
    fill limit n (p.putBack (Bytes.zeros p.bufLen))

/-- A pool of `capacity` cells that starts with `prefill` zeroed buffers of `bufLen` bytes. -/
def withBuffers (limit capacity bufLen prefill : Nat) : Except Fault Pool :=
  if capacity = 0 then .error .noCapacity
  else if capacity < prefill then .error .overfilled
  else do
    reserve limit (capacity * cellSize)
    fill limit prefill (emptyRing capacity bufLen)

def allocate (limit n : Nat) : Except Fault Bytes := do
  reserve limit n
  return Bytes.zeros n

def describe (p : Pool) : String :=
  Record.text "BufferPool"
    [("capacity", Numeral.decimal p.capacity),
     ("buf_len", Numeral.decimal p.bufLen),
     ("len", Numeral.decimal p.len)]

end Pool

end Framecast
