import Framecast.Bytes
import Framecast.Frame.Geometry

set_option autoImplicit false

namespace Framecast

inductive Pattern where
  -- a diagonal twelve-bit gradient that moves with the frame number
  | gradient
  -- the frame number as a line of text, padded with zeros
  | text
  deriving DecidableEq, Repr

inductive DrawFault where
  -- the buffer is not as long as a frame
  | sizeMismatch (need given : Nat)
  -- the line of text is longer than the buffer
  | tooSmall (need given : Nat)
  deriving DecidableEq, Repr

def DrawFault.message : DrawFault → String
  | .sizeMismatch need given =>
    "buffer is " ++ Numeral.decimal given ++ " bytes, geometry needs " ++ Numeral.decimal need
  | .tooSmall need given =>
    "text record needs " ++ Numeral.decimal need ++ " bytes, buffer has " ++ Numeral.decimal given

structure Drawing where
  buffer : Bytes
  fault : Option DrawFault
  deriving DecidableEq, Repr

-- a buffer whose front is filled and of which the rest is room
structure Cursor where
  filled : Bytes
  room : Bytes
  deriving DecidableEq, Repr

namespace Cursor

def write (c : Cursor) (piece : Bytes) : Except Cursor Cursor :=
  let next : Cursor := ⟨c.filled ++ piece.take c.room.length, c.room.drop piece.length⟩
  if piece.length ≤ c.room.length then .ok next else .error next

def writeAll (c : Cursor) : List Bytes → Except Cursor Cursor
  | [] => .ok c
  | piece :: pieces =>
    match c.write piece with
    | .ok c => c.writeAll pieces
    | .error c => .error c

end Cursor

namespace Pattern

def name : Pattern → String
  | .gradient => "Gradient"
  | .text => "Text"

/-- The sample at `row` and `col`: twelve bits, and periodic once a word wraps. -/
def sample (row col : UInt32) (index : UInt64) : UInt16 :=
  ((row + col + index.toUInt32 * 10) * 16 % 4096).toUInt16

def sampleBytes (n : Nat) (s : UInt16) : Bytes :=
  (List.range n).map fun b => if b % 2 = 0 then s.toUInt8 else (s >>> 8).toUInt8

@[simp] theorem length_sampleBytes (n : Nat) (s : UInt16) : (sampleBytes n s).length = n := by
  simp [sampleBytes]

/-- Draws as many whole samples as `buf` holds and keeps what is left of it. -/
def drawGradient (g : Geometry) (index : UInt64) (buf : Bytes) : Bytes :=
  let step := g.bytesPerSample.toNat
  let width := g.width.toNat
  let count := buf.length / step
  (List.range count).flatMap
      (fun i => sampleBytes step (sample (i / width).toUInt32 (i % width).toUInt32 index)) ++
    buf.drop (count * step)

def littleEndian (v : Nat) : Bytes := [v.toUInt8, (v / 256).toUInt8]

/-- Draws sample `i`: there is none in a picture without width, whose rows and columns cannot be
told apart. -/
def stroke? (g : Geometry) (index : UInt64) (buf : Bytes) (i : Nat) : Option Bytes :=
  let step := g.bytesPerSample.toNat
  let width := g.width.toNat
  if width = 0 then none
  else
    let pair := littleEndian (sample (i / width).toUInt32 (i % width).toUInt32 index).toNat
    (List.range step).foldlM
      (fun buf b => pair[b % pair.length]?.bind (Bytes.write? buf (i * step + b))) buf

-- draws sample after sample, and gives up where a sample has no place in the picture or a byte none
-- in the buffer
def drawByLoop? (g : Geometry) (index : UInt64) (buf : Bytes) : Option Bytes :=
  if g.bytesPerSample.toNat = 0 then some buf
  else (List.range (buf.length / g.bytesPerSample.toNat)).foldlM (stroke? g index) buf

def record (index : UInt64) : Bytes :=
  Bytes.ofAscii (['f', 'r', 'a', 'm', 'e', ' '] ++ Numeral.write 10 index.toNat ++ ['\n'])

def recordLength (index : UInt64) : Nat :=
  let digits := if index = 0 then 1 else Numeral.log10 index.toNat + 1
  6 + digits + 1

/-- Writes the line and zeros after it; of a line that does not fit, the front is written. -/
def drawText (index : UInt64) (buf : Bytes) : Drawing :=
  let line := record index
  if line.length ≤ buf.length then ⟨line ++ Bytes.zeros (buf.length - line.length), none⟩
  else ⟨Bytes.overlay line buf, some (.tooSmall (recordLength index) buf.length)⟩

-- draws a line of text that is handed over in pieces
def drawPieces (index : UInt64) (pieces : List Bytes) (buf : Bytes) : Drawing :=
  match Cursor.writeAll ⟨[], buf⟩ pieces with
  | .ok c => ⟨c.filled ++ Bytes.zeros c.room.length, none⟩
  | .error c => ⟨c.filled ++ c.room, some (.tooSmall (recordLength index) buf.length)⟩

def draw (p : Pattern) (g : Geometry) (index : UInt64) (buf : Bytes) : Drawing :=
  if buf.length = g.frameSize then
    match p with
    | .gradient => ⟨drawGradient g index buf, none⟩
    | .text => drawText index buf
  else ⟨buf, some (.sizeMismatch g.frameSize buf.length)⟩

end Pattern

end Framecast
