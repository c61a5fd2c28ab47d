import Framecast.Pool

set_option autoImplicit false

namespace Framecast.Pool

inductive Call where
  | push (buffer : Bytes)
  | pop
  deriving DecidableEq, Repr

inductive Reply where
  | stored
  -- the buffer that was pushed
  | refused (buffer : Bytes)
  | given (buffer : Bytes)
  | empty
  -- the call has to look at another position
  | again
  -- the call would read a cell that holds no buffer
  | unfilled
  deriving DecidableEq, Repr

def perform (p : Pool) : Call → Reply × Pool
  | .push b =>
    match p.push b with
    | .stored q => (.stored, q)
    | .refused => (.refused b, p)
    | .overtaken => (.again, p)
  | .pop =>
    match p.pop with
    | .given b q => (.given b, q)
    | .empty => (.empty, p)
    | .overtaken => (.again, p)
    | .unfilled => (.unfilled, p)

def serve (p : Pool) : List Call → List Reply × Pool
  | [] => ([], p)
  | c :: cs =>
    let (r, p) := p.perform c
    let (rs, p) := p.serve cs
    (r :: rs, p)

structure Queue where
  capacity : Nat
  bufLen : Nat
  -- the oldest first
  buffers : List Bytes
  deriving DecidableEq, Repr

namespace Queue

def zeroed (capacity bufLen n : Nat) : Queue :=
  { capacity := capacity, bufLen := bufLen, buffers := List.replicate n (Bytes.zeros bufLen) }

def perform (q : Queue) : Call → Reply × Queue
  | .push b =>
    if b.length = q.bufLen ∧ q.buffers.length < q.capacity then
      (.stored, { q with buffers := q.buffers ++ [b] })
    else (.refused b, q)
  | .pop =>
    match q.buffers with
    | [] => (.empty, q)
    | b :: rest => (.given b, { q with buffers := rest })

def serve (q : Queue) : List Call → List Reply × Queue
  | [] => ([], q)
  | c :: cs =>
    let (r, q) := q.perform c
    let (rs, q) := q.serve cs
    (r :: rs, q)

end Queue

end Framecast.Pool
