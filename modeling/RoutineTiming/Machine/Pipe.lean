import RoutineTiming.SystemFault

/-!
# Pipes

What is written to a pipe waits there until it is read. The bytes are kept with the time at which
they were written: of two processes that run beside one another the one that writes is followed
first, up to its end, and then the one that reads. A pipe can have room for only so many bytes, and
it can be known when the last process ends that reads from it. Who writes more or later than that
finds the pipe broken.

## Main definitions

* `Chunk`, `settled` : bytes with the time of their writing, and all of them in order.
* `Pipe` : a pipe.
* `Pipe.write`, `Pipe.peek`, `Pipe.drop` : writing and reading.
-/

namespace RoutineTiming

/-- Bytes that were written at once. -/
structure Chunk where
  /-- The nanosecond at which they were written. -/
  time : Nat
  bytes : List UInt8

/-- Chunks in the order of their times; those of the same time stay as they are. -/
def inTime (chunks : List Chunk) : List Chunk :=
  chunks.mergeSort fun a b => decide (a.time ≤ b.time)

/-- The bytes of chunks, the latest of which stands first, in the order of their times. -/
def settled (chunks : List Chunk) : List UInt8 := (inTime chunks.reverse).flatMap Chunk.bytes

/-- A pipe. -/
structure Pipe where
  /-- What waits to be read, in the order of time. -/
  waiting : List Chunk := []
  /-- What was written since the waiting chunks were put in order, the latest first. -/
  written : List Chunk := []
  /-- How many more bytes can be written, if their number is bounded. -/
  room : Option Nat := none
  /-- The nanosecond at which the last process ends that reads, if it is known. -/
  readersEnd : Option Nat := none
  /-- The nanosecond at which the last process ends that writes. -/
  writersEnd : Nat := 0
  /-- The nanosecond at which a process wrote last, or tried to. -/
  lastAttempt : Nat := 0
  /-- A process found no room for what it wrote. -/
  isOverfull : Bool := false
  /-- A process found nothing more to read. -/
  isDrained : Bool := false

namespace Pipe

/-- The pipe after an attempt to write a chunk, and whether all of it was written. -/
def write (pipe : Pipe) (chunk : Chunk) : Pipe × Bool :=
  let attempted := { pipe with lastAttempt := max pipe.lastAttempt chunk.time }
  if pipe.readersEnd.any (· < chunk.time) then (attempted, false)
  else
    match pipe.room with
    | none => ({ attempted with written := chunk :: pipe.written }, true)
    | some room =>
      let size := chunk.bytes.length
      if size ≤ room then
        ({ attempted with written := chunk :: pipe.written, room := some (room - size) }, true)
      else
        let front := { chunk with bytes := chunk.bytes.take room }
        let written := if room = 0 then pipe.written else front :: pipe.written
        ({ attempted with written, room := some 0, isOverfull := true }, false)

/-- The pipe with all that waits in order. -/
def settle (pipe : Pipe) : Pipe :=
  if pipe.written.isEmpty then pipe
  else { pipe with waiting := inTime (pipe.waiting ++ pipe.written.reverse), written := [] }

/-- The chunk that is read next, if there is one. -/
def peek (pipe : Pipe) : Option Chunk × Pipe :=
  let pipe := pipe.settle
  match pipe.waiting with
  | chunk :: _ => (some chunk, pipe)
  | [] => (none, { pipe with isDrained := true })

/-- Chunks without a number of bytes at the front. -/
def dropBytes : (count : Nat) → List Chunk → List Chunk
  | _, [] => []
  | count, chunk :: rest =>
    if chunk.bytes.length ≤ count then dropBytes (count - chunk.bytes.length) rest
    else { chunk with bytes := chunk.bytes.drop count } :: rest

/-- The pipe after a number of bytes were read. -/
def drop (pipe : Pipe) (count : Nat) : Pipe :=
  let pipe := pipe.settle
  { pipe with waiting := dropBytes count pipe.waiting }

/-- The bytes at the front of chunks that are there at a time, at most as many as given. -/
def bytesBy (time : Nat) : (size : Nat) → List Chunk → List UInt8
  | _, [] => []
  | size, chunk :: rest =>
    if time < chunk.time then []
    else if chunk.bytes.length < size then
      chunk.bytes ++ bytesBy time (size - chunk.bytes.length) rest
    else chunk.bytes.take size

/-- All that waits, and the pipe without it. -/
def takeAll (pipe : Pipe) : List Chunk × Pipe :=
  let pipe := pipe.settle
  (pipe.waiting, { pipe with waiting := [], isDrained := true })

end Pipe

end RoutineTiming
