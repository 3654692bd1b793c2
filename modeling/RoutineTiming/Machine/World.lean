import RoutineTiming.Machine.FileSystem
import RoutineTiming.Machine.Pipe
import RoutineTiming.Process.Status

/-!
# What processes share

Processes share the files, a clock, the two streams on which the first of them writes, the files and
pipes that one of them opened, and the signals that they send to one another. What is written is
kept with the time at which it was written, so that processes that run beside one another can be
followed one after the other: what they wrote is put in the order of time when it is read.

## Main definitions

* `Channel` : where a process reads and writes.
* `World` : what processes share.
* `World.write` : writing.
* `World.peek`, `World.advance`, `World.takeBlock`, `World.takeRest` : reading.
* `World.openFile` : a channel to what a path leads to.
-/

namespace RoutineTiming

/-- A file or a pipe that was opened, with how far it was read or written. -/
inductive OpenFile where
  | file (place : Place) (offset : Nat) (appends : Bool)
  | pipe (pipe : Pipe)

/-- What a channel leads to. -/
inductive Target where
  | device (device : Device)
  /-- The streams of the first process. -/
  | stdout
  | stderr
  /-- An open file, by its number. -/
  | shared (number : Nat)
  deriving DecidableEq

/-- Where a process reads or writes. -/
structure Channel where
  target : Target
  isReadable : Bool := true
  isWritable : Bool := true
  deriving DecidableEq

/-- A signal that was sent to a process. -/
structure SentSignal where
  /-- The nanosecond at which it comes. -/
  time : Nat
  process : Nat
  signal : Nat
  deriving DecidableEq

/-- The end of a process. -/
structure ProcessEnd where
  process : Nat
  /-- The nanosecond at which it ends. -/
  time : Nat
  status : ExitStatus

/-- How many times loops are repeated without a look at the signals that are still to come. -/
def loopPatience : Nat := 50000

/-- What processes share. -/
structure World where
  files : FileSystem
  openFiles : Array OpenFile := #[]
  /-- What was written to the streams of the first process, the latest first. -/
  stdout : List Chunk := []
  stderr : List Chunk := []
  /-- The nanosecond that the process at hand has reached. -/
  clock : Nat := 0
  /-- The process at hand runs in the background. -/
  isBackground : Bool := false
  /-- How many times loops are repeated before the next look at the signals to come. -/
  patience : Nat := loopPatience
  /-- The number of the next process. -/
  nextProcess : Nat
  /-- The ends of the processes in the background, which are known ahead. -/
  ends : List ProcessEnd := []
  /-- The signals that did not come to their processes yet. -/
  signals : List SentSignal := []
  /-- The signals that were known from the beginning. -/
  foreseen : List SentSignal := []
  /-- The signals that were sent to processes that had been followed too far already. -/
  missed : List SentSignal := []

/-- How a file is opened. -/
inductive OpenMode where
  | read
  /-- The file is emptied, or made. -/
  | write
  | append
  /-- The file is made if there is none. -/
  | readWrite
  deriving DecidableEq

namespace World

/-! ### Writing -/

/-- Old bytes with new ones from an offset on. -/
def overwritten (old : List UInt8) (offset : Nat) (new : List UInt8) : List UInt8 :=
  old.take offset ++ List.replicate (offset - old.length) 0 ++ new ++ old.drop (offset + new.length)

/-- What a place holds and whether it can be run; nothing if there is no file. -/
def fileAt (world : World) (place : Place) : List UInt8 × Bool :=
  match world.files.node? place with
  | some (.file bytes isExecutable) => (bytes, isExecutable)
  | _ => ([], false)

/-- The world with another open file under a number. -/
def setOpenFile (world : World) (number : Nat) (file : OpenFile) : World :=
  { world with openFiles := world.openFiles.setIfInBounds number file }

/-- The bytes written now. -/
def chunk (world : World) (bytes : List UInt8) : Chunk := ⟨world.clock, bytes⟩

/-- The world after bytes were written to a file. -/
def writePlace (world : World) (number : Nat) (place : Place) (offset : Nat) (appends : Bool)
    (bytes : List UInt8) : World :=
  let (old, isExecutable) := world.fileAt place
  let start := if appends then old.length else offset
  let new := if appends then old ++ bytes else overwritten old start bytes
  { world.setOpenFile number (.file place (start + bytes.length) appends) with
    files := world.files.put place (.file new isExecutable) }

/-- The world after bytes were written to an open file, and whether they could be. -/
def writeShared (world : World) (number : Nat) (bytes : List UInt8) :
    Except SystemFault Unit × World :=
  match world.openFiles[number]? with
  | some (.pipe pipe) =>
    let (pipe, isWritten) := pipe.write (world.chunk bytes)
    (if isWritten then .ok () else .error .brokenPipe, world.setOpenFile number (.pipe pipe))
  | some (.file place offset appends) =>
    (.ok (), world.writePlace number place offset appends bytes)
  | none => (.ok (), world)

/-- The world after bytes were written to a channel, and whether they could be. -/
def write (world : World) (channel : Channel) (bytes : List UInt8) :
    Except SystemFault Unit × World :=
  if !channel.isWritable then (.error .badDescriptor, world)
  else
    match channel.target with
    | .device .full => (if bytes.isEmpty then .ok () else .error .noSpace, world)
    | .device _ => (.ok (), world)
    | .stdout => (.ok (), { world with stdout := world.chunk bytes :: world.stdout })
    | .stderr => (.ok (), { world with stderr := world.chunk bytes :: world.stderr })
    | .shared number => world.writeShared number bytes

/-- The world after a process ended that had channels, which no longer writes to their pipes. -/
def release (world : World) (channels : List Channel) : World :=
  channels.foldl (fun world channel =>
    match channel.target, channel.isWritable with
    | .shared number, true =>
      match world.openFiles[number]? with
      | some (.pipe pipe) =>
        world.setOpenFile number
          (.pipe { pipe with writersEnd := max pipe.writersEnd world.clock })
      | _ => world
    | _, _ => world) world

/-! ### Reading -/

/-- The world at a time, unless it has come further. -/
def reach (world : World) (time : Nat) : World := { world with clock := max world.clock time }

/-- How much of a device without end is there at once. -/
def endlessSize : Nat := 65536

/-- Some bytes that can be read next from a channel, none at its end, and the world when they are
there. -/
def peek (world : World) (channel : Channel) : Except SystemFault (List UInt8 × World) :=
  if !channel.isReadable then .error .badDescriptor
  else
    match channel.target with
    | .device .zero => .ok (List.replicate endlessSize 0, world)
    | .device .full => .ok (List.replicate endlessSize 0, world)
    | .shared number =>
      match world.openFiles[number]? with
      | some (.pipe pipe) =>
        let (chunk?, pipe) := pipe.peek
        let world := world.setOpenFile number (.pipe pipe)
        match chunk? with
        | some chunk => .ok (chunk.bytes, world.reach chunk.time)
        | none => .ok ([], world.reach pipe.writersEnd)
      | some (.file place offset _) =>
        if world.files.node? place = some .directory then .error .isADirectory
        else .ok ((world.fileAt place).1.drop offset, world)
      | none => .ok ([], world)
    | _ => .ok ([], world)

/-- The world after bytes were read from a channel. -/
def advance (world : World) (channel : Channel) (count : Nat) : World :=
  match channel.target with
  | .shared number =>
    match world.openFiles[number]? with
    | some (.pipe pipe) => world.setOpenFile number (.pipe (pipe.drop count))
    | some (.file place offset appends) =>
      world.setOpenFile number (.file place (offset + count) appends)
    | none => world
  | _ => world

/-- All bytes that are there to be read from a channel, at most as many as given, none at its end,
and the world after they were read. -/
def takeBlock (world : World) (channel : Channel) (size : Nat) :
    Except SystemFault (List UInt8 × World) := do
  let (bytes, world) ← world.peek channel
  let block :=
    match channel.target with
    | .shared number =>
      match world.openFiles[number]? with
      | some (.pipe pipe) => Pipe.bytesBy world.clock size pipe.waiting
      | _ => bytes.take size
    | _ => bytes.take size
  return (block, world.advance channel block.length)

/-- All bytes up to the end of a channel, and the world after they were read. -/
def takeRest (world : World) (channel : Channel) : Except SystemFault (List UInt8 × World) := do
  let (bytes, world) ← world.peek channel
  let plain := (bytes, world.advance channel bytes.length)
  match channel.target with
  | .shared number =>
    match world.openFiles[number]? with
    | some (.pipe pipe) =>
      let (chunks, pipe) := pipe.takeAll
      let last := chunks.foldl (fun time chunk => max time chunk.time) pipe.writersEnd
      return (chunks.flatMap Chunk.bytes, (world.setOpenFile number (.pipe pipe)).reach last)
    | _ => return plain
  | _ => return plain

/-! ### Opening -/

/-- A new open file, under its number. -/
def share (world : World) (file : OpenFile) : Nat × World :=
  (world.openFiles.size, { world with openFiles := world.openFiles.push file })

/-- A new pipe: the channel to read from it, and the one to write to it. -/
def openPipe (world : World) (pipe : Pipe) : Channel × Channel × World :=
  let (number, world) := world.share (.pipe pipe)
  (⟨.shared number, true, false⟩, ⟨.shared number, false, true⟩, world)

/-- A pipe that holds bytes: the channel to read them. -/
def supply (world : World) (bytes : List UInt8) : Channel × World :=
  let chunks := if bytes.isEmpty then [] else [world.chunk bytes]
  let (reader, _, world) := world.openPipe { waiting := chunks }
  (reader, world)

/-- The pipe to which a channel leads, if it leads to one. -/
def pipe? (world : World) (channel : Channel) : Option Pipe :=
  match channel.target with
  | .shared number =>
    match world.openFiles[number]? with
    | some (.pipe pipe) => some pipe
    | _ => none
  | _ => none

/-- The channel of a mode to a target. -/
def channelFor (mode : OpenMode) (target : Target) : Channel where
  target := target
  isReadable := mode = .read ∨ mode = .readWrite
  isWritable := mode ≠ .read

/-- A channel to a file, which is emptied if the mode says so. -/
def openPlace (world : World) (mode : OpenMode) (place : Place) (node : Option Node) :
    Channel × World :=
  let (_, isExecutable) := world.fileAt place
  let files :=
    if mode = .write then world.files.put place (.file [] isExecutable)
    else if node = none then world.files.put place (.file [] false)
    else world.files
  let (number, world) :=
    { world with files }.share (.file place 0 (decide (mode = OpenMode.append)))
  (channelFor mode (.shared number), world)

/-- A channel to what a path leads to from a directory, for a process with given channels. -/
def openFile (world : World) (channels : List (Nat × Channel)) (directory : Place)
    (mode : OpenMode) (path : String) : Except SystemFault (Channel × World) := do
  match ← world.files.locateFrom directory path with
  | (_, some (.device (.descriptor number))) =>
    match channels.lookup number with
    | some channel => return (channel, world)
    | none => throw .noSuchFile
  | (_, some (.device device)) => return (channelFor mode (.device device), world)
  | (place, some .directory) =>
    if mode = .read then return world.openPlace mode place (some .directory)
    else throw .isADirectory
  | (place, some node) => return world.openPlace mode place (some node)
  | (place, none) =>
    if mode = .read then throw .noSuchFile else return world.openPlace mode place none

end World

end RoutineTiming
