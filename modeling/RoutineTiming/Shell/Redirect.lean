import RoutineTiming.Shell.Expansion

/-!
# Redirections

The words of redirections are expanded before any file is opened; documents are expanded only when
their turn has come, so that the channels are changed already as the redirections in front of them
say. The channels are put back when the command is over, unless they are to stay.

## Main definitions

* `Shell.ChannelChange` : a redirection whose word is expanded.
* `Shell.prepareAll` : the changes that redirections make.
* `Shell.connectAll` : the changes are made; the channels as they were.
* `Shell.restoreAll` : the channels are put back.
-/

namespace RoutineTiming.Shell

/-- A redirection whose word is expanded. -/
inductive ChannelChange where
  | open (opening : Opening) (path : String)
  /-- The channel reads a document, which is not expanded yet. -/
  | supply (document : Document)
  | follow (other : Nat)
  | close

/-- The change that a redirection makes to a channel. -/
def prepare (capture : Capture) (redirection : Redirection) : Run (Nat × ChannelChange) := do
  match redirection with
  | .open channel opening path => return (channel, .open opening (← expandText capture path))
  | .document channel number =>
    let document := (← get).documents[number]?
    return (channel, .supply (document.getD { text := [], isExpanded := false }))
  | .duplicate channel word =>
    match (← expandText capture word).toList with
    | ['-'] => return (channel, .close)
    | [c] =>
      if c.isDigit then return (channel, .follow (c.toNat - '0'.toNat))
      else fault "Syntax error: Bad fd number"
    | _ => fault "Syntax error: Bad fd number"

/-- The changes that redirections make. -/
def prepareAll (capture : Capture) (redirections : List Redirection) :
    Run (List (Nat × ChannelChange)) :=
  redirections.mapM (prepare capture)

/-- A channel of the process is changed. -/
def setChannel (number : Nat) (channel : Option Channel) : Run Unit :=
  modify fun state =>
    { state with process := match channel with
        | some channel => state.process.connect number channel
        | none => state.process.close number }

/-- The fault that a file could not be opened, where nothing is said of a directory on the way. -/
def openFault {α : Type} (opening : Opening) (path : String) (reason : SystemFault) : Run α :=
  let isMissing := reason = .noSuchFile ∨ reason = .notADirectory
  match opening with
  | .read =>
    fault ("cannot open " ++ path ++ ": " ++ if isMissing then "No such file" else reason.reason)
  | _ =>
    fault ("cannot create " ++ path ++ ": " ++
      if isMissing then "Directory nonexistent" else reason.reason)

/-- The mode of an opening. -/
def Opening.mode : Opening → OpenMode
  | .read => .read
  | .write => .write
  | .overwrite => .write
  | .append => .append
  | .readWrite => .readWrite

/-- There is a file at a path, which must not be overwritten. -/
def State.guardsFile (state : State) (opening : Opening) (path : String) : Bool :=
  state.hasOption "noclobber" && opening = .write &&
    match state.world.files.resolveFrom state.process.directory path with
    | .ok (_, .file _ _) => true
    | _ => false

/-- A change to a channel is made. -/
def connect (capture : Capture) (number : Nat) (change : ChannelChange) : Run Unit := do
  match change with
  | .open opening path =>
    let state ← get
    if state.guardsFile opening path then openFault opening path .fileExists
    else
      match state.process.openFile opening.mode path state.world with
      | .ok (channel, world) =>
        set { state with world }
        setChannel number (some channel)
      | .error reason => openFault opening path reason
  | .supply document =>
    let text ← expandDocument capture document
    let state ← get
    let (reader, world) := state.world.supply (textBytes text)
    set { state with world }
    setChannel number (some reader)
  | .follow other =>
    match (← get).process.channel? other with
    | some channel => setChannel number (some channel)
    | none => fault (numeral other ++ ": " ++ SystemFault.badDescriptor.reason)
  | .close => setChannel number none

/-- The channels that are to be changed, as they are. -/
def State.channelsOf (state : State) (changes : List (Nat × ChannelChange)) :
    List (Nat × Option Channel) :=
  changes.map fun change => (change.1, state.process.channel? change.1)

/-- Channels are put back. -/
def restoreAll (channels : List (Nat × Option Channel)) : Run Unit :=
  channels.forM fun (number, channel) => setChannel number channel

/-- Changes are made, one after the other. The result says whether they could be; a fault is no
more than that. -/
def connectAll (capture : Capture) (changes : List (Nat × ChannelChange)) : Run Bool := do
  match ← attempt (changes.forM fun (number, change) => connect capture number change) with
  | .ok () => return true
  | .error .fault => return false
  | .error stop => throw stop

end RoutineTiming.Shell
