import Multimaster.Lib.Wire
import Multimaster.Apply.Insert

/-!
# Spilled transactions

The receiver collects the messages of a transaction in a buffer.  When a message
would make it too large, the buffer goes to a file as a chunk, and what is left
to execute is a list of chunks: the file, and the size of every chunk.  The
executor reads actions from its input, and from the chunks the input names.
-/

namespace Multimaster
namespace Spill

open Wire

/-! ## The executor -/

/-- The bytes of actions. -/
def actionC : UInt8 := 67
def actionF : UInt8 := 70
def actionI : UInt8 := 73
def actionM : UInt8 := 77
def actionZ : UInt8 := 90
def chunkOpen : UInt8 := 40
def chunkClose : UInt8 := 41

/-- What the handlers of the actions take from the input behind the action. -/
structure Handlers (Content : Type) where
  read : UInt8 → Reader Content
  /-- `t_len` of the tuple of an insert. -/
  tLen : Content → ℕ
  /-- What `process_remote_message` returns. -/
  standalone : Content → Bool

/-- An action with what its handler took. -/
abbrev Processed (Content : Type) := UInt8 × Content

/-- The files on disk. -/
abbrev Files := ℕ → List UInt8

/-- What the executor reads from: the rest of its input, the rest of the work
while it is in a chunk, and the rest of the open file. -/
structure Source where
  data : List UInt8
  saved : List UInt8
  file : Option (List UInt8)
  deriving DecidableEq

variable {Content : Type}

/-- The loop of a bulk insert: it goes on while the buffer has room and the next
byte is an insert. -/
def moreInserts (handlers : Handlers Content) :
    ℕ → ℕ → ℕ → List UInt8 → Option (List Content × List UInt8)
  | 0, _, _, _ => none
  | fuel + 1, count, size, input =>
      if count < Apply.maxBufferedTuples ∧
          size < Apply.maxBufferedTuplesSize then
        match input with
        | [] => none
        | byte :: behind =>
            if byte = actionI then do
              let (content, rest) ← (handlers.read actionI).run behind
              if rest.head? = some actionI then do
                let (contents, rest) ← moreInserts handlers fuel (count + 1)
                  (size + handlers.tLen content) rest
                pure (content :: contents, rest)
              else pure ([content], rest)
            else none
      else some ([], input)

/-- `process_remote_insert` as a reader of the input. -/
def processRemoteInsert
    (handlers : Handlers Content) (input : List UInt8) :
    Option (List Content × List UInt8) := do
  let (content, rest) ← (handlers.read actionI).run input
  if rest.head? = some actionI then do
    let (contents, rest) ←
      moreInserts handlers rest.length 1 (handlers.tLen content) rest
    pure (content :: contents, rest)
  else pure ([content], rest)

/-- The file that an `F` action opens. -/
def openSpillFile (files : Files) : Reader (List UInt8) := do
  let _ ← getInt 4
  let fileId ← getInt 4
  pure (files fileId)

/-- The loop of `MtmExecutor`: the actions it processes, and where its input is
when it ends.  `none` is an error, or too little fuel. -/
def execute (handlers : Handlers Content) (files : Files) :
    ℕ → Source → Option (List (Processed Content) × Source)
  | 0, _ => none
  | fuel + 1, source =>
      match source.data with
      | [] => none
      | action :: input =>
          if action = actionF then do
            let (file, rest) ← (openSpillFile files).run input
            execute handlers files fuel
              { source with data := rest, file := some file }
          else if action = chunkOpen then do
            let (size, rest) ← (getInt 4).run input
            let file ← source.file
            let (chunk, file) ← (getBytes size).run file
            execute handlers files fuel
              { data := chunk, saved := rest, file := some file }
          else if action = chunkClose then
            execute handlers files fuel { source with data := source.saved }
          else if action = actionI then do
            let (contents, rest) ← processRemoteInsert handlers input
            let (later, final) ←
              execute handlers files fuel { source with data := rest }
            pure (contents.map (fun content => (actionI, content)) ++ later,
              final)
          else do
            let (content, rest) ← (handlers.read action).run input
            if action = actionC ∨ action = actionZ ∨
                action = actionM ∧ handlers.standalone content = true then
              pure ([(action, content)], { source with data := rest })
            else do
              let (later, final) ←
                execute handlers files fuel { source with data := rest }
              pure ((action, content) :: later, final)

/-- `MtmExecutor` begins with its work. -/
def Source.ofWork (work : List UInt8) : Source where
  data := work
  saved := []
  file := none

/-! ## The receiver -/

/-- What the receiver is configured with. -/
structure Config where
  /-- `MtmTransSpillThreshold`, in kilobytes. -/
  transSpillThreshold : ℕ
  threshold_pos : 0 < transSpillThreshold
  /-- The limit of the setting is `MaxAllocSize / 1024`. -/
  threshold_le : transSpillThreshold ≤ 1048575
  sender : ℕ
  sender_lt : sender < 2 ^ 32
  /-- `MtmFilterTransaction` of a message. -/
  filterTransaction : List UInt8 → Bool

/-- The variables of the receiver, and the files.  A spilled transaction has a
file of the next number, so that a file that was handed over is not changed by
later transactions, until the numbers come round. -/
structure Receiver where
  buf : List UInt8
  spillInfo : List UInt8
  /-- The file that is open, by its number. -/
  spillFile : Option ℕ
  /-- `spill_file_id`. -/
  spillFileId : ℕ
  files : Files

/-- A call of `MtmExecute`. -/
structure Work where
  bytes : List UInt8
  noPool : Bool
  deriving DecidableEq

/-- `PGLOGICAL_COMMIT` and `PGLOGICAL_ABORT`. -/
def pglogicalCommit : UInt8 := 0
def pglogicalAbort : UInt8 := 1

/-- The messages that are executed at once. -/
def nonTransactional : List UInt8 → Bool
  | 90 :: _ => true
  | 77 :: kind :: _ =>
      kind = 76 || kind = 80 || kind = 67 || kind = 86 || kind = 83
  | _ => false

/-- Put the buffer into the file as a chunk. -/
def Receiver.spillChunk (receiver : Receiver) (fileId : ℕ) : Receiver :=
  let chunk := receiver.buf ++ [chunkClose]
  { receiver with
    buf := []
    spillInfo :=
      receiver.spillInfo ++ (chunkOpen :: sendInt 4 chunk.length)
    files := Function.update receiver.files fileId
      (receiver.files fileId ++ chunk) }

/-- Create a file for the transaction, if it has none. -/
def Receiver.openFile
    (config : Config) (receiver : Receiver) : Receiver × ℕ :=
  match receiver.spillFile with
  | some fileId => (receiver, fileId)
  | none =>
      let fileId := (receiver.spillFileId + 1) % 2 ^ 32
      ({ receiver with
          spillFile := some fileId
          spillFileId := fileId
          files := Function.update receiver.files fileId []
          spillInfo := receiver.spillInfo ++
            (actionF :: (sendInt 4 config.sender ++ sendInt 4 fileId)) },
        fileId)

/-- Spill the buffer before a message that makes it too large. -/
def Receiver.makeRoom
    (config : Config) (receiver : Receiver) (stmt : List UInt8) : Receiver :=
  if config.transSpillThreshold * 1024 ≤
      receiver.buf.length + stmt.length + 1 then
    let (receiver, fileId) := receiver.openFile config
    receiver.spillChunk fileId
  else receiver

/-- The end of a transaction whose last message is in the buffer. -/
def Receiver.finish
    (config : Config) (receiver : Receiver) (stmt : List UInt8)
    (event : UInt8) : Receiver × List Work :=
  if event ≠ pglogicalAbort ∧ config.filterTransaction stmt = false then
    match receiver.spillFile with
    | some fileId =>
        let spilled := receiver.spillChunk fileId
        ({ spilled with spillFile := none, spillInfo := [] },
          [{ bytes := spilled.spillInfo, noPool := false }])
    | none =>
        ({ receiver with buf := [] },
          [{ bytes := receiver.buf,
             noPool := decide (event = pglogicalCommit) }])
  else
    match receiver.spillFile with
    | some _ =>
        ({ receiver with buf := [], spillFile := none, spillInfo := [] }, [])
    | none => ({ receiver with buf := [] }, [])

/-- The receiver gets a message. -/
def Receiver.receive
    (config : Config) (receiver : Receiver) (stmt : List UInt8) :
    Receiver × List Work :=
  if nonTransactional stmt then
    match stmt with
    | 77 :: 83 :: _ =>
        if config.filterTransaction stmt then (receiver, [])
        else (receiver, [{ bytes := stmt, noPool := true }])
    | 77 :: 67 :: _ => (receiver, [{ bytes := stmt, noPool := false }])
    | _ => (receiver, [{ bytes := stmt, noPool := true }])
  else
    let room := receiver.makeRoom config stmt
    let received := { room with buf := room.buf ++ stmt }
    match stmt with
    | 67 :: event :: _ => received.finish config stmt event
    | _ => (received, [])

/-- The receiver gets messages one after the other. -/
def Receiver.receiveAll (config : Config) :
    Receiver → List (List UInt8) → Receiver × List Work
  | receiver, [] => (receiver, [])
  | receiver, stmt :: rest =>
      let (received, works) := receiver.receive config stmt
      let (final, later) := received.receiveAll config rest
      (final, works ++ later)

end Spill
end Multimaster
