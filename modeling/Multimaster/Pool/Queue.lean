import Multimaster.Lib.Machine
import Multimaster.Lib.Memory

/-!
# The queue of an apply pool

A circular buffer between the receiver and its workers.  A message is a size
word, the position in the list of transactions and the work itself.  The size
word always stands at the tail; when the rest does not fit behind it, the rest
goes to the beginning of the buffer.
-/

namespace Multimaster
namespace Pool

/-- `MAXALIGN`. -/
def maxAlign (length : ℕ) : ℕ :=
  (length + 7) / 8 * 8

/-- `INTALIGN`. -/
def intAlign (length : ℕ) : ℕ :=
  (length + 3) / 4 * 4

/-- `MSGLEN`. -/
def msgLen (length : ℕ) : ℕ :=
  2 * 4 + maxAlign length

/-- What is handed to a worker. -/
structure Message where
  txlistPos : BitVec 32
  work : List Byte
  deriving DecidableEq

/-- The length of a message in the queue. -/
def Message.len (message : Message) : ℕ :=
  msgLen message.work.length

/-- The queue state of `BgwPool` and its segment. -/
structure Queue where
  memory : Memory
  head : ℕ
  tail : ℕ
  size : ℕ

/-- `BgwPoolStart`, with `multimaster.trans_spill_threshold`. -/
def bgwPoolStart (transSpillThreshold : ℕ) (memory : Memory) : Queue where
  memory := memory
  head := 0
  tail := 0
  size := intAlign (transSpillThreshold * 1024 * 2)

/-- A position at the end of the buffer is its beginning. -/
def wrap (size position : ℕ) : ℕ :=
  if position = size then 0 else position

/-- The condition under which `BgwPoolExecute` does not wait. -/
def Queue.HasRoom (queue : Queue) (message : Message) : Prop :=
  (queue.head ≤ queue.tail ∧
      (message.len ≤ queue.size - queue.tail ∨
        message.len - 4 ≤ queue.head)) ∨
    (queue.tail < queue.head ∧ message.len ≤ queue.head - queue.tail)

instance (queue : Queue) (message : Message) :
    Decidable (queue.HasRoom message) :=
  inferInstanceAs (Decidable (_ ∨ _))

/-- The push in `BgwPoolExecute`. -/
def Queue.push (queue : Queue) (message : Message) : Queue :=
  let memory :=
    queue.memory.storeWord queue.tail (BitVec.ofNat 32 message.work.length)
  if message.len ≤ queue.size - queue.tail then
    { queue with
      memory := (memory.storeWord (queue.tail + 4) message.txlistPos).store
        (queue.tail + 2 * 4) message.work
      tail := wrap queue.size (queue.tail + message.len) }
  else
    { queue with
      memory := (memory.storeWord 0 message.txlistPos).store 4 message.work
      tail := wrap queue.size (message.len - 4) }

/-- The message at the head. -/
def Queue.front (queue : Queue) : Message :=
  let length := (queue.memory.loadWord queue.head).toNat
  if queue.size < queue.head + msgLen length then
    { txlistPos := queue.memory.loadWord 0
      work := queue.memory.load 4 length }
  else
    { txlistPos := queue.memory.loadWord (queue.head + 4)
      work := queue.memory.load (queue.head + 2 * 4) length }

/-- The head behind the message at the head. -/
def Queue.behind (queue : Queue) : ℕ :=
  let length := (queue.memory.loadWord queue.head).toNat
  wrap queue.size
    (if queue.size < queue.head + msgLen length then msgLen length - 4
    else queue.head + msgLen length)

/-- The pop in `BgwPoolMainLoop`. -/
def Queue.pop (queue : Queue) : Queue :=
  if queue.behind = queue.tail then
    { queue with
      head := 0
      tail := 0 }
  else { queue with head := queue.behind }

/-- The queue with what was pushed, each message with the place of its size
word, and what was popped. -/
structure State where
  queue : Queue
  pushed : List (ℕ × Message)
  popped : List Message

/-- The messages in the order of pushes. -/
def State.messages (state : State) : List Message :=
  state.pushed.map Prod.snd

/-- The pushes that were not popped. -/
def State.pending (state : State) : List (ℕ × Message) :=
  state.pushed.drop state.popped.length

/-- What is done under the lock of the pool. -/
inductive Action
  | push (message : Message)
  /-- Some worker pops. -/
  | pop

/-- A push is made with an `int` size that passes the assertion, when there is
room; a pop is made when the queue is not found empty. -/
def Enabled (state : State) : Action → Prop
  | .push message =>
      message.work.length < 2 ^ 31 ∧ message.len ≤ state.queue.size ∧
        state.queue.HasRoom message
  | .pop => state.queue.head ≠ state.queue.tail

/-- The state after a push or a pop. -/
def effect (state : State) : Action → State
  | .push message =>
      { state with
        queue := state.queue.push message
        pushed := state.pushed ++ [(state.queue.tail, message)] }
  | .pop =>
      { state with
        queue := state.queue.pop
        popped := state.popped ++ [state.queue.front] }

/-- A pool of some size. -/
def machine (transSpillThreshold : ℕ) (memory : Memory) :
    Machine State Action where
  init :=
    { queue := bgwPoolStart transSpillThreshold memory
      pushed := []
      popped := [] }
  Enabled := Enabled
  effect := effect

/-- The push would leave no gap between the tail and the head. -/
def Queue.FillsExactly (queue : Queue) (message : Message) : Prop :=
  if message.len ≤ queue.size - queue.tail then
    wrap queue.size (queue.tail + message.len) = queue.head
  else message.len - 4 = queue.head

instance (queue : Queue) (message : Message) :
    Decidable (queue.FillsExactly message) :=
  inferInstanceAs (Decidable
    (if message.len ≤ queue.size - queue.tail then _ = _ else _ = _))

/-- No push fills the queue exactly. -/
def LeavesGap (state : State) : Action → Prop
  | .push message => ¬ state.queue.FillsExactly message
  | .pop => True

end Pool
end Multimaster
