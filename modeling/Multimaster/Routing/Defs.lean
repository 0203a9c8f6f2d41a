import Mathlib.Data.Fintype.Basic
import Multimaster.Subscription.Defs

/-!
# Queues between receivers and subscribers

A receiver process hands the messages of one sender over to the processes of this
node. For each subscriber it keeps a queue in a dsm segment, makes a new one when
the slot of the process is used by another generation, and publishes the handle
of the segment with the generation.  A subscriber looks up the handle and
attaches to the segment later.

Handles are never given twice.  The shared memory is changed under a lock, one
step here each; what a process does between its locks are separate steps, so that
everything can happen in between.
-/

namespace Multimaster
namespace Routing

open Subscription

/-- `DMQ_MAX_RECEIVERS` -/
def dmqMaxReceivers : ℕ := 10

/-- The index of a `DmqReceiverSlot`. -/
abbrev Slot := Fin dmqMaxReceivers

instance : NeZero dmqMaxReceivers :=
  ⟨by decide⟩

/-- A message of a stream with the subscription that `dmq_handle_message` found.
The messages of a slot are numbered as they arrive. -/
structure Message where
  slot : Slot
  number : ℕ
  subscriber : Subscriber
  deriving DecidableEq, Repr

/-- For whom a segment was created, and by the receiver of which sender. -/
structure Owner where
  slot : Slot
  sender : ℕ
  subscriber : Subscriber
  deriving DecidableEq, Repr

/-- `DmqReceiverSlot`: the name of the sender and `dsm_handles` by the process
slot, with `none` for an empty name and for `DSM_HANDLE_INVALID`. -/
structure ReceiverSlot where
  name : Option ℕ
  handles : ℕ → Option ℕ
  procnoGens : ℕ → ℕ

/-- What a receiver is doing for a subscription that it has read, with the
message to be sent in `dmq_handle_message` and without one in
`dmq_receiver_recreate_mqs`. -/
inductive Task
  | idle
  /-- The subscription was read. -/
  | found (subscriber : Subscriber) (message : Option Message)
  /-- The previous segment was released. -/
  | released (subscriber : Subscriber) (message : Option Message)
  /-- A queue was created, but not published. -/
  | created (subscriber : Subscriber) (message : Option Message)
  /-- The queue is good. -/
  | ready (subscriber : Subscriber) (message : Option Message)
  deriving DecidableEq, Repr

/-- A process in `dmq_receiver_loop`: `mq_handles` by the process slot, given by
the handles of their segments. -/
structure Receiver where
  sender : ℕ
  mqHandles : ℕ → Option ℕ
  task : Task

/-- An entry of `inhandles`. -/
inductive Inhandle
  | detached
  /-- `dmq_reattach_shm_mq` has found a handle. -/
  | found (handle : ℕ)
  | attached (handle : ℕ)
  deriving DecidableEq, Repr

/-- A subscriber, with `inhandles` by the sender. -/
structure Process where
  pid : ℕ
  locals : DmqLocal
  inhandles : ℕ → Inhandle

/-- A process got a message from a queue. -/
structure Reception where
  pid : ℕ
  handle : ℕ
  message : Message
  deriving DecidableEq, Repr

structure State where
  dmq : Dmq
  slots : Slot → ReceiverSlot
  receivers : Slot → Option Receiver
  /-- The process in each process slot. -/
  processes : ℕ → Option Process
  /-- The segments created so far. -/
  owners : ℕ → Option Owner
  /-- The receiver is attached to the segment. -/
  writers : ℕ → Bool
  /-- The process that is attached to the segment as the reader. -/
  readers : ℕ → Option ℕ
  /-- The reader has left the queue. -/
  closed : ℕ → Bool
  queues : ℕ → List Message
  /-- How many messages have arrived at a slot. -/
  arrivals : Slot → ℕ
  nextPid : ℕ
  /-- Which process was issued which generation. -/
  issued : List (ℕ × Subscriber)
  /-- The messages put into queues. -/
  sent : List (ℕ × Message)
  received : List Reception
  /-- The segments that were attached by a reader. -/
  attachments : List ℕ

inductive Action
  | startProcess (procno : ℕ)
  | exitProcess (procno : ℕ)
  | subscribe (procno stream : ℕ) (hasRoom : Bool)
  | unsubscribe (procno : ℕ)
  | startReceiver (slot : Slot) (sender : ℕ)
  | exitReceiver (slot : Slot)
  /-- The segments of a receiver that is gone are detached one by one. -/
  | leave (handle : ℕ)
  /-- `dmq_handle_message` up to the lookup of the subscription. -/
  | arrive (slot : Slot) (stream : ℕ)
  /-- `dmq_receiver_recreate_mqs` comes to a subscription. -/
  | request (slot : Slot) (stream : ℕ)
  /-- Is the queue good?  If not, the previous segment is released. -/
  | check (slot : Slot)
  | create (slot : Slot) (handle : ℕ)
  | publish (slot : Slot)
  /-- `shm_mq_send` -/
  | send (slot : Slot)
  /-- The lookup in `dmq_reattach_shm_mq`. -/
  | lookup (procno sender : ℕ) (slot : Slot)
  /-- `dsm_attach` and `shm_mq_attach`. -/
  | attach (procno sender : ℕ)
  /-- An error between the lookup and the attachment. -/
  | giveUp (procno sender : ℕ)
  /-- `dmq_pop_nb` gets a message. -/
  | receive (procno sender : ℕ)
  /-- `dmq_pop_nb` finds the queue detached, and `dmq_reattach_shm_mq` releases
  it. -/
  | release (procno sender : ℕ)
  deriving DecidableEq, Repr

/-- The record of the generations issued after `dmq_stream_subscribe`. -/
def issuedAfter
    (dmq : Dmq) (process : Process) (procno : ℕ)
    (issued : List (ℕ × Subscriber)) :
    List (ℕ × Subscriber) :=
  if process.locals.myProcnoGen = 0 then
    (process.pid,
      { procno := procno, procnoGen := issuedGen dmq process.locals procno }) ::
        issued
  else
    issued

namespace State

def setProcess (state : State) (procno : ℕ) (process : Process) : State :=
  { state with
    processes := Function.update state.processes procno (some process) }

def setReceiver (state : State) (slot : Slot) (receiver : Receiver) : State :=
  { state with receivers := Function.update state.receivers slot (some receiver) }

/-- Replace an entry of `inhandles`. -/
def setInhandle
    (state : State) (procno sender : ℕ) (process : Process)
    (inhandle : Inhandle) : State :=
  state.setProcess procno
    { process with
      inhandles := Function.update process.inhandles sender inhandle }

/-- `dmq_stream_subscribe`; it fails with an error, which changes nothing here. -/
def subscribe
    (state : State) (procno stream : ℕ) (hasRoom : Bool)
    (process : Process) : State :=
  let result := dmqStreamSubscribe state.dmq process.locals procno stream hasRoom
  { state.setProcess procno { process with locals := result.locals } with
    dmq := result.dmq
    issued := issuedAfter state.dmq process procno state.issued }

def unsubscribe (state : State) (procno : ℕ) (process : Process) : State :=
  let result := dmqStreamUnsubscribe state.dmq process.locals
  { state.setProcess procno { process with locals := result.2 } with
    dmq := result.1 }

/-- The exit hook unsubscribes, and all segments are detached. -/
def exitProcess (state : State) (procno : ℕ) (process : Process) : State :=
  { state with
    dmq := (dmqStreamUnsubscribe state.dmq process.locals).1
    processes := Function.update state.processes procno none
    readers := fun handle =>
      if state.readers handle = some process.pid then none
        else state.readers handle
    closed := fun handle =>
      if state.readers handle = some process.pid then true
        else state.closed handle }

/-- The start of `dmq_receiver_loop`: the generations in the slot stay. -/
def startReceiver (state : State) (slot : Slot) (sender : ℕ) : State :=
  { state.setReceiver slot
      { sender := sender, mqHandles := fun _ => none, task := .idle } with
    slots := Function.update state.slots slot
      { (state.slots slot) with name := some sender, handles := fun _ => none } }

/-- `dmq_receiver_at_exit` -/
def exitReceiver (state : State) (slot : Slot) : State :=
  { state with
    slots :=
      Function.update state.slots slot { (state.slots slot) with name := none }
    receivers := Function.update state.receivers slot none }

/-- A message arrives; it is dropped without a subscription. -/
def arrive (state : State) (slot : Slot) (stream : ℕ)
    (receiver : Receiver) : State :=
  let number := state.arrivals slot
  let counted :=
    { state with arrivals := Function.update state.arrivals slot (number + 1) }
  match state.dmq.subscriptions stream with
  | none => counted
  | some subscriber =>
    counted.setReceiver slot
      { receiver with
        task := .found subscriber
          (some { slot := slot, number := number, subscriber := subscriber }) }

def request (state : State) (slot : Slot) (stream : ℕ)
    (receiver : Receiver) : State :=
  match state.dmq.subscriptions stream with
  | none => state
  | some subscriber =>
    state.setReceiver slot { receiver with task := .found subscriber none }

/-- The queue is good if there is one and its published generation is that of the
subscription. -/
def check (state : State) (slot : Slot) (receiver : Receiver) : State :=
  match receiver.task with
  | .found subscriber message =>
    match receiver.mqHandles subscriber.procno with
    | none => state.setReceiver slot { receiver with
        task := .released subscriber message }
    | some handle =>
      if (state.slots slot).procnoGens subscriber.procno =
          subscriber.procnoGen then
        state.setReceiver slot { receiver with task := .ready subscriber message }
      else
        { state.setReceiver slot
            { receiver with
              mqHandles :=
                Function.update receiver.mqHandles subscriber.procno none
              task := .released subscriber message } with
          writers := Function.update state.writers handle false }
  | _ => state

/-- `dsm_create` and `shm_mq_create` -/
def create (state : State) (slot : Slot) (handle : ℕ)
    (receiver : Receiver) : State :=
  match receiver.task with
  | .released subscriber message =>
    { state.setReceiver slot
        { receiver with
          mqHandles :=
            Function.update receiver.mqHandles subscriber.procno (some handle)
          task := .created subscriber message } with
      owners := Function.update state.owners handle
        (some { slot := slot, sender := receiver.sender,
                subscriber := subscriber })
      writers := Function.update state.writers handle true }
  | _ => state

def publish (state : State) (slot : Slot) (receiver : Receiver) : State :=
  match receiver.task with
  | .created subscriber message =>
    let published := state.slots slot
    { state.setReceiver slot { receiver with
      task := .ready subscriber message } with
      slots := Function.update state.slots slot
        { published with
          handles := Function.update published.handles subscriber.procno
            (receiver.mqHandles subscriber.procno)
          procnoGens := Function.update published.procnoGens subscriber.procno
            subscriber.procnoGen } }
  | _ => state

/-- The message is dropped if the reader has left the queue. -/
def send (state : State) (slot : Slot) (receiver : Receiver) : State :=
  match receiver.task with
  | .ready subscriber message =>
    let done := state.setReceiver slot { receiver with task := .idle }
    match message, receiver.mqHandles subscriber.procno with
    | some message, some handle =>
      if state.closed handle then
        done
      else
        { done with
          queues :=
            Function.update state.queues handle
            (state.queues handle ++ [message])
          sent := state.sent ++ [(handle, message)] }
    | _, _ => done
  | _ => state

/-- A handle is taken if it is valid and published for the generation of the
process. -/
def lookup
    (state : State) (procno sender : ℕ) (slot : Slot)
    (process : Process) : State :=
  match (state.slots slot).handles procno with
  | some handle =>
    if (state.slots slot).procnoGens procno = process.locals.myProcnoGen then
      state.setInhandle procno sender process (.found handle)
    else
      state
  | none => state

/-- `dsm_attach` fails if nobody is attached to the segment any more. -/
def attach (state : State) (procno sender : ℕ) (process : Process) : State :=
  match process.inhandles sender with
  | .found handle =>
    if state.writers handle || (state.readers handle).isSome then
      { state.setInhandle procno sender process (.attached handle) with
        readers := Function.update state.readers handle (some process.pid)
        attachments := handle :: state.attachments }
    else
      state.setInhandle procno sender process .detached
  | _ => state

def giveUp (state : State) (procno sender : ℕ) (process : Process) : State :=
  match process.inhandles sender with
  | .found _ => state.setInhandle procno sender process .detached
  | _ => state

def receive (state : State) (sender : ℕ) (process : Process) : State :=
  match process.inhandles sender with
  | .attached handle =>
    match state.queues handle with
    | message :: rest =>
      { state with
        queues := Function.update state.queues handle rest
        received := state.received ++
          [{ pid := process.pid, handle := handle, message := message }] }
    | [] => state
  | _ => state

def release (state : State) (procno sender : ℕ) (process : Process) : State :=
  match process.inhandles sender with
  | .attached handle =>
    { state.setInhandle procno sender process .detached with
      readers := Function.update state.readers handle none
      closed := Function.update state.closed handle true }
  | _ => state

def perform (state : State) : Action → State
  | .startProcess procno =>
    { state.setProcess procno
        { pid := state.nextPid
          locals := { myProcnoGen := 0, currStream := none }
          inhandles := fun _ => .detached } with
      nextPid := state.nextPid + 1 }
  | .exitProcess procno =>
      (state.processes procno).elim state (state.exitProcess procno)
  | .subscribe procno stream hasRoom =>
    (state.processes procno).elim state (state.subscribe procno stream hasRoom)
  | .unsubscribe procno =>
      (state.processes procno).elim state (state.unsubscribe procno)
  | .startReceiver slot sender => state.startReceiver slot sender
  | .exitReceiver slot => state.exitReceiver slot
  | .leave handle => { state with
      writers := Function.update state.writers handle false }
  | .arrive slot stream =>
      (state.receivers slot).elim state (state.arrive slot stream)
  | .request slot stream =>
      (state.receivers slot).elim state (state.request slot stream)
  | .check slot => (state.receivers slot).elim state (state.check slot)
  | .create slot handle =>
      (state.receivers slot).elim state (state.create slot handle)
  | .publish slot => (state.receivers slot).elim state (state.publish slot)
  | .send slot => (state.receivers slot).elim state (state.send slot)
  | .lookup procno sender slot =>
    (state.processes procno).elim state (state.lookup procno sender slot)
  | .attach procno sender =>
    (state.processes procno).elim state (state.attach procno sender)
  | .giveUp procno sender =>
    (state.processes procno).elim state (state.giveUp procno sender)
  | .receive procno sender =>
      (state.processes procno).elim state (state.receive sender)
  | .release procno sender =>
    (state.processes procno).elim state (state.release procno sender)

/-- The segment is held by a receiver. -/
def Held (state : State) (handle : ℕ) : Prop :=
  ∃ slot, ((state.receivers slot).any fun receiver =>
    (state.owners handle).any fun owner =>
      receiver.mqHandles owner.subscriber.procno == some handle) = true

instance (state : State) (handle : ℕ) : Decidable (state.Held handle) :=
  inferInstanceAs (Decidable (∃ _ : Slot, _ = true))

/-- The entry of `inhandles` of a process. -/
def inhandle (state : State) (procno sender : ℕ) : Option Inhandle :=
  (state.processes procno).map fun process => process.inhandles sender

/-- `shm_mq_receive` returns `SHM_MQ_DETACHED`: the receiver has left the queue,
and there is no message left in it. -/
def Detached (state : State) : Option Inhandle → Prop
  | some (.attached handle) => state.writers handle = false ∧
      state.queues handle = []
  | _ => True

instance (state : State) : ∀ inhandle, Decidable (state.Detached inhandle)
  | some (.attached _) => inferInstanceAs (Decidable (_ ∧ _))
  | none | some .detached | some (.found _) => inferInstanceAs (Decidable True)

end State

/-- The guards.  A receiver takes up one message or subscription after the other,
a sender is connected once, and a process looks up a handle only where it is not
attached. -/
def Enabled (state : State) : Action → Prop
  | .startProcess procno => state.processes procno = none
  | .startReceiver slot sender => (state.slots slot).name = none ∧
      ∀ other, (state.slots other).name ≠ some sender
  | .leave handle => ¬state.Held handle
  | .arrive slot _ | .request slot _ =>
    (state.receivers slot).map Receiver.task = some .idle
  | .create _ handle => state.owners handle = none
  | .lookup procno sender slot => (state.slots slot).name = some sender ∧
      state.inhandle procno sender = some .detached
  | .release procno sender => state.Detached (state.inhandle procno sender)
  | _ => True

instance (state : State) : ∀ action, Decidable (Enabled state action)
  | .startProcess procno =>
    decidable_of_iff ((state.processes procno).isNone = true)
      Option.isNone_iff_eq_none
  | .startReceiver .. => inferInstanceAs (Decidable (_ ∧ ∀ _ : Slot, _ ≠ _))
  | .leave _ => inferInstanceAs (Decidable (¬_))
  | .arrive .. | .request .. => inferInstanceAs (Decidable (_ = some Task.idle))
  | .create _ handle => inferInstanceAs (Decidable (state.owners handle = none))
  | .lookup .. => inferInstanceAs (Decidable (_ ∧ _ = some Inhandle.detached))
  | .release procno sender =>
    inferInstanceAs (Decidable (state.Detached (state.inhandle procno sender)))
  | .exitProcess _ | .subscribe .. | .unsubscribe _ | .exitReceiver _ | .check _
  | .publish _ | .send _ | .attach .. | .giveUp .. | .receive .. =>
    inferInstanceAs (Decidable True)

/-- The processes of a node after its start. -/
def machine : Machine State Action where
  init :=
    { dmq := { procnoGens := fun _ => 0, subscriptions := fun _ => none }
      slots :=
        fun _ =>
        { name := none, handles := fun _ => none, procnoGens := fun _ => 0 }
      receivers := fun _ => none
      processes := fun _ => none
      owners := fun _ => none
      writers := fun _ => false
      readers := fun _ => none
      closed := fun _ => false
      queues := fun _ => []
      arrivals := fun _ => 0
      nextPid := 0
      issued := []
      sent := []
      received := []
      attachments := [] }
  Enabled := Enabled
  effect := State.perform

instance (state : State) (action : Action) :
    Decidable (machine.Enabled state action) :=
  inferInstanceAs (Decidable (Enabled state action))

end Routing
end Multimaster
