import Mathlib.Data.Fintype.Basic
import Mathlib.Data.List.FinRange
import Mathlib.Logic.Function.Basic
import Multimaster.Lib.Machine
import Multimaster.Nodemask

/-!
# The dmq sender

One process holds the connections to all destinations.  Destinations are added,
dropped and asked to reconnect in shared memory by other processes; the sender
takes the changes over in a pass over all slots.  A connection goes from Idle
through Connecting and Negotiating to Active, driven by a timer and by the events
of a wait set.

The iterations of `dmq_sender_main` are cut into the steps that change the state:
the configuration pass, one message to a connection, the timer for one connection
and one socket event.
-/

namespace Multimaster
namespace Sender

/-- `DMQ_MAX_DESTINATIONS`, the length of the arrays of destinations and
counters. -/
def dmqMaxDestinations : ℕ := 10

/-- `DmqConnState` -/
inductive ConnState
  | idle
  | connecting
  | negotiating
  | active
  deriving DecidableEq, Repr

/-- A slot of `dmq_state->destinations`.  The receiver of the name `node<n>` has
the `mask_pos` n - 1. -/
structure Destination where
  active : Bool
  maskPos : ℕ
  reconnectRequested : Bool
  deriving DecidableEq, Repr

/-- An entry of `conns`; `pgconn` tells whether there is a connection object,
`pos` is the position of its event in the wait set. -/
structure Conn where
  active : Bool
  maskPos : ℕ
  state : ConnState
  pos : ℕ
  pgconn : Bool
  deriving DecidableEq, Repr

/-- The index of a slot. -/
abbrev Slot := Fin dmqMaxDestinations

instance : NeZero dmqMaxDestinations :=
  ⟨by decide⟩

/-- The sender and the shared memory it works on. -/
structure State where
  dests : Slot → Destination
  conns : Slot → Conn
  /-- The socket events of the wait set, by their position. -/
  set : ℕ → Option Slot
  /-- `dmq_senders_mask` -/
  sendersMask : Nodemask
  /-- `dmq_state->sconn_cnt` -/
  sconnCnt : ℕ → ℤ
  /-- `sconn_cnt` of the sender. -/
  localCnt : ℕ → ℤ
  /-- What `dmq_get_sendconn_cnt` returned to a caller for a participant. -/
  snapshot : ℕ × ℕ → Option ℤ
  /-- The connection to the participant was Active all the time since the
  snapshot. -/
  unbroken : ℕ × ℕ → Bool
  /-- The indices at which the two counter arrays were accessed. -/
  accessed : List ℕ

/-- `PostgresPollingStatusType` as `MtmPQconnectPoll` returns it. -/
inductive PollingStatus
  | reading
  | writing
  | ok
  | failed
  deriving DecidableEq, Repr

/-- What happens to a connection at the timer: whether `PQconnectStart` succeeds
and where its event is put, whether a heartbeat fails, and whether the attempt
timed out. -/
structure TimerResult where
  started : Bool
  pos : ℕ
  sendFails : Bool
  timedOut : Bool
  deriving DecidableEq, Repr

/-- The results of libpq at a socket event, and where the event is put again. -/
structure SocketResult where
  status : PollingStatus
  pos : ℕ
  consumed : Bool
  busy : Bool
  deriving DecidableEq, Repr

/-- The steps of the sender and of those who use it. -/
inductive Action
  /-- `dmq_destination_add` -/
  | destinationAdd (maskPos : ℕ)
  /-- `dmq_destination_drop` of one receiver. -/
  | destinationDrop (maskPos : ℕ)
  /-- `dmq_destination_drop` of all. -/
  | destinationDropAll
  /-- `dmq_destination_reconnect` of one receiver. -/
  | destinationReconnect (maskPos : ℕ)
  /-- `dmq_destination_reconnect` of all. -/
  | destinationReconnectAll
  /-- The pass over the slots after SIGHUP. -/
  | configure
  /-- A message of a backend for the connection. -/
  | transfer (slot : Slot) (fails : Bool)
  | timer (slot : Slot) (result : TimerResult)
  | socket (pos : ℕ) (result : SocketResult)
  /-- `dmq_get_sendconn_cnt` for a participant. -/
  | getSendconnCnt (caller participant : ℕ)
  /-- `dmq_purge_failed_participants` reads the counter of a participant. -/
  | readSendconnCnt (caller participant : ℕ)
  /-- The caller does not use the counter of a participant any more. -/
  | forget (caller participant : ℕ)
  deriving DecidableEq, Repr

namespace State

/-- Replace a connection. -/
def setConn (state : State) (slot : Slot) (conn : Conn) : State :=
  { state with conns := Function.update state.conns slot conn }

/-- Replace a destination. -/
def setDest (state : State) (slot : Slot) (dest : Destination) : State :=
  { state with dests := Function.update state.dests slot dest }

/-- The shared counter of a participant becomes `DMQSCONN_DEAD`. -/
def setDead (state : State) (maskPos : ℕ) : State :=
  { state with
    sconnCnt := Function.update state.sconnCnt maskPos 0
    accessed := maskPos :: state.accessed }

/-- `MtmOnDmqSenderConnect` -/
def connectHook (state : State) (maskPos : ℕ) : State :=
  { state with sendersMask := bitSet state.sendersMask maskPos }

/-- `MtmOnDmqSenderDisconnect` -/
def disconnectHook (state : State) (maskPos : ℕ) : State :=
  { state with sendersMask := bitClear state.sendersMask maskPos }

/-- `AddWaitEventToSet` -/
def addWaitEvent (state : State) (pos : ℕ) (slot : Slot) : State :=
  { state with set := Function.update state.set pos (some slot) }

/-- `DeleteWaitEvent` -/
def deleteWaitEvent (state : State) (pos : ℕ) : State :=
  { state with set := Function.update state.set pos none }

/-- The first slot without an active destination. -/
def freeSlot (state : State) : Option Slot :=
  (List.finRange dmqMaxDestinations).find? fun slot => !(state.dests slot).active

/-- The first slot with an active destination of the receiver. -/
def slotOf (state : State) (maskPos : ℕ) : Option Slot :=
  (List.finRange dmqMaxDestinations).find? fun slot =>
    (state.dests slot).active && (state.dests slot).maskPos == maskPos

/-- `dmq_destination_add`: without a free slot an error is raised. -/
def destinationAdd (state : State) (maskPos : ℕ) : State :=
  match state.freeSlot with
  | some slot =>
    state.setDest slot
      { (state.dests slot) with active := true, maskPos := maskPos }
  | none => state

/-- The configuration of one slot. -/
def configureSlot (state : State) (slot : Slot) : State :=
  let dest := state.dests slot
  let conn := state.conns slot
  if dest.active && !conn.active then
    -- A freshly added destination.
    { (state.setConn slot
          { active := true, maskPos := dest.maskPos, state := .idle, pos := 0,
            pgconn := false }).setDead dest.maskPos with
      localCnt := Function.update state.localCnt dest.maskPos 0 }
  else if !dest.active && conn.active then
    -- A deleted destination: its connection is closed.
    state.setConn slot { conn with active := false, pgconn := false }
  else if dest.active && conn.active && dest.reconnectRequested then
    let closed :=
      (state.setDest slot { dest with reconnectRequested := false }).setConn
        slot { conn with state := .idle, pgconn := false }
    let told :=
      if conn.state = .active then closed.disconnectHook conn.maskPos
      else closed
    told.setDead dest.maskPos
  else
    state

/-- The pass over the slots. -/
def configure (state : State) : State :=
  (List.finRange dmqMaxDestinations).foldl configureSlot state

/-- An Active connection failed. -/
def loseConnection (state : State) (slot : Slot) : State :=
  let conn := state.conns slot
  ((state.setConn slot { conn with state := .idle }).setDead
    conn.maskPos).disconnectHook
    conn.maskPos

/-- `dmq_send`, which fails without a connection object. -/
def dmqSend (state : State) (slot : Slot) (fails : Bool) : State :=
  if fails || !(state.conns slot).pgconn then state.loseConnection slot else state

/-- The message of a backend: it is dropped unless the connection is Active. -/
def transfer (state : State) (slot : Slot) (fails : Bool) : State :=
  if (state.conns slot).state = .active then state.dmqSend slot fails else state

/-- The timer for one connection. -/
def timer (state : State) (slot : Slot) (result : TimerResult) : State :=
  let conn := state.conns slot
  if !conn.active then
    state
  else
    match conn.state with
    | .idle =>
      if result.started then
        (state.setConn slot
          { conn with
            state := .connecting
            pos := result.pos
            pgconn := true }).addWaitEvent result.pos slot
      else
        state.setConn slot { conn with pgconn := true }
    | .active => state.dmqSend slot result.sendFails
    | .connecting =>
      if result.timedOut then
        (state.setConn slot { conn with state := .idle }).deleteWaitEvent conn.pos
      else
        state
    | .negotiating => state

/-- The connection is established. -/
def establish (state : State) (slot : Slot) (pos : ℕ) : State :=
  let conn := state.conns slot
  let count := state.localCnt conn.maskPos + 1
  let opened :=
    (state.setConn slot { conn with state := .active }).deleteWaitEvent pos
  let counted := { opened with
    localCnt := Function.update opened.localCnt conn.maskPos count
    sconnCnt := Function.update opened.sconnCnt conn.maskPos count
    accessed := conn.maskPos :: opened.accessed }
  counted.connectHook conn.maskPos

/-- A socket event at a position of the wait set. -/
def socket (state : State) (pos : ℕ) (result : SocketResult) : State :=
  match state.set pos with
  | none => state
  | some slot =>
    let conn := state.conns slot
    match conn.state with
    | .idle => state
    | .connecting =>
      match result.status with
      | .reading | .writing =>
        -- libpq may have made a new socket, so the event is registered again.
        ((state.deleteWaitEvent pos).addWaitEvent result.pos slot).setConn slot
          { conn with pos := result.pos }
      | .ok => state.setConn slot { conn with state := .negotiating }
      | .failed =>
          (state.setConn slot { conn with state := .idle }).deleteWaitEvent pos
    | .negotiating =>
      let failed :=
        if result.consumed then state
        else (state.setConn slot { conn with state := .idle }).deleteWaitEvent pos
      if result.busy then failed else failed.establish slot pos
    | .active => if result.consumed then state else state.loseConnection slot

/-- The destination of the participant is active, with its connection Active. -/
def Connected (state : State) (maskPos : ℕ) : Prop :=
  ∃ slot, (state.conns slot).active = true ∧
    (state.conns slot).maskPos = maskPos ∧
    (state.conns slot).state = .active

instance (state : State) (maskPos : ℕ) : Decidable (state.Connected maskPos) :=
  inferInstanceAs (Decidable (∃ _ : Slot, _))

/-- A snapshot is broken as soon as the connection is not Active. -/
def track (state : State) : State :=
  { state with
    unbroken :=
      fun call => state.unbroken call && decide (state.Connected call.2) }

/-- The step without the record of unbroken connections. -/
def perform (state : State) : Action → State
  | .destinationAdd maskPos => state.destinationAdd maskPos
  | .destinationDrop maskPos =>
    match state.slotOf maskPos with
    | some slot => state.setDest slot { (state.dests slot) with active := false }
    | none => state
  | .destinationDropAll =>
    { state with
      dests := fun slot => { (state.dests slot) with active := false } }
  | .destinationReconnect maskPos =>
    match state.slotOf maskPos with
    | some slot => state.setDest slot { (state.dests slot) with
        reconnectRequested := true }
    | none => state
  | .destinationReconnectAll =>
    { state with dests := fun slot =>
        if (state.dests slot).active then
          { (state.dests slot) with reconnectRequested := true }
        else
          state.dests slot }
  | .configure => state.configure
  | .transfer slot fails => state.transfer slot fails
  | .timer slot result => state.timer slot result
  | .socket pos result => state.socket pos result
  | .getSendconnCnt caller participant =>
    { state with
      snapshot := Function.update state.snapshot (caller, participant)
        (some (state.sconnCnt participant))
      unbroken := Function.update state.unbroken (caller, participant) true
      accessed := participant :: state.accessed }
  | .readSendconnCnt _ participant =>
    { state with accessed := participant :: state.accessed }
  | .forget caller participant =>
    { state with
      snapshot := Function.update state.snapshot (caller, participant) none }

end State

/-- A socket position of the wait set of 15 events, of which two are taken by the
postmaster and the latch. -/
def SocketPos (pos : ℕ) : Prop :=
  2 ≤ pos ∧ pos < 15

instance (pos : ℕ) : Decidable (SocketPos pos) :=
  inferInstanceAs (Decidable (_ ∧ _))

/-- The guards: node ids go to `MTM_MAX_NODES`, and an event is put at a free
position. -/
def Enabled (state : State) : Action → Prop
  | .destinationAdd maskPos => maskPos < mtmMaxNodes
  | .timer slot result =>
    (state.conns slot).active = true → (state.conns slot).state = .idle →
      result.started = true → SocketPos result.pos ∧ state.set result.pos = none
  | .socket pos result =>
    (state.set pos).isSome = true ∧ SocketPos result.pos ∧
      (result.pos = pos ∨ state.set result.pos = none)
  | .getSendconnCnt _ participant => participant < mtmMaxNodes
  | .readSendconnCnt caller participant =>
    (state.snapshot (caller, participant)).isSome = true
  | _ => True

instance (state : State) : ∀ action, Decidable (Enabled state action)
  | .destinationAdd _ | .getSendconnCnt .. => inferInstanceAs (Decidable (_ < _))
  | .timer .. => inferInstanceAs (Decidable (_ → _ → _ → _ ∧ _))
  | .socket .. => inferInstanceAs (Decidable (_ ∧ _))
  | .readSendconnCnt .. => inferInstanceAs (Decidable (_ = true))
  | .destinationDrop _ | .destinationDropAll | .destinationReconnect _
  | .destinationReconnectAll | .configure | .transfer .. | .forget .. =>
    inferInstanceAs (Decidable True)

/-- The sender after its start. -/
def machine : Machine State Action where
  init :=
    { dests := fun _ =>
      { active := false, maskPos := 0, reconnectRequested := false }
      conns := fun _ =>
        { active := false, maskPos := 0, state := .idle, pos := 0,
          pgconn := false }
      set := fun _ => none
      sendersMask := 0#64
      sconnCnt := fun _ => 0
      localCnt := fun _ => 0
      snapshot := fun _ => none
      unbroken := fun _ => false
      accessed := [] }
  Enabled := Enabled
  effect := fun state action => (state.perform action).track

instance (state : State) (action : Action) :
    Decidable (machine.Enabled state action) :=
  inferInstanceAs (Decidable (Enabled state action))

end Sender
end Multimaster
