import Mathlib.Data.Nat.Notation
import Mathlib.Logic.Function.Basic
import Multimaster.Lib.Entries
import Multimaster.Lib.Machine

/-!
# Subscriptions to dmq streams

A process that waits for answers subscribes to a stream, and unsubscribes when it
has them.  The table of subscriptions is in shared memory and names the
subscriber by its process slot and by a generation, which is issued at the first
subscription, since slots are used again.
-/

namespace Multimaster
namespace Subscription

/-- A `DmqStreamSubscription` without its key. -/
structure Subscriber where
  procno : ℕ
  procnoGen : ℕ
  deriving DecidableEq, Repr

/-- The part of `dmq_state` for subscriptions.  The key `xid` stands for the
stream `xid<n>`. -/
structure Dmq where
  procnoGens : ℕ → ℕ
  subscriptions : ℕ → Option Subscriber

/-- The part of `dmq_local` for subscriptions. -/
structure DmqLocal where
  myProcnoGen : ℕ
  currStream : Option ℕ
  deriving DecidableEq, Repr

/-- `my_procno_gen` as of the first subscription. -/
def issuedGen (dmq : Dmq) (locals : DmqLocal) (procno : ℕ) : ℕ :=
  if locals.myProcnoGen = 0 then dmq.procnoGens procno + 1 else locals.myProcnoGen

/-- `procno_gens` after a generation was issued, if one was needed. -/
def issuedGens (dmq : Dmq) (locals : DmqLocal) (procno : ℕ) : ℕ → ℕ :=
  if locals.myProcnoGen = 0 then
    Function.update dmq.procnoGens procno (dmq.procnoGens procno + 1)
  else
    dmq.procnoGens

theorem le_issuedGens (dmq : Dmq) (locals : DmqLocal) (procno other : ℕ) :
    dmq.procnoGens other ≤ issuedGens dmq locals procno other := by
  rw [issuedGens]
  split_ifs
  · rcases eq_or_ne other procno with rfl | different
    · rw [Function.update_self]
      exact Nat.le_succ _
    · exact Nat.le_of_eq (Function.update_of_ne different _ _).symm
  · exact Nat.le_refl _

/-- What `dmq_stream_subscribe` leaves, and whether it succeeded. -/
structure Subscribed where
  dmq : Dmq
  locals : DmqLocal
  succeeded : Bool

/-- `dmq_stream_subscribe` up to `dmq_reattach_receivers`.  It fails if there is a
subscription to the stream or no room in the table, with the generation issued. -/
def dmqStreamSubscribe
    (dmq : Dmq) (locals : DmqLocal) (procno stream : ℕ) (hasRoom : Bool) :
      Subscribed :=
  let gen := issuedGen dmq locals procno
  let procnoGens := issuedGens dmq locals procno
  if (dmq.subscriptions stream).isSome || !hasRoom then
    { dmq := { dmq with procnoGens := procnoGens }
      locals := { locals with myProcnoGen := gen }
      succeeded := false }
  else
    { dmq :=
        { procnoGens := procnoGens
          subscriptions := Function.update dmq.subscriptions stream
            (some { procno := procno, procnoGen := gen }) }
      locals := { myProcnoGen := gen, currStream := some stream }
      succeeded := true }

/-- Either only the generation is issued, or the free stream is taken. -/
theorem dmqStreamSubscribe_cases
    (dmq : Dmq) (locals : DmqLocal) (procno stream : ℕ) (hasRoom : Bool) :
    dmqStreamSubscribe dmq locals procno stream hasRoom =
      { dmq := { dmq with procnoGens := issuedGens dmq locals procno }
        locals := { locals with myProcnoGen := issuedGen dmq locals procno }
        succeeded := false } ∨
    (dmq.subscriptions stream = none ∧
      dmqStreamSubscribe dmq locals procno stream hasRoom =
        { dmq :=
            { procnoGens := issuedGens dmq locals procno
              subscriptions := Function.update dmq.subscriptions stream
                (some { procno := procno,
                        procnoGen := issuedGen dmq locals procno }) }
          locals :=
            { myProcnoGen := issuedGen dmq locals procno,
              currStream := some stream }
          succeeded := true }) := by
  rw [dmqStreamSubscribe]
  split_ifs with fails
  · exact Or.inl rfl
  · refine Or.inr ⟨?_, rfl⟩
    cases isEntry : dmq.subscriptions stream with
    | none => rfl
    | some subscriber =>
      rw [isEntry] at fails
      exact absurd rfl fails

/-- The generation is issued in any case, and only an entry of the process is
added. -/
theorem dmqStreamSubscribe_spec
    (dmq : Dmq) (locals : DmqLocal) (procno stream : ℕ) (hasRoom : Bool) :
    let result := dmqStreamSubscribe dmq locals procno stream hasRoom
    result.locals.myProcnoGen = issuedGen dmq locals procno ∧
      result.dmq.procnoGens = issuedGens dmq locals procno ∧
      ∀ other subscriber, result.dmq.subscriptions other = some subscriber →
        dmq.subscriptions other = some subscriber ∨
        subscriber =
          { procno := procno, procnoGen := issuedGen dmq locals procno } := by
  intro result
  have isResult : result =
      dmqStreamSubscribe dmq locals procno stream hasRoom := rfl
  rcases dmqStreamSubscribe_cases dmq locals procno stream hasRoom with
      failed | ⟨-, entered⟩
  · rw [isResult, failed]
    exact ⟨rfl, rfl, fun _ _ => Or.inl⟩
  · rw [isResult, entered]
    refine ⟨rfl, rfl, ?_⟩
    intro other subscriber isEntry
    obtain ⟨-, isNew⟩ | ⟨-, wasEntry⟩ := update_some_cases isEntry
    · exact Or.inr isNew
    · exact Or.inl wasEntry

/-- `dmq_stream_unsubscribe` -/
def dmqStreamUnsubscribe (dmq : Dmq) (locals : DmqLocal) : Dmq × DmqLocal :=
  match locals.currStream with
  | none => (dmq, locals)
  | some stream =>
    ({ dmq with subscriptions := Function.update dmq.subscriptions stream none },
      { locals with currStream := none })

/-- Unsubscribing takes at most an entry out of the table. -/
theorem dmqStreamUnsubscribe_spec (dmq : Dmq) (locals : DmqLocal) :
    (dmqStreamUnsubscribe dmq locals).1.procnoGens = dmq.procnoGens ∧
      (dmqStreamUnsubscribe dmq locals).2.myProcnoGen = locals.myProcnoGen ∧
      ∀ stream subscriber,
        (dmqStreamUnsubscribe dmq locals).1.subscriptions stream =
          some subscriber →
        dmq.subscriptions stream = some subscriber := by
  rw [dmqStreamUnsubscribe]
  cases locals.currStream with
  | none => exact ⟨rfl, rfl, fun _ _ isEntry => isEntry⟩
  | some current =>
    refine ⟨rfl, rfl, ?_⟩
    intro stream subscriber isEntry
    exact (update_none_cases isEntry).2

/-! ## The callers -/

/-- Who subscribes, and the value of `MtmWaitPeerCommits` where it matters. -/
inductive Caller
  | twoPhaseCommit
  | explicitPrepare
  | explicitFinishPrepared (waitPeerCommits : Bool)
  deriving DecidableEq, Repr

/-- Where a backend is: in its main loop, in a caller before
`dmq_stream_subscribe`, or anywhere after it and before
`dmq_stream_unsubscribe`. -/
inductive Location
  | mainLoop
  | entered (caller : Caller) (stream : ℕ)
  | subscribed (caller : Caller) (stream : ℕ)
  deriving DecidableEq, Repr

structure Backend where
  locals : DmqLocal
  location : Location
  deriving DecidableEq, Repr

structure State where
  dmq : Dmq
  /-- The process in each slot. -/
  backends : ℕ → Option Backend
  /-- The processes that are gone. -/
  exited : List Subscriber

inductive Action
  /-- A process starts in a slot. -/
  | start (procno : ℕ)
  /-- The backend enters a caller. -/
  | enter (procno : ℕ) (caller : Caller) (stream : ℕ)
  | subscribe (procno : ℕ) (hasRoom : Bool)
  /-- The caller runs to its end. -/
  | finish (procno : ℕ)
  /-- An ERROR or a cancel in the caller, or the failed `PrepareTransactionBlock`
  of `MtmExplicitPrepare`, which is cleaned up in the same way. -/
  | raise (procno : ℕ)
  /-- The process exits, from wherever it is. -/
  | exit (procno : ℕ)
  deriving DecidableEq, Repr

namespace State

/-- The process of a slot is replaced, with what it does to the shared memory. -/
def put (state : State) (procno : ℕ) (dmq : Dmq) (backend : Backend) : State :=
  { state with
    dmq := dmq
    backends := Function.update state.backends procno (some backend) }

/-- `dmq_stream_unsubscribe` on the way back to the main loop. -/
def unsubscribe (state : State) (procno : ℕ) (backend : Backend) : State :=
  let result := dmqStreamUnsubscribe state.dmq backend.locals
  state.put procno result.1 { locals := result.2, location := .mainLoop }

/-- The error handlers: `mtm_commit_cleanup` unsubscribes, the handler of
`MtmExplicitFinishPrepared` does not. -/
def handle (state : State) (procno : ℕ) (caller : Caller)
    (backend : Backend) : State :=
  match caller with
  | .twoPhaseCommit | .explicitPrepare => state.unsubscribe procno backend
  | .explicitFinishPrepared _ =>
    state.put procno state.dmq { backend with location := .mainLoop }

/-- A failed `dmq_stream_subscribe` raises an error. -/
def subscribe (state : State) (procno : ℕ) (hasRoom : Bool)
    (backend : Backend) : State :=
  match backend.location with
  | .entered caller stream =>
    let result :=
      dmqStreamSubscribe state.dmq backend.locals procno stream hasRoom
    if result.succeeded then
      state.put procno result.dmq
        { locals := result.locals, location := .subscribed caller stream }
    else
      (state.put procno result.dmq { backend with
        locals := result.locals }).handle procno
        caller { backend with locals := result.locals }
  | _ => state

def finish (state : State) (procno : ℕ) (backend : Backend) : State :=
  match backend.location with
  | .subscribed _ _ => state.unsubscribe procno backend
  | _ => state.put procno state.dmq { backend with location := .mainLoop }

def raise (state : State) (procno : ℕ) (backend : Backend) : State :=
  match backend.location with
  | .entered caller _ | .subscribed caller _ => state.handle procno caller backend
  | .mainLoop => state

/-- The exit hook unsubscribes. -/
def exit (state : State) (procno : ℕ) (backend : Backend) : State :=
  { dmq := (dmqStreamUnsubscribe state.dmq backend.locals).1
    backends := Function.update state.backends procno none
    exited :=
      { procno := procno, procnoGen := backend.locals.myProcnoGen } ::
      state.exited }

def perform (state : State) : Action → State
  | .start procno =>
    state.put procno state.dmq
      { locals := { myProcnoGen := 0, currStream := none },
        location := .mainLoop }
  | .enter procno caller stream =>
    (state.backends procno).elim state fun backend =>
      state.put procno state.dmq { backend with
        location := .entered caller stream }
  | .subscribe procno hasRoom =>
    (state.backends procno).elim state (state.subscribe procno hasRoom)
  | .finish procno => (state.backends procno).elim state (state.finish procno)
  | .raise procno => (state.backends procno).elim state (state.raise procno)
  | .exit procno => (state.backends procno).elim state (state.exit procno)

end State

/-- The caller subscribes at all. -/
def Caller.subscribes : Caller → Bool
  | .twoPhaseCommit | .explicitPrepare => true
  | .explicitFinishPrepared waitPeerCommits => waitPeerCommits

/-- What can happen in a slot with the process at the given place, if there is
one. -/
def permits : Option Location → Action → Bool
  | none, .start _ => true
  | some .mainLoop, .enter _ _ _ => true
  | some (.entered caller _), .subscribe _ _ => caller.subscribes
  | some (.entered caller _), .finish _ => !caller.subscribes
  | some (.entered _ _), .raise _ => true
  | some (.subscribed _ _), .finish _ => true
  | some (.subscribed _ _), .raise _ => true
  | some _, .exit _ => true
  | _, _ => false

/-- The slot that an action is about. -/
def Action.procno : Action → ℕ
  | .start procno | .enter procno _ _ | .subscribe procno _ | .finish procno
  | .raise procno | .exit procno => procno

/-- The processes of a node after its start. -/
def machine : Machine State Action where
  init :=
    { dmq := { procnoGens := fun _ => 0, subscriptions := fun _ => none }
      backends := fun _ => none
      exited := [] }
  Enabled := fun state action =>
    permits ((state.backends action.procno).map Backend.location) action = true
  effect := State.perform

instance (state : State) (action : Action) :
    Decidable (machine.Enabled state action) :=
  inferInstanceAs (Decidable (_ = true))

end Subscription
end Multimaster
