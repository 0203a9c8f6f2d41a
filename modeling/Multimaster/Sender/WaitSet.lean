import Mathlib.Data.Fintype.Pigeonhole
import Multimaster.Lib.Entries
import Multimaster.Sender.Configure

/-!
# Wait events and connection states

The wait set has one event for every connection in its handshake and no other, as
long as the configuration pass does not close a connection in the middle of its
handshake: closing it leaves the event behind.
-/

namespace Multimaster
namespace Sender

/-- An active destination in state Connecting or Negotiating. -/
def Conn.Handshaking (conn : Conn) : Prop :=
  conn.active = true ∧ (conn.state = .connecting ∨ conn.state = .negotiating)

instance (conn : Conn) : Decidable conn.Handshaking :=
  inferInstanceAs (Decidable (_ ∧ _))

/-- The events are those of the connections in their handshake. -/
structure EventsMatch (state : State) : Prop where
  registered : ∀ pos slot, state.set pos = some slot ↔
    (state.conns slot).Handshaking ∧ (state.conns slot).pos = pos
  isSocket : ∀ pos slot, state.set pos = some slot → SocketPos pos

/-- The configuration pass closes no connection in its handshake. -/
def ClosesNoHandshake (state : State) : Action → Prop
  | .configure => ∀ slot, (state.conns slot).Handshaking →
      (state.dests slot).active = true ∧
        (state.dests slot).reconnectRequested = false
  | _ => True

instance (state : State) : ∀ action, Decidable (ClosesNoHandshake state action)
  | .configure => inferInstanceAs (Decidable (∀ _ : Slot, _ → _ ∧ _))
  | .destinationAdd _ | .destinationDrop _ | .destinationDropAll |
        .destinationReconnect _
  | .destinationReconnectAll | .transfer .. | .timer .. | .socket .. |
        .getSendconnCnt ..
  | .readSendconnCnt .. | .forget .. => inferInstanceAs (Decidable True)

theorem not_handshaking_of_state
    {conn : Conn} (isOther : conn.state = .idle ∨ conn.state = .active) :
    ¬conn.Handshaking := by
  rintro ⟨-, isConnecting | isNegotiating⟩
  · rcases isOther with isIdle | isActive
    · exact nomatch isIdle.symm.trans isConnecting
    · exact nomatch isActive.symm.trans isConnecting
  · rcases isOther with isIdle | isActive
    · exact nomatch isIdle.symm.trans isNegotiating
    · exact nomatch isActive.symm.trans isNegotiating

namespace EventsMatch

variable {state after : State}

/-- A step that changes neither the events nor a handshake. -/
theorem congr
    (matched : EventsMatch state) (sameSet : after.set = state.set)
    (sameConns : ∀ slot,
      ((after.conns slot).Handshaking ↔ (state.conns slot).Handshaking) ∧
      ((state.conns slot).Handshaking →
        (after.conns slot).pos = (state.conns slot).pos)) :
    EventsMatch after where
  registered := by
    intro pos slot
    obtain ⟨sameHandshake, samePos⟩ := sameConns slot
    rw [sameSet, matched.registered, sameHandshake]
    exact and_congr_right fun handshaking => by rw [samePos handshaking]
  isSocket := by
    intro pos slot isEvent
    exact matched.isSocket pos slot (sameSet ▸ isEvent)

/-- One connection is replaced, and only its events change. -/
theorem replace
    (matched : EventsMatch state) {slot : Slot} {conn : Conn}
    (isConns : after.conns = Function.update state.conns slot conn)
    (own : ∀ pos, after.set pos = some slot ↔ conn.Handshaking ∧ conn.pos = pos)
    (others : ∀ pos other, other ≠ slot →
      (after.set pos = some other ↔ state.set pos = some other))
    (isSocket : conn.Handshaking → SocketPos conn.pos) :
    EventsMatch after where
  registered := by
    intro pos other
    rw [isConns]
    rcases eq_or_ne other slot with rfl | different
    · rw [Function.update_self]
      exact own pos
    · rw [Function.update_of_ne different, others pos other different]
      exact matched.registered pos other
  isSocket := by
    intro pos other isEvent
    rcases eq_or_ne other slot with rfl | different
    · obtain ⟨handshaking, rfl⟩ := (own pos).mp isEvent
      exact isSocket handshaking
    · exact matched.isSocket pos other ((others pos other different).mp isEvent)

/-- A connection out of its handshake that stays out of it. -/
theorem stay
    (matched : EventsMatch state) {slot : Slot} {conn : Conn}
    (isConns : after.conns = Function.update state.conns slot conn)
    (sameSet : after.set = state.set)
    (was : ¬(state.conns slot).Handshaking) (stays : ¬conn.Handshaking) :
    EventsMatch after := by
  apply matched.congr sameSet
  intro other
  rw [isConns]
  rcases eq_or_ne other slot with rfl | different
  · rw [Function.update_self]
    exact ⟨iff_of_false stays was, fun handshaking => absurd handshaking was⟩
  · rw [Function.update_of_ne different]
    exact ⟨Iff.rfl, fun _ => rfl⟩

/-- The only position of a connection in its handshake. -/
theorem pos_eq
    (matched : EventsMatch state) {slot : Slot} {pos : ℕ}
    (isEvent : state.set pos = some slot) : (state.conns slot).pos = pos :=
  ((matched.registered pos slot).mp isEvent).2

/-- A handshake ends, and its event is deleted. -/
theorem finish
    (matched : EventsMatch state) {slot : Slot} {conn : Conn} {pos : ℕ}
    (isConns : after.conns = Function.update state.conns slot conn)
    (isSet : after.set = Function.update state.set pos none)
    (isEvent : state.set pos = some slot) (ends : ¬conn.Handshaking) :
    EventsMatch after := by
  apply matched.replace isConns
  · intro other
    refine iff_of_false ?_ fun both => ends both.1
    rw [isSet]
    intro stillEvent
    obtain ⟨different, wasEvent⟩ := update_none_cases stillEvent
    exact different
      ((matched.pos_eq wasEvent).symm.trans (matched.pos_eq isEvent))
  · intro other otherSlot different
    rw [isSet]
    rcases eq_or_ne other pos with rfl | otherPos
    · rw [Function.update_self, isEvent]
      exact iff_of_false nofun fun same => different (Option.some.inj same).symm
    · rw [Function.update_of_ne otherPos]
  · exact fun handshaking => absurd handshaking ends

/-- An Active connection is lost. -/
theorem loseConnection
    (matched : EventsMatch state) {slot : Slot}
    (isActive : (state.conns slot).state = .active) :
    EventsMatch (state.loseConnection slot) :=
  matched.stay rfl rfl (not_handshaking_of_state (Or.inr isActive))
    (not_handshaking_of_state (Or.inl rfl))

/-- An event is put for a connection, in place of the one it had. -/
theorem register
    (matched : EventsMatch state) {slot : Slot} {conn : Conn}
    (isConns : after.conns = Function.update state.conns slot conn)
    (isEvent : after.set conn.pos = some slot)
    (onlyEvent : ∀ pos, pos ≠ conn.pos → after.set pos ≠ some slot)
    (others : ∀ pos other, other ≠ slot →
      (after.set pos = some other ↔ state.set pos = some other))
    (handshaking : conn.Handshaking) (isSocket : SocketPos conn.pos) :
    EventsMatch after := by
  apply matched.replace isConns _ others fun _ => isSocket
  intro pos
  rcases eq_or_ne pos conn.pos with rfl | different
  · exact iff_of_true isEvent ⟨handshaking, rfl⟩
  · exact iff_of_false (onlyEvent pos different) fun both => different both.2.symm

/-- A handshake begins. -/
theorem start
    (matched : EventsMatch state) {slot : Slot} {conn : Conn}
    (isConns : after.conns = Function.update state.conns slot conn)
    (isSet : after.set = Function.update state.set conn.pos (some slot))
    (isIdle : (state.conns slot).state = .idle)
    (isFree : state.set conn.pos = none)
    (handshaking : conn.Handshaking) (isSocket : SocketPos conn.pos) :
    EventsMatch after := by
  have wasOut : ∀ other, state.set other ≠ some slot := by
    intro other isEvent
    have was := ((matched.registered other slot).mp isEvent).1
    exact not_handshaking_of_state (Or.inl isIdle) was
  apply matched.register isConns _ _ _ handshaking isSocket
  · rw [isSet, Function.update_self]
  · intro other different
    rw [isSet, Function.update_of_ne different]
    exact wasOut other
  · intro other otherSlot different
    rw [isSet]
    rcases eq_or_ne other conn.pos with rfl | otherPos
    · rw [Function.update_self, isFree]
      exact iff_of_false (fun same => different (Option.some.inj same).symm) nofun
    · rw [Function.update_of_ne otherPos]

/-- The event of a handshake is registered again. -/
theorem move
    (matched : EventsMatch state) {slot : Slot} {pos : ℕ} {conn : Conn}
    (isConns : after.conns = Function.update state.conns slot conn)
    (isSet : after.set =
      Function.update (Function.update state.set pos none) conn.pos (some slot))
    (isEvent : state.set pos = some slot)
    (isFree : conn.pos = pos ∨ state.set conn.pos = none)
    (handshaking : conn.Handshaking) (isSocket : SocketPos conn.pos) :
    EventsMatch after := by
  apply matched.register isConns _ _ _ handshaking isSocket
  · rw [isSet, Function.update_self]
  · intro other different stillEvent
    rw [isSet, Function.update_of_ne different] at stillEvent
    obtain ⟨otherPos, wasEvent⟩ := update_none_cases stillEvent
    exact otherPos ((matched.pos_eq wasEvent).symm.trans (matched.pos_eq isEvent))
  · intro other otherSlot different
    have notHere : some slot ≠ some otherSlot :=
      fun same => different (Option.some.inj same).symm
    rw [isSet]
    rcases eq_or_ne other conn.pos with rfl | otherNext
    · rw [Function.update_self]
      refine iff_of_false notHere ?_
      rcases isFree with isPos | isNone
      · rwa [isPos, isEvent]
      · rw [isNone]
        exact nofun
    · rw [Function.update_of_ne otherNext]
      rcases eq_or_ne other pos with rfl | otherPos
      · rw [Function.update_self, isEvent]
        exact iff_of_false nofun notHere
      · rw [Function.update_of_ne otherPos]

/-- The progress of one connection. -/
theorem progress
    (matched : EventsMatch state) {slot : Slot} {action : Action}
    (progress : Progress state slot action after) : EventsMatch after := by
  cases progress with
  | stay => exact matched
  | retry isIdle =>
    exact matched.stay rfl rfl (not_handshaking_of_state (Or.inl isIdle))
      (not_handshaking_of_state (Or.inl isIdle))
  | start isActive isIdle isSocket isFree =>
    exact matched.start rfl rfl isIdle isFree ⟨isActive, Or.inl rfl⟩ isSocket
  | lose wasActive => exact matched.loseConnection wasActive
  | timeOut isActive isConnecting =>
    have isEvent :=
      (matched.registered _ slot).mpr ⟨⟨isActive, Or.inl isConnecting⟩, rfl⟩
    exact matched.finish rfl rfl isEvent (not_handshaking_of_state (Or.inl rfl))
  | move isEvent isConnecting isSocket isFree =>
    have isActive := ((matched.registered _ slot).mp isEvent).1.1
    exact matched.move rfl rfl isEvent isFree ⟨isActive, Or.inl rfl⟩ isSocket
  | @negotiate pos result isEvent isConnecting =>
    have was := ((matched.registered _ slot).mp isEvent).1
    have isNow :
        ({ (state.conns slot) with
        state := .negotiating } : Conn).Handshaking :=
      ⟨was.1, Or.inr rfl⟩
    have sameSet : (state.setConn slot { (state.conns slot) with
      state := .negotiating }).set = state.set := rfl
    apply matched.congr sameSet
    intro other
    rcases eq_or_ne other slot with rfl | different
    · simp [State.setConn, was, isNow]
    · simp [State.setConn, different]
  | abandon isEvent notActive =>
    exact matched.finish rfl rfl isEvent (not_handshaking_of_state (Or.inl rfl))
  | establish isEvent isNegotiating =>
    exact matched.finish rfl rfl isEvent (not_handshaking_of_state (Or.inr rfl))

/-- The configuration pass leaves the handshakes that it does not close. -/
theorem configure
    (matched : EventsMatch state)
    (permitted : ClosesNoHandshake state .configure) :
    EventsMatch state.configure := by
  apply matched.congr state.configure_frame.1
  intro slot
  rw [State.configure_conns]
  by_cases handshaking : (state.conns slot).Handshaking
  · obtain ⟨isActive, notRequested⟩ := permitted slot handshaking
    have unchanged :
        configuredConn (state.dests slot) (state.conns slot) =
          state.conns slot := by
      simp [configuredConn, Fresh, Deleted, Reconnects, isActive, notRequested,
        handshaking.1]
    rw [unchanged]
    exact ⟨Iff.rfl, fun _ => rfl⟩
  · refine ⟨iff_of_false ?_ handshaking, fun isNow => absurd isNow handshaking⟩
    rw [configuredConn]
    split_ifs
    · exact not_handshaking_of_state (Or.inl rfl)
    · exact fun isNow => Bool.false_ne_true isNow.1
    · exact not_handshaking_of_state (Or.inl rfl)
    · exact handshaking

theorem perform
    (matched : EventsMatch state) {action : Action}
    (enabled : Enabled state action)
    (permitted : ClosesNoHandshake state action) :
    EventsMatch (state.perform action) := by
  rcases perform_cases enabled with ⟨rfl, isConfigure⟩ | ⟨slot, progress⟩ | same
  · rw [isConfigure]
    exact matched.configure permitted
  · exact matched.progress progress
  · apply matched.congr same.set
    intro slot
    rw [same.conns]
    exact ⟨Iff.rfl, fun _ => rfl⟩

theorem reachable (reached : machine.Reachable ClosesNoHandshake state) :
    EventsMatch state := by
  refine Machine.Reachable.invariant ?_ ?_ reached
  · exact ⟨fun _ _ => ⟨nofun, fun both => nomatch both.1.1⟩, nofun⟩
  · intro current action matched enabled permitted
    have performed := matched.perform enabled permitted
    exact performed.congr rfl fun _ => ⟨Iff.rfl, fun _ => rfl⟩

/-- There are more positions for sockets than destinations. -/
theorem exists_free (matched : EventsMatch state) :
    ∃ pos, SocketPos pos ∧ state.set pos = none := by
  by_contra none
  push Not at none
  have taken : ∀ index : Fin 13, ∃ slot, state.set (index + 2) = some slot := by
    intro index
    have notFree := none (index + 2) ⟨by omega, by omega⟩
    exact Option.ne_none_iff_exists'.mp notFree
  choose slot isEvent using taken
  have fewer : Fintype.card Slot < Fintype.card (Fin 13) := by decide
  obtain ⟨index, other, different, same⟩ :=
    Fintype.exists_ne_map_eq_of_card_lt slot fewer
  have first := matched.pos_eq (isEvent index)
  have second := matched.pos_eq (isEvent other)
  rw [same] at first
  apply different
  ext
  omega

end EventsMatch

/-- What the wait set holds in a state: exactly one socket event for each
destination in its handshake, none for another one, and a position to put an
event at. -/
def WaitEventsMatch (state : State) : Prop :=
  (∀ slot, (state.conns slot).Handshaking → ∃! pos, state.set pos = some slot) ∧
  (∀ pos slot, state.set pos = some slot → (state.conns slot).Handshaking) ∧
  ∃ pos, SocketPos pos ∧ state.set pos = none

/-- The wait events match the connection states in every run that closes no
connection in the middle of its handshake. -/
theorem waitEvents_match_of_closesNoHandshake
    {state : State} (reached : machine.Reachable ClosesNoHandshake state) :
    WaitEventsMatch state := by
  have matched := EventsMatch.reachable reached
  refine ⟨?_, ?_, matched.exists_free⟩
  · intro slot handshaking
    refine ⟨(state.conns slot).pos, ?_, ?_⟩
    · exact (matched.registered _ slot).mpr ⟨handshaking, rfl⟩
    · intro pos isEvent
      exact (matched.pos_eq isEvent).symm
  · intro pos slot isEvent
    exact ((matched.registered pos slot).mp isEvent).1

/-- A destination is added, and a connection to it is started. -/
def startHandshake : List Action :=
  [.destinationAdd 1, .configure,
    .timer 0 { started := true, pos := 2, sendFails := false, timedOut := false }]

theorem startHandshake_completes :
    (machine.execute ClosesNoHandshake machine.init startHandshake).isSome =
      true := by
  decide +kernel

theorem waitEvents_match_startHandshake :
    let state := (machine.execute ClosesNoHandshake machine.init
      startHandshake).get startHandshake_completes
    (state.conns 0).Handshaking ∧ WaitEventsMatch state := by
  intro state
  have handshaking : (state.conns 0).Handshaking := by
    decide +kernel
  exact ⟨handshaking, waitEvents_match_of_closesNoHandshake
    (Machine.reachable_of_execute startHandshake startHandshake_completes)⟩

/-- The destination is dropped in the middle of the handshake. -/
def dropInHandshake : List Action :=
  startHandshake ++ [.destinationDrop 1, .configure]

theorem dropInHandshake_completes :
    (machine.execute Machine.Always machine.init dropInHandshake).isSome =
      true := by
  decide +kernel

/-- The event of a dropped destination stays in the wait set. -/
theorem waitEvents_leaked :
    ∃ state, machine.Reachable Machine.Always state ∧
      state.set 2 = some 0 ∧ (state.conns 0).active = false ∧
        ¬WaitEventsMatch state := by
  let state := (machine.execute Machine.Always machine.init
    dropInHandshake).get dropInHandshake_completes
  have isEvent : state.set 2 = some 0 := by
    decide +kernel
  have inactive : (state.conns 0).active = false := by
    decide +kernel
  refine ⟨state,
    Machine.reachable_of_execute dropInHandshake dropInHandshake_completes,
    isEvent, inactive, ?_⟩
  rintro ⟨-, handshaking, -⟩
  have isActive := (handshaking 2 0 isEvent).1
  exact nomatch inactive.symm.trans isActive

end Sender
end Multimaster
