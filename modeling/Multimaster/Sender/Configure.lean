import Multimaster.Sender.Defs

/-!
# What the steps of the sender can do

The configuration pass treats every slot by its own destination and connection
only.  Each other step of the sender changes one connection in one of a few ways.
-/

namespace Multimaster
namespace Sender

/-- A freshly added destination. -/
def Fresh (dest : Destination) (conn : Conn) : Prop :=
  dest.active = true ∧ conn.active = false

/-- A deleted destination. -/
def Deleted (dest : Destination) (conn : Conn) : Prop :=
  dest.active = false ∧ conn.active = true

/-- A destination that was asked to reconnect. -/
def Reconnects (dest : Destination) (conn : Conn) : Prop :=
  dest.active = true ∧ conn.active = true ∧ dest.reconnectRequested = true

instance (dest : Destination) (conn : Conn) : Decidable (Fresh dest conn) :=
  inferInstanceAs (Decidable (_ ∧ _))

instance (dest : Destination) (conn : Conn) : Decidable (Deleted dest conn) :=
  inferInstanceAs (Decidable (_ ∧ _))

instance (dest : Destination) (conn : Conn) : Decidable (Reconnects dest conn) :=
  inferInstanceAs (Decidable (_ ∧ _))

/-- The connection of a slot after the pass. -/
def configuredConn (dest : Destination) (conn : Conn) : Conn :=
  if Fresh dest conn then
    { active := true, maskPos := dest.maskPos, state := .idle, pos := 0,
      pgconn := false }
  else if Deleted dest conn then
    { conn with active := false, pgconn := false }
  else if Reconnects dest conn then
    { conn with state := .idle, pgconn := false }
  else
    conn

/-- The destination of a slot after the pass. -/
def configuredDest (dest : Destination) (conn : Conn) : Destination :=
  if Reconnects dest conn then { dest with reconnectRequested := false } else dest

namespace State

/-- The four cases of a slot. -/
theorem configureSlot_cases (state : State) (slot : Slot) :
    (Fresh (state.dests slot) (state.conns slot) ∧
      state.configureSlot slot =
        { (state.setConn slot
          (configuredConn (state.dests slot) (state.conns slot))).setDead
            (state.dests slot).maskPos with
          localCnt :=
            Function.update state.localCnt (state.dests slot).maskPos 0 }) ∨
    (Deleted (state.dests slot) (state.conns slot) ∧
      state.configureSlot slot =
        state.setConn slot
          (configuredConn (state.dests slot) (state.conns slot))) ∨
    (Reconnects (state.dests slot) (state.conns slot) ∧
      state.configureSlot slot =
        ((if (state.conns slot).state = .active then
            ((state.setDest slot
              (configuredDest (state.dests slot) (state.conns slot))).setConn slot
                (configuredConn (state.dests slot)
                  (state.conns slot))).disconnectHook
                  (state.conns slot).maskPos
          else
            (state.setDest slot
              (configuredDest (state.dests slot) (state.conns slot))).setConn slot
                (configuredConn (state.dests slot) (state.conns slot))).setDead
          (state.dests slot).maskPos)) ∨
    (¬Fresh (state.dests slot) (state.conns slot) ∧
      ¬Deleted (state.dests slot) (state.conns slot) ∧
      ¬Reconnects (state.dests slot) (state.conns slot) ∧
      state.configureSlot slot = state) := by
  rw [configureSlot]
  cases destActive : (state.dests slot).active <;>
    cases connActive : (state.conns slot).active <;>
    cases requested : (state.dests slot).reconnectRequested <;>
    simp [Fresh, Deleted, Reconnects, configuredConn, configuredDest, destActive,
      connActive, requested]

theorem configureSlot_conns_self (state : State) (slot : Slot) :
    (state.configureSlot slot).conns slot =
      configuredConn (state.dests slot) (state.conns slot) := by
  rcases state.configureSlot_cases slot with
    ⟨-, isState⟩ | ⟨-, isState⟩ | ⟨-, isState⟩ |
      ⟨notFresh, notDeleted, notReconnects, isState⟩
  · simp [isState, setConn, setDead]
  · simp [isState, setConn]
  · rw [isState]
    split_ifs <;> simp [setConn, setDead, disconnectHook]
  · rw [isState, configuredConn, if_neg notFresh, if_neg notDeleted,
      if_neg notReconnects]

theorem configureSlot_dests_self (state : State) (slot : Slot) :
    (state.configureSlot slot).dests slot =
      configuredDest (state.dests slot) (state.conns slot) := by
  rcases state.configureSlot_cases slot with
    ⟨fresh, isState⟩ | ⟨deleted, isState⟩ | ⟨-, isState⟩ |
      ⟨-, -, notReconnects, isState⟩
  · have notReconnects : ¬Reconnects (state.dests slot) (state.conns slot) := by
      simp [Reconnects, fresh.2]
    simp [isState, setConn, setDead, configuredDest, notReconnects]
  · have notReconnects : ¬Reconnects (state.dests slot) (state.conns slot) := by
      simp [Reconnects, deleted.1]
    simp [isState, setConn, configuredDest, notReconnects]
  · rw [isState]
    split_ifs <;> simp [setConn, setDest, setDead, disconnectHook]
  · rw [isState, configuredDest, if_neg notReconnects]

theorem configureSlot_of_ne
    (state : State) {slot other : Slot} (different : other ≠ slot) :
    (state.configureSlot slot).conns other = state.conns other ∧
      (state.configureSlot slot).dests other = state.dests other := by
  rcases state.configureSlot_cases slot with
    ⟨-, isState⟩ | ⟨-, isState⟩ | ⟨-, isState⟩ | ⟨-, -, -, isState⟩
  · simp [isState, setConn, setDead, different]
  · simp [isState, setConn, different]
  · rw [isState]
    split_ifs <;> simp [setConn, setDest, setDead, disconnectHook, different]
  · rw [isState]
    exact ⟨rfl, rfl⟩

/-- What a slot does not touch. -/
theorem configureSlot_frame (state : State) (slot : Slot) :
    (state.configureSlot slot).set = state.set ∧
      (state.configureSlot slot).snapshot = state.snapshot ∧
      (state.configureSlot slot).unbroken = state.unbroken := by
  rcases state.configureSlot_cases slot with
    ⟨-, isState⟩ | ⟨-, isState⟩ | ⟨-, isState⟩ | ⟨-, -, -, isState⟩
  · rw [isState]
    exact ⟨rfl, rfl, rfl⟩
  · rw [isState]
    exact ⟨rfl, rfl, rfl⟩
  · rw [isState]
    split_ifs <;> exact ⟨rfl, rfl, rfl⟩
  · rw [isState]
    exact ⟨rfl, rfl, rfl⟩

/-- The pass over some of the slots. -/
theorem foldl_configureSlot
    (slots : List Slot) (nodup : slots.Nodup) (state : State) (slot : Slot) :
    (slots.foldl configureSlot state).conns slot =
        (if slot ∈ slots then configuredConn (state.dests slot) (state.conns slot)
          else state.conns slot) ∧
      (slots.foldl configureSlot state).dests slot =
        if slot ∈ slots then configuredDest (state.dests slot) (state.conns slot)
          else state.dests slot := by
  induction slots generalizing state with
  | nil => simp
  | cons first rest ih =>
    obtain ⟨notRest, nodupRest⟩ := List.nodup_cons.mp nodup
    obtain ⟨restConns, restDests⟩ := ih nodupRest (state.configureSlot first)
    rw [List.foldl_cons, restConns, restDests]
    rcases eq_or_ne slot first with rfl | different
    · simp [notRest, configureSlot_conns_self, configureSlot_dests_self]
    · obtain ⟨sameConn, sameDest⟩ := state.configureSlot_of_ne different
      simp [different, sameConn, sameDest]

@[simp] theorem configure_conns (state : State) (slot : Slot) :
    state.configure.conns slot =
      configuredConn (state.dests slot) (state.conns slot) := by
  rw [configure, (foldl_configureSlot _ (List.nodup_finRange _) state slot).1]
  simp

@[simp] theorem configure_dests (state : State) (slot : Slot) :
    state.configure.dests slot =
      configuredDest (state.dests slot) (state.conns slot) := by
  rw [configure, (foldl_configureSlot _ (List.nodup_finRange _) state slot).2]
  simp

theorem configure_frame (state : State) :
    state.configure.set = state.set ∧ state.configure.snapshot = state.snapshot ∧
      state.configure.unbroken = state.unbroken := by
  rw [configure]
  generalize List.finRange dmqMaxDestinations = slots
  induction slots generalizing state with
  | nil => exact ⟨rfl, rfl, rfl⟩
  | cons first rest ih =>
    obtain ⟨sameSet, sameSnapshot, sameUnbroken⟩ :=
      state.configureSlot_frame first
    obtain ⟨restSet, restSnapshot, restUnbroken⟩ := ih (state.configureSlot first)
    rw [List.foldl_cons]
    exact ⟨restSet.trans sameSet, restSnapshot.trans sameSnapshot,
      restUnbroken.trans sameUnbroken⟩

/-- What each slot of a kind overwrites with one value, the pass overwrites if
there is such a slot. -/
theorem configure_overwrite
    {Value : Type*} (read : State → Value) (value : Value)
    (overwrites : Destination → Conn → Prop)
    [∀ dest conn, Decidable (overwrites dest conn)]
    (each : ∀ state slot, read (configureSlot state slot) =
      if overwrites (state.dests slot) (state.conns slot) then value
        else read state)
    (state : State) :
    read state.configure =
      if ∃ slot, overwrites (state.dests slot) (state.conns slot) then value
      else read state := by
  suffices general : ∀ slots : List Slot, slots.Nodup →
      read (slots.foldl configureSlot state) =
        if ∃ slot ∈ slots,
          overwrites (state.dests slot) (state.conns slot) then value
        else read state by
    rw [configure, general _ (List.nodup_finRange _)]
    simp
  intro slots nodup
  induction slots generalizing state with
  | nil => simp
  | cons first rest ih =>
    obtain ⟨notRest, nodupRest⟩ := List.nodup_cons.mp nodup
    have sameRest :
        (∃ slot ∈ rest, overwrites ((state.configureSlot first).dests slot)
            ((state.configureSlot first).conns slot)) ↔
          ∃ slot ∈ rest, overwrites (state.dests slot) (state.conns slot) := by
      refine exists_congr fun slot => and_congr_right fun inRest => ?_
      obtain ⟨sameConn, sameDest⟩ :=
        state.configureSlot_of_ne (ne_of_mem_of_not_mem inRest notRest)
      rw [sameConn, sameDest]
    simp only [List.foldl_cons, ih _ nodupRest, sameRest, each,
      List.exists_mem_cons_iff]
    by_cases inRest : ∃ slot ∈ rest,
      overwrites (state.dests slot) (state.conns slot)
    · simp [inRest]
    · simp [inRest]

/-- The pass clears the bits of the Active connections that it closes to
reconnect. -/
theorem bitCheck_configure (state : State) (bit : ℕ) :
    bitCheck state.configure.sendersMask bit =
      if ∃ slot, Reconnects (state.dests slot) (state.conns slot) ∧
          (state.conns slot).state = .active ∧
            (state.conns slot).maskPos = bit then false
      else bitCheck state.sendersMask bit := by
  refine configure_overwrite (fun state => bitCheck state.sendersMask bit) false
    (fun dest conn => Reconnects dest conn ∧ conn.state = .active ∧
      conn.maskPos = bit)
    ?_ state
  intro state slot
  rcases state.configureSlot_cases slot with
    ⟨fresh, isState⟩ | ⟨deleted, isState⟩ | ⟨reconnects, isState⟩ |
      ⟨-, -, notReconnects, isState⟩
  · rw [isState]
    simp [setConn, setDead, Reconnects, fresh.2]
  · rw [isState]
    simp [setConn, Reconnects, deleted.1]
  · rw [isState]
    split_ifs with isActive overwritten overwritten
    · simp [setConn, setDest, setDead, disconnectHook, bitCheck_bitClear,
        overwritten.2.2]
    · have other : bit ≠ (state.conns slot).maskPos :=
        fun same => overwritten ⟨reconnects, isActive, same.symm⟩
      simp [setConn, setDest, setDead, disconnectHook, bitCheck_bitClear, other]
    · exact absurd overwritten.2.1 isActive
    · rfl
  · rw [isState]
    simp [notReconnects]

/-- The pass marks the connections of the destinations that are new or
reconnect. -/
theorem sconnCnt_configure (state : State) (maskPos : ℕ) :
    state.configure.sconnCnt maskPos =
      if ∃ slot, (Fresh (state.dests slot) (state.conns slot) ∨
          Reconnects (state.dests slot) (state.conns slot)) ∧
          (state.dests slot).maskPos = maskPos then 0
      else state.sconnCnt maskPos := by
  refine configure_overwrite (fun state => state.sconnCnt maskPos) 0
    (fun dest conn => (Fresh dest conn ∨ Reconnects dest conn) ∧
      dest.maskPos = maskPos)
    ?_ state
  intro state slot
  rcases state.configureSlot_cases slot with
    ⟨fresh, isState⟩ | ⟨deleted, isState⟩ | ⟨reconnects, isState⟩ |
      ⟨notFresh, -, notReconnects, isState⟩
  · rw [isState]
    simp [setConn, setDead, fresh, Function.update_apply, eq_comm]
  · rw [isState]
    simp [setConn, Reconnects, Fresh, deleted.1]
  · have marked : (state.configureSlot slot).sconnCnt =
        Function.update state.sconnCnt (state.dests slot).maskPos 0 := by
      rw [isState]
      split_ifs <;> rfl
    simp [marked, reconnects, Function.update_apply, eq_comm]
  · rw [isState]
    simp [notFresh, notReconnects]

/-- The pass starts the count of a new destination again. -/
theorem localCnt_configure (state : State) (maskPos : ℕ) :
    state.configure.localCnt maskPos =
      if ∃ slot, Fresh (state.dests slot) (state.conns slot) ∧
          (state.dests slot).maskPos = maskPos then 0
      else state.localCnt maskPos := by
  refine configure_overwrite (fun state => state.localCnt maskPos) 0
    (fun dest conn => Fresh dest conn ∧ dest.maskPos = maskPos) ?_ state
  intro state slot
  rcases state.configureSlot_cases slot with
    ⟨fresh, isState⟩ | ⟨deleted, isState⟩ | ⟨reconnects, isState⟩ |
      ⟨notFresh, -, -, isState⟩
  · rw [isState]
    simp [fresh, Function.update_apply, eq_comm]
  · rw [isState]
    simp [setConn, Fresh, deleted.1]
  · have notFresh : ¬Fresh (state.dests slot) (state.conns slot) := by
      simp [Fresh, reconnects.2.1]
    have notBoth : ¬(Fresh (state.dests slot) (state.conns slot) ∧
        (state.dests slot).maskPos = maskPos) := fun both => notFresh both.1
    rw [isState, if_neg notBoth]
    split_ifs <;> rfl
  · rw [isState]
    simp [notFresh]

theorem accessed_configureSlot (state : State) (slot : Slot) :
    (state.configureSlot slot).accessed =
      if Fresh (state.dests slot) (state.conns slot) ∨
          Reconnects (state.dests slot) (state.conns slot) then
        (state.dests slot).maskPos :: state.accessed
      else state.accessed := by
  rcases state.configureSlot_cases slot with
    ⟨fresh, isState⟩ | ⟨deleted, isState⟩ | ⟨reconnects, isState⟩ |
      ⟨notFresh, -, notReconnects, isState⟩
  · rw [isState, if_pos (Or.inl fresh)]
    rfl
  · have neither : ¬(Fresh (state.dests slot) (state.conns slot) ∨
        Reconnects (state.dests slot) (state.conns slot)) := by
      simp [Fresh, Reconnects, deleted.1]
    rw [isState, if_neg neither]
    rfl
  · rw [if_pos (Or.inr reconnects), isState]
    split_ifs <;> rfl
  · rw [isState]
    simp [notFresh, notReconnects]

/-- The pass accesses the counters of the destinations. -/
theorem accessed_configure
    (state : State) {index : ℕ} (isAccess : index ∈ state.configure.accessed) :
    index ∈ state.accessed ∨ ∃ slot, (state.dests slot).active = true ∧
      (state.dests slot).maskPos = index := by
  have each : ∀ state slot, (index ∈ (configureSlot state slot).accessed) =
      if (Fresh (state.dests slot) (state.conns slot) ∨
          Reconnects (state.dests slot) (state.conns slot)) ∧
        (state.dests slot).maskPos = index then True
          else index ∈ state.accessed := by
    intro state slot
    rw [accessed_configureSlot]
    split_ifs with touched here here
    · simp [here.2]
    · have other : index ≠ (state.dests slot).maskPos :=
        fun same => here ⟨touched, same.symm⟩
      simp [other]
    · exact absurd here.1 touched
    · rfl
  have overwritten :=
    configure_overwrite (fun state => index ∈ state.accessed) True
    (fun dest conn => (Fresh dest conn ∨ Reconnects dest conn) ∧
      dest.maskPos = index)
    each state
  rw [overwritten] at isAccess
  split_ifs at isAccess with touched
  · obtain ⟨slot, fresh | reconnects, isIndex⟩ := touched
    · exact Or.inr ⟨slot, fresh.1, isIndex⟩
    · exact Or.inr ⟨slot, reconnects.1, isIndex⟩
  · exact Or.inl isAccess

end State

/-! ## One connection -/

/-- What a message, the timer or a socket event can do to a connection. -/
inductive Progress (state : State) (slot : Slot) : Action → State → Prop
  | stay (action : Action) : Progress state slot action state
  /-- `PQconnectStart` failed. -/
  | retry {result : TimerResult}
      (isIdle : (state.conns slot).state = .idle) :
      Progress state slot (.timer slot result)
        (state.setConn slot { (state.conns slot) with pgconn := true })
  | start {result : TimerResult}
      (isActive : (state.conns slot).active = true)
      (isIdle : (state.conns slot).state = .idle)
      (isSocket : SocketPos result.pos) (isFree : state.set result.pos = none) :
      Progress state slot (.timer slot result)
        ((state.setConn slot
          { (state.conns slot) with
            state := .connecting
            pos := result.pos
            pgconn := true }).addWaitEvent result.pos slot)
  | lose {action : Action}
      (wasActive : (state.conns slot).state = .active) :
      Progress state slot action (state.loseConnection slot)
  | timeOut {result : TimerResult}
      (isActive : (state.conns slot).active = true)
      (isConnecting : (state.conns slot).state = .connecting) :
      Progress state slot (.timer slot result)
        ((state.setConn slot { (state.conns slot) with
          state := .idle }).deleteWaitEvent
          (state.conns slot).pos)
  | move {pos : ℕ} {result : SocketResult}
      (isEvent : state.set pos = some slot)
      (isConnecting : (state.conns slot).state = .connecting)
      (isSocket : SocketPos result.pos)
      (isFree : result.pos = pos ∨ state.set result.pos = none) :
      Progress state slot (.socket pos result)
        (((state.deleteWaitEvent pos).addWaitEvent result.pos slot).setConn slot
          { (state.conns slot) with state := .connecting, pos := result.pos })
  | negotiate {pos : ℕ} {result : SocketResult}
      (isEvent : state.set pos = some slot)
      (isConnecting : (state.conns slot).state = .connecting) :
      Progress state slot (.socket pos result)
        (state.setConn slot { (state.conns slot) with state := .negotiating })
  | abandon {pos : ℕ} {result : SocketResult}
      (isEvent : state.set pos = some slot)
      (notActive : (state.conns slot).state ≠ .active) :
      Progress state slot (.socket pos result)
        ((state.setConn slot { (state.conns slot) with
          state := .idle }).deleteWaitEvent pos)
  | establish {pos : ℕ} {result : SocketResult}
      (isEvent : state.set pos = some slot)
      (isNegotiating : (state.conns slot).state = .negotiating) :
      Progress state slot (.socket pos result) (state.establish slot pos)

variable {state : State}

theorem progress_dmqSend
    {slot : Slot} (wasActive : (state.conns slot).state = .active)
    (action : Action)
    (fails : Bool) :
    Progress state slot action (state.dmqSend slot fails) := by
  rw [State.dmqSend]
  split_ifs
  · exact .lose wasActive
  · exact .stay action

theorem progress_transfer (slot : Slot) (fails : Bool) :
    Progress state slot (.transfer slot fails) (state.transfer slot fails) := by
  rw [State.transfer]
  split_ifs with wasActive
  · exact progress_dmqSend wasActive _ fails
  · exact .stay _

theorem progress_timer
    {slot : Slot} {result : TimerResult}
    (enabled : Enabled state (.timer slot result)) :
    Progress state slot (.timer slot result) (state.timer slot result) := by
  rw [State.timer]
  cases isActive : (state.conns slot).active with
  | false => exact .stay _
  | true =>
    cases connState : (state.conns slot).state with
    | idle =>
      cases started : result.started with
      | true =>
        obtain ⟨isSocket, isFree⟩ := enabled isActive connState started
        have progress : Progress state slot (.timer slot result) _ :=
          .start isActive connState isSocket isFree
        simpa [isActive] using progress
      | false =>
        have progress : Progress state slot (.timer slot result) _ :=
          .retry connState
        simpa [isActive, connState] using progress
    | connecting =>
      cases result.timedOut with
      | true =>
        have progress : Progress state slot (.timer slot result) _ :=
          .timeOut isActive connState
        simpa [isActive] using progress
      | false => exact .stay _
    | negotiating => exact .stay _
    | active => exact progress_dmqSend connState _ _

/-- The failed handshake does not matter for a connection that is then
established. -/
theorem establish_after_failure (state : State) (slot : Slot) (pos : ℕ) :
    ((state.setConn slot { (state.conns slot) with
      state := .idle }).deleteWaitEvent
      pos).establish slot pos = state.establish slot pos := by
  simp [State.establish, State.setConn, State.deleteWaitEvent, State.connectHook]

theorem progress_socket
    {pos : ℕ} {result : SocketResult}
    (enabled : Enabled state (.socket pos result)) :
    ∃ slot, Progress state slot (.socket pos result)
      (state.socket pos result) := by
  obtain ⟨someEvent, isSocket, isFree⟩ := enabled
  obtain ⟨slot, isEvent⟩ := Option.isSome_iff_exists.mp someEvent
  refine ⟨slot, ?_⟩
  rw [State.socket]
  simp only [isEvent]
  cases connState : (state.conns slot).state with
  | idle => exact .stay _
  | connecting =>
    have notActive : (state.conns slot).state ≠ .active := by
      rw [connState]
      decide
    cases result.status with
    | reading => exact .move isEvent connState isSocket isFree
    | writing => exact .move isEvent connState isSocket isFree
    | ok => exact .negotiate isEvent connState
    | failed => exact .abandon isEvent notActive
  | negotiating =>
    have notActive : (state.conns slot).state ≠ .active := by
      rw [connState]
      decide
    have established : Progress state slot (.socket pos result)
        (state.establish slot pos) :=
      .establish isEvent connState
    cases result.busy with
    | true =>
      cases result.consumed with
      | true => exact .stay _
      | false => exact .abandon isEvent notActive
    | false =>
      cases result.consumed with
      | true => exact established
      | false =>
        rw [← establish_after_failure] at established
        exact established
  | active =>
    cases result.consumed with
    | true => exact .stay _
    | false => exact .lose connState

/-- The connections, the wait set, the mask and the counters are as before. -/
structure SameSender (state after : State) : Prop where
  conns : after.conns = state.conns
  set : after.set = state.set
  sendersMask : after.sendersMask = state.sendersMask
  sconnCnt : after.sconnCnt = state.sconnCnt
  localCnt : after.localCnt = state.localCnt

theorem SameSender.refl (state : State) : SameSender state state :=
  ⟨rfl, rfl, rfl, rfl, rfl⟩

/-- A step is the configuration pass, the progress of one connection, or a step of
another process, which leaves the sender alone. -/
theorem perform_cases {action : Action} (enabled : Enabled state action) :
    (action = .configure ∧ state.perform action = state.configure) ∨
    (∃ slot, Progress state slot action (state.perform action)) ∨
    SameSender state (state.perform action) := by
  cases action with
  | destinationAdd maskPos =>
    refine Or.inr (Or.inr ?_)
    rw [State.perform, State.destinationAdd]
    split
    · exact ⟨rfl, rfl, rfl, rfl, rfl⟩
    · exact .refl state
  | destinationDrop maskPos =>
    refine Or.inr (Or.inr ?_)
    rw [State.perform]
    split
    · exact ⟨rfl, rfl, rfl, rfl, rfl⟩
    · exact .refl state
  | destinationReconnect maskPos =>
    refine Or.inr (Or.inr ?_)
    rw [State.perform]
    split
    · exact ⟨rfl, rfl, rfl, rfl, rfl⟩
    · exact .refl state
  | configure => exact Or.inl ⟨rfl, rfl⟩
  | transfer slot fails =>
      exact Or.inr (Or.inl ⟨slot, progress_transfer slot fails⟩)
  | timer slot result => exact Or.inr (Or.inl ⟨slot, progress_timer enabled⟩)
  | socket pos result => exact Or.inr (Or.inl (progress_socket enabled))
  | destinationDropAll | destinationReconnectAll | getSendconnCnt |
        readSendconnCnt
  | forget => exact Or.inr (Or.inr ⟨rfl, rfl, rfl, rfl, rfl⟩)

end Sender
end Multimaster
