import Multimaster.Sender.Configure

/-!
# The connectivity mask of the senders

The bit of a node is set as long as the connection to it is Active.  This fails
where an Active connection is closed because its destination was dropped: no hook
is called there. It also needs that the sender and the shared memory mean the
same node by a slot.
-/

namespace Multimaster
namespace Sender

/-- The steps that keep the mask and the connections together: no destination is
added for a node that has one or into a slot where the sender still holds the
connection of another node, no Active connection is closed by a drop, and no
socket event is delivered for a dropped destination. -/
def Orderly (state : State) : Action → Prop
  | .destinationAdd maskPos =>
    (∀ slot, (state.dests slot).active = true →
      (state.dests slot).maskPos ≠ maskPos) ∧
      ∀ slot, state.freeSlot = some slot → (state.conns slot).active = true →
        (state.conns slot).maskPos = maskPos
  | .configure => ∀ slot, Deleted (state.dests slot) (state.conns slot) →
      (state.conns slot).state ≠ .active
  | .socket pos _ => ∀ slot, state.set pos = some slot →
      (state.conns slot).active = true
  | _ => True

instance (state : State) : ∀ action, Decidable (Orderly state action)
  | .destinationAdd _ =>
      inferInstanceAs (Decidable (_ ∧ ∀ _ : Slot, _ = _ → _ → _))
  | .configure => inferInstanceAs (Decidable (∀ _ : Slot, _ → _))
  | .socket .. => inferInstanceAs (Decidable (∀ _ : Slot, _ → _))
  | .destinationDrop _ | .destinationDropAll | .destinationReconnect _
  | .destinationReconnectAll | .transfer .. | .timer .. | .getSendconnCnt ..
  | .readSendconnCnt .. | .forget .. => inferInstanceAs (Decidable True)

/-! ## Slots and nodes -/

/-- Every node has at most one slot, in the shared memory and in the sender. -/
structure Layout (state : State) : Prop where
  agree : ∀ slot, (state.dests slot).active = true →
    (state.conns slot).active = true →
    (state.conns slot).maskPos = (state.dests slot).maskPos
  dests : ∀ slot other, (state.dests slot).active = true →
    (state.dests other).active = true →
    (state.dests slot).maskPos = (state.dests other).maskPos → slot = other
  conns : ∀ slot other, (state.conns slot).active = true →
    (state.conns other).active = true →
    (state.conns slot).maskPos = (state.conns other).maskPos → slot = other
  inactive : ∀ slot, (state.conns slot).active = false →
    (state.conns slot).state ≠ .active
  destBound : ∀ slot, (state.dests slot).maskPos < mtmMaxNodes
  connBound : ∀ slot, (state.conns slot).maskPos < mtmMaxNodes

variable {state after : State}

namespace Layout

theorem isActive
    (layout : Layout state) {slot : Slot}
    (isState : (state.conns slot).state = .active) :
    (state.conns slot).active = true := by
  by_contra notActive
  exact layout.inactive slot (Bool.eq_false_iff.mpr notActive) isState

/-- The connection of an active destination is the one that counts for its
node. -/
theorem connected_iff
    (layout : Layout state) {slot : Slot}
    (isActive : (state.conns slot).active = true) :
    state.Connected (state.conns slot).maskPos ↔
      (state.conns slot).state = .active := by
  constructor
  · rintro ⟨other, otherActive, sameNode, isState⟩
    have same := layout.conns other slot otherActive isActive sameNode
    rwa [same] at isState
  · intro isState
    exact ⟨slot, isActive, rfl, isState⟩

/-- Destinations are dropped or asked to reconnect. -/
theorem changeDests
    (layout : Layout state) (sameConns : after.conns = state.conns)
    (dests : ∀ slot, (after.dests slot).maskPos = (state.dests slot).maskPos ∧
      ((after.dests slot).active = true → (state.dests slot).active = true)) :
    Layout after where
  agree := by
    intro slot destActive connActive
    rw [sameConns] at connActive ⊢
    rw [(dests slot).1]
    exact layout.agree slot ((dests slot).2 destActive) connActive
  dests := by
    intro slot other slotActive otherActive same
    rw [(dests slot).1, (dests other).1] at same
    exact layout.dests slot other ((dests slot).2 slotActive)
      ((dests other).2 otherActive) same
  conns := by
    rw [sameConns]
    exact layout.conns
  inactive := by
    rw [sameConns]
    exact layout.inactive
  destBound := by
    intro slot
    rw [(dests slot).1]
    exact layout.destBound slot
  connBound := by
    rw [sameConns]
    exact layout.connBound

/-- A destination is added. -/
theorem add
    (layout : Layout state) {maskPos : ℕ} (enabled : maskPos < mtmMaxNodes)
    (permitted : Orderly state (.destinationAdd maskPos)) :
    Layout (state.destinationAdd maskPos) := by
  obtain ⟨isNew, slotFree⟩ := permitted
  rw [State.destinationAdd]
  cases isSlot : state.freeSlot with
  | none => exact layout
  | some slot =>
    have destSelf : ((state.setDest slot { (state.dests slot) with
        active := true, maskPos := maskPos }).dests slot).maskPos = maskPos := by
      simp [State.setDest]
    have destOther : ∀ other, other ≠ slot →
        (state.setDest slot { (state.dests slot) with
        active := true, maskPos := maskPos }).dests other =
          state.dests other := by
      intro other different
      simp [State.setDest, different]
    constructor
    case agree =>
      intro other destActive connActive
      rcases eq_or_ne other slot with rfl | different
      · rw [destSelf]
        exact slotFree other isSlot connActive
      · rw [destOther other different] at destActive ⊢
        exact layout.agree other destActive connActive
    case dests =>
      intro first second firstActive secondActive same
      rcases eq_or_ne first slot with rfl | firstOther
      · rcases eq_or_ne second first with rfl | secondOther
        · rfl
        · rw [destSelf, destOther second secondOther] at same
          rw [destOther second secondOther] at secondActive
          exact absurd same.symm (isNew second secondActive)
      · rw [destOther first firstOther] at same firstActive
        rcases eq_or_ne second slot with rfl | secondOther
        · rw [destSelf] at same
          exact absurd same (isNew first firstActive)
        · rw [destOther second secondOther] at same secondActive
          exact layout.dests first second firstActive secondActive same
    case conns => exact layout.conns
    case inactive => exact layout.inactive
    case destBound =>
      intro other
      rcases eq_or_ne other slot with rfl | different
      · rw [destSelf]
        exact enabled
      · rw [destOther other different]
        exact layout.destBound other
    case connBound => exact layout.connBound

/-- After the pass a connection is active exactly for an active destination, and
belongs to the same node. -/
theorem configuredConn_active
    (layout : Layout state) {slot : Slot}
    (isActive :
      (configuredConn (state.dests slot) (state.conns slot)).active = true) :
    (state.dests slot).active = true ∧
      (configuredConn (state.dests slot) (state.conns slot)).maskPos =
        (state.dests slot).maskPos := by
  rw [configuredConn] at isActive ⊢
  split_ifs at isActive ⊢ with fresh deleted reconnects
  · exact ⟨fresh.1, rfl⟩
  · exact ⟨reconnects.1, layout.agree slot reconnects.1 reconnects.2.1⟩
  · have destActive : (state.dests slot).active = true := by
      by_contra notActive
      exact deleted ⟨Bool.eq_false_iff.mpr notActive, isActive⟩
    exact ⟨destActive, layout.agree slot destActive isActive⟩

theorem configure
    (layout : Layout state) (permitted : Orderly state .configure) :
    Layout state.configure := by
  have sameDest : ∀ slot,
      (state.configure.dests slot).active = (state.dests slot).active ∧
      (state.configure.dests slot).maskPos = (state.dests slot).maskPos := by
    intro slot
    rw [State.configure_dests, configuredDest]
    split_ifs <;> exact ⟨rfl, rfl⟩
  constructor
  case agree =>
    intro slot destActive connActive
    rw [State.configure_conns] at connActive ⊢
    rw [(sameDest slot).2]
    exact (layout.configuredConn_active connActive).2
  case dests =>
    intro slot other slotActive otherActive same
    rw [(sameDest _).1] at slotActive otherActive
    rw [(sameDest slot).2, (sameDest other).2] at same
    exact layout.dests slot other slotActive otherActive same
  case conns =>
    intro slot other slotActive otherActive same
    rw [State.configure_conns] at slotActive otherActive
    rw [State.configure_conns, State.configure_conns] at same
    obtain ⟨slotDest, slotMaskPos⟩ := layout.configuredConn_active slotActive
    obtain ⟨otherDest, otherMaskPos⟩ := layout.configuredConn_active otherActive
    rw [slotMaskPos, otherMaskPos] at same
    exact layout.dests slot other slotDest otherDest same
  case inactive =>
    intro slot notActive
    rw [State.configure_conns, configuredConn] at notActive ⊢
    split_ifs at notActive ⊢ with fresh deleted reconnects
    · exact permitted slot deleted
    · intro isState
      cases isState
    · exact layout.inactive slot notActive
  case destBound =>
    intro slot
    rw [(sameDest slot).2]
    exact layout.destBound slot
  case connBound =>
    intro slot
    rw [State.configure_conns, configuredConn]
    split_ifs
    · exact layout.destBound slot
    · exact layout.connBound slot
    · exact layout.connBound slot
    · exact layout.connBound slot

end Layout

/-! ## One connection -/

/-- A connection is replaced by another of the same destination. -/
structure Replaces (state after : State) (slot : Slot) (conn : Conn) : Prop where
  conns : after.conns = Function.update state.conns slot conn
  dests : after.dests = state.dests
  active : conn.active = (state.conns slot).active
  maskPos : conn.maskPos = (state.conns slot).maskPos

/-- A change that neither opens nor closes the connection. -/
structure Quiet (state after : State) (slot : Slot) (conn : Conn) : Prop
    extends Replaces state after slot conn where
  sameState : conn.state = .active ↔ (state.conns slot).state = .active
  sendersMask : after.sendersMask = state.sendersMask
  sconnCnt : after.sconnCnt = state.sconnCnt
  localCnt : after.localCnt = state.localCnt
  snapshot : after.snapshot = state.snapshot
  unbroken : after.unbroken = state.unbroken
  accessed : after.accessed = state.accessed

/-- A connection is left as it is, lost or established. -/
theorem Progress.cases
    {slot : Slot} {action : Action}
    (progress : Progress state slot action after) :
    (∃ conn, Quiet state after slot conn) ∨
    ((state.conns slot).state = .active ∧ after = state.loseConnection slot) ∨
    ∃ pos result, action = .socket pos result ∧ state.set pos = some slot ∧
      (state.conns slot).state = .negotiating ∧
        after = state.establish slot pos := by
  cases progress with
  | stay =>
    refine Or.inl
      ⟨state.conns slot,
      ⟨⟨?_, rfl, rfl, rfl⟩, Iff.rfl, rfl, rfl, rfl, rfl, rfl, rfl⟩⟩
    rw [Function.update_eq_self]
  | retry isIdle =>
    exact Or.inl
      ⟨_, ⟨⟨rfl, rfl, rfl, rfl⟩, Iff.rfl, rfl, rfl, rfl, rfl, rfl, rfl⟩⟩
  | start isActive isIdle isSocket isFree =>
    refine Or.inl ⟨_, ⟨⟨rfl, rfl, rfl, rfl⟩, ?_, rfl, rfl, rfl, rfl, rfl, rfl⟩⟩
    simp [isIdle]
  | lose wasActive => exact Or.inr (Or.inl ⟨wasActive, rfl⟩)
  | timeOut isActive isConnecting =>
    refine Or.inl ⟨_, ⟨⟨rfl, rfl, rfl, rfl⟩, ?_, rfl, rfl, rfl, rfl, rfl, rfl⟩⟩
    simp [isConnecting]
  | move isEvent isConnecting isSocket isFree =>
    refine Or.inl ⟨_, ⟨⟨rfl, rfl, rfl, rfl⟩, ?_, rfl, rfl, rfl, rfl, rfl, rfl⟩⟩
    simp [isConnecting]
  | negotiate isEvent isConnecting =>
    refine Or.inl ⟨_, ⟨⟨rfl, rfl, rfl, rfl⟩, ?_, rfl, rfl, rfl, rfl, rfl, rfl⟩⟩
    simp [isConnecting]
  | abandon isEvent notActive =>
    refine Or.inl ⟨_, ⟨⟨rfl, rfl, rfl, rfl⟩, ?_, rfl, rfl, rfl, rfl, rfl, rfl⟩⟩
    simp [notActive]
  | establish isEvent isNegotiating =>
    exact Or.inr (Or.inr ⟨_, _, rfl, isEvent, isNegotiating, rfl⟩)

namespace Replaces

variable {slot : Slot} {conn : Conn}

theorem conns_self (replaces : Replaces state after slot conn) :
    after.conns slot = conn := by
  rw [replaces.conns, Function.update_self]

theorem conns_of_ne
    (replaces : Replaces state after slot conn) {other : Slot}
    (different : other ≠ slot) :
    after.conns other = state.conns other := by
  rw [replaces.conns, Function.update_of_ne different]

theorem sameDestination (replaces : Replaces state after slot conn)
    (other : Slot) :
    (after.conns other).active = (state.conns other).active ∧
      (after.conns other).maskPos = (state.conns other).maskPos := by
  rcases eq_or_ne other slot with rfl | different
  · rw [replaces.conns_self]
    exact ⟨replaces.active, replaces.maskPos⟩
  · rw [replaces.conns_of_ne different]
    exact ⟨rfl, rfl⟩

theorem layout
    (replaces : Replaces state after slot conn) (layout : Layout state)
    (inactive : conn.active = false → conn.state ≠ .active) : Layout after where
  agree := by
    intro other destActive connActive
    rw [replaces.dests] at destActive ⊢
    rw [(replaces.sameDestination other).1] at connActive
    rw [(replaces.sameDestination other).2]
    exact layout.agree other destActive connActive
  dests := by
    rw [replaces.dests]
    exact layout.dests
  conns := by
    intro first second firstActive secondActive same
    rw [(replaces.sameDestination _).1] at firstActive secondActive
    rw [(replaces.sameDestination first).2,
      (replaces.sameDestination second).2] at same
    exact layout.conns first second firstActive secondActive same
  inactive := by
    intro other notActive
    rcases eq_or_ne other slot with rfl | different
    · rw [replaces.conns_self] at notActive ⊢
      exact inactive notActive
    · rw [replaces.conns_of_ne different] at notActive ⊢
      exact layout.inactive other notActive
  destBound := by
    rw [replaces.dests]
    exact layout.destBound
  connBound := by
    intro other
    rw [(replaces.sameDestination other).2]
    exact layout.connBound other

/-- Other nodes are not concerned. -/
theorem connected_of_ne
    (replaces : Replaces state after slot conn) {maskPos : ℕ}
    (different : maskPos ≠ (state.conns slot).maskPos) :
    after.Connected maskPos ↔ state.Connected maskPos := by
  refine exists_congr fun other => ?_
  rcases eq_or_ne other slot with rfl | otherSlot
  · rw [replaces.conns_self, replaces.maskPos]
    exact iff_of_false (fun all => different all.2.1.symm) fun all =>
      different all.2.1.symm
  · rw [replaces.conns_of_ne otherSlot]

end Replaces

theorem Quiet.connected
    {slot : Slot} {conn : Conn} (quiet : Quiet state after slot conn)
    (maskPos : ℕ) :
    after.Connected maskPos ↔ state.Connected maskPos := by
  refine exists_congr fun other => ?_
  rcases eq_or_ne other slot with rfl | otherSlot
  · rw [quiet.conns_self, quiet.maskPos, quiet.active, quiet.sameState]
  · rw [quiet.conns_of_ne otherSlot]

theorem Quiet.keepsLayout
    {slot : Slot} {conn : Conn} (quiet : Quiet state after slot conn)
    (layout : Layout state) : Layout after := by
  apply quiet.layout layout
  rw [quiet.active, Ne, quiet.sameState]
  exact layout.inactive slot

theorem replaces_loseConnection (state : State) (slot : Slot) :
    Replaces state (state.loseConnection slot) slot
      { (state.conns slot) with state := .idle } :=
  ⟨rfl, rfl, rfl, rfl⟩

theorem replaces_establish (state : State) (slot : Slot) (pos : ℕ) :
    Replaces state (state.establish slot pos) slot
      { (state.conns slot) with state := .active } :=
  ⟨rfl, rfl, rfl, rfl⟩

namespace Layout

theorem loseConnection (layout : Layout state) (slot : Slot) :
    Layout (state.loseConnection slot) :=
  (replaces_loseConnection state slot).layout layout fun _ => nofun

theorem establish
    (layout : Layout state) {slot : Slot}
    (isActive : (state.conns slot).active = true)
    (pos : ℕ) : Layout (state.establish slot pos) := by
  apply (replaces_establish state slot pos).layout layout
  intro notActive
  exact nomatch isActive.symm.trans notActive

/-- The lost connection was the only one to its node. -/
theorem not_connected_loseConnection
    (layout : Layout state) {slot : Slot}
    (wasActive : (state.conns slot).state = .active) :
    ¬(state.loseConnection slot).Connected (state.conns slot).maskPos := by
  have replaces := replaces_loseConnection state slot
  have isActive : ((state.loseConnection slot).conns slot).active = true := by
    rw [(replaces.sameDestination slot).1]
    exact layout.isActive wasActive
  have iffState := (layout.loseConnection slot).connected_iff isActive
  rw [(replaces.sameDestination slot).2, replaces.conns_self] at iffState
  exact fun connected => nomatch iffState.mp connected

theorem connected_establish
    {slot : Slot} (isActive : (state.conns slot).active = true) (pos : ℕ) :
    (state.establish slot pos).Connected (state.conns slot).maskPos := by
  have replaces := replaces_establish state slot pos
  refine ⟨slot, ?_, ?_, ?_⟩
  · rw [(replaces.sameDestination slot).1]
    exact isActive
  · exact (replaces.sameDestination slot).2
  · rw [replaces.conns_self]

theorem progress
    (layout : Layout state) {slot : Slot} {action : Action}
    (progress : Progress state slot action after)
    (permitted : Orderly state action) :
    Layout after := by
  rcases progress.cases with
      ⟨conn, quiet⟩ | ⟨-, rfl⟩ | ⟨pos, result, rfl, isEvent, -, rfl⟩
  · exact quiet.keepsLayout layout
  · exact layout.loseConnection slot
  · exact layout.establish (permitted slot isEvent) pos

/-- One destination is changed, but not its node. -/
theorem setDest
    (layout : Layout state) {slot : Slot} {dest : Destination}
    (sameNode : dest.maskPos = (state.dests slot).maskPos)
    (sameActive : dest.active = true → (state.dests slot).active = true) :
    Layout (state.setDest slot dest) := by
  have sameConns : (state.setDest slot dest).conns = state.conns := rfl
  apply layout.changeDests sameConns
  intro other
  rcases eq_or_ne other slot with rfl | different
  · simpa [State.setDest] using ⟨sameNode, sameActive⟩
  · simp [State.setDest, different]

theorem perform
    (layout : Layout state) {action : Action} (enabled : Enabled state action)
    (permitted : Orderly state action) : Layout (state.perform action) := by
  cases action with
  | destinationAdd maskPos => exact layout.add enabled permitted
  | destinationDrop maskPos =>
    rw [State.perform]
    split
    · exact layout.setDest rfl Bool.noConfusion
    · exact layout
  | destinationReconnect maskPos =>
    rw [State.perform]
    split
    · exact layout.setDest rfl id
    · exact layout
  | destinationDropAll =>
    exact layout.changeDests rfl fun _ => ⟨rfl, Bool.noConfusion⟩
  | destinationReconnectAll =>
    have sameConns : (state.perform .destinationReconnectAll).conns =
        state.conns := rfl
    apply layout.changeDests sameConns
    intro slot
    rw [State.perform]
    dsimp only
    split_ifs
    · exact ⟨rfl, id⟩
    · exact ⟨rfl, id⟩
  | configure => exact layout.configure permitted
  | transfer slot fails =>
      exact layout.progress (progress_transfer slot fails) permitted
  | timer slot result => exact layout.progress (progress_timer enabled) permitted
  | socket pos result =>
    obtain ⟨slot, progress⟩ := progress_socket enabled
    exact layout.progress progress permitted
  | getSendconnCnt | readSendconnCnt | forget =>
    exact layout.changeDests rfl fun _ => ⟨rfl, id⟩

theorem track (layout : Layout state) : Layout state.track :=
  layout.changeDests rfl fun _ => ⟨rfl, id⟩

theorem init : Layout machine.init where
  agree := nofun
  dests := nofun
  conns := nofun
  inactive := nofun
  destBound := fun _ => Nat.zero_lt_succ 15
  connBound := fun _ => Nat.zero_lt_succ 15

end Layout

/-- The connections that are Active after the pass. -/
theorem configuredConn_isActive {dest : Destination} {conn : Conn} {maskPos : ℕ} :
    ((configuredConn dest conn).active = true ∧
        (configuredConn dest conn).maskPos = maskPos ∧
        (configuredConn dest conn).state = .active) ↔
      (conn.active = true ∧ conn.maskPos = maskPos ∧ conn.state = .active) ∧
        ¬Deleted dest conn ∧ ¬Reconnects dest conn := by
  rw [configuredConn]
  split_ifs with fresh deleted reconnects
  · simp [fresh.2]
  · simp [deleted]
  · simp [reconnects]
  · simp [deleted, reconnects]

/-- The pass closes the Active connections that are asked to reconnect, and no
other. -/
theorem connected_configure
    (layout : Layout state) (permitted : Orderly state .configure) {maskPos : ℕ} :
    state.configure.Connected maskPos ↔
      state.Connected maskPos ∧
        ¬∃ slot, Reconnects (state.dests slot) (state.conns slot) ∧
          (state.conns slot).state = .active ∧
            (state.conns slot).maskPos = maskPos := by
  simp only [State.Connected, State.configure_conns, configuredConn_isActive]
  constructor
  · rintro ⟨slot, connected, -, notReconnects⟩
    refine ⟨⟨slot, connected⟩, ?_⟩
    rintro ⟨other, reconnects, -, sameNode⟩
    have same := layout.conns slot other connected.1 reconnects.2.1
      (connected.2.1.trans sameNode.symm)
    exact notReconnects (same ▸ reconnects)
  · rintro ⟨⟨slot, isActive, isNode, isState⟩, none⟩
    refine ⟨slot, ⟨isActive, isNode, isState⟩, ?_, ?_⟩
    · exact fun deleted => permitted slot deleted isState
    · exact fun reconnects => none ⟨slot, reconnects, isState, isNode⟩

/-! ## The mask -/

/-- The bits of the mask are those of the nodes with an Active connection. -/
def MaskFollows (state : State) : Prop :=
  ∀ maskPos < mtmMaxNodes, bitCheck state.sendersMask maskPos = true ↔
    state.Connected maskPos

namespace MaskFollows

theorem congr
    (follows : MaskFollows state)
    (sameMask : after.sendersMask = state.sendersMask)
    (sameConnected : ∀ maskPos, after.Connected maskPos ↔
      state.Connected maskPos) :
    MaskFollows after := by
  intro maskPos inRange
  rw [sameMask, sameConnected]
  exact follows maskPos inRange

/-- The disconnect hook is called for an Active connection that is lost. -/
theorem loseConnection
    (follows : MaskFollows state) (layout : Layout state) {slot : Slot}
    (wasActive : (state.conns slot).state = .active) :
    MaskFollows (state.loseConnection slot) := by
  intro maskPos inRange
  have isMask : (state.loseConnection slot).sendersMask =
      bitClear state.sendersMask (state.conns slot).maskPos := rfl
  rw [isMask, bitCheck_bitClear]
  rcases eq_or_ne maskPos (state.conns slot).maskPos with rfl | different
  · simpa using layout.not_connected_loseConnection wasActive
  · rw [(replaces_loseConnection state slot).connected_of_ne different,
      ← follows maskPos inRange]
    simp [different]

/-- The connect hook is called for a connection that is established. -/
theorem establish
    (follows : MaskFollows state) {slot : Slot}
    (isActive : (state.conns slot).active = true) (pos : ℕ) :
    MaskFollows (state.establish slot pos) := by
  intro maskPos inRange
  have isMask : (state.establish slot pos).sendersMask =
      bitSet state.sendersMask (state.conns slot).maskPos := rfl
  have inMask : maskPos < 64 := inRange.trans (by decide)
  rw [isMask, bitCheck_bitSet inMask]
  rcases eq_or_ne maskPos (state.conns slot).maskPos with rfl | different
  · simpa using Layout.connected_establish isActive pos
  · rw [(replaces_establish state slot pos).connected_of_ne different,
      ← follows maskPos inRange]
    simp [different]

/-- The pass closes the Active connections that are asked to reconnect, and no
other. -/
theorem configure
    (follows : MaskFollows state) (layout : Layout state)
    (permitted : Orderly state .configure) : MaskFollows state.configure := by
  intro maskPos inRange
  rw [State.bitCheck_configure, connected_configure layout permitted]
  split_ifs with reconnects
  · exact iff_of_false nofun fun both => both.2 reconnects
  · rw [follows maskPos inRange]
    exact (and_iff_left reconnects).symm

theorem perform
    (follows : MaskFollows state) (layout : Layout state) {action : Action}
    (enabled : Enabled state action) (permitted : Orderly state action) :
    MaskFollows (state.perform action) := by
  rcases perform_cases enabled with ⟨rfl, isConfigure⟩ | ⟨slot, progress⟩ | same
  · rw [isConfigure]
    exact follows.configure layout permitted
  · rcases progress.cases with ⟨conn, quiet⟩ | ⟨wasActive, isAfter⟩ |
      ⟨pos, result, rfl, isEvent, -, isAfter⟩
    · exact follows.congr quiet.sendersMask quiet.connected
    · rw [isAfter]
      exact follows.loseConnection layout wasActive
    · rw [isAfter]
      exact follows.establish (permitted slot isEvent) pos
  · apply follows.congr same.sendersMask
    intro maskPos
    rw [State.Connected, same.conns]
    rfl

end MaskFollows

/-- The mask follows the Active connections in every orderly run. -/
theorem sendersMask_follows_connections
    {state : State} (reached : machine.Reachable Orderly state) {maskPos : ℕ}
    (inRange : maskPos < mtmMaxNodes) :
    bitCheck state.sendersMask maskPos = true ↔ state.Connected maskPos := by
  have both : Layout state ∧ MaskFollows state := by
    refine @Machine.Reachable.invariant _ _ _ _
      (fun state => Layout state ∧ MaskFollows state) ?_ ?_ _ reached
    · refine ⟨.init, fun maskPos _ => iff_of_false ?_ ?_⟩
      · simp [machine, bitCheck]
      · rintro ⟨slot, isActive, -⟩
        exact Bool.false_ne_true isActive
    · rintro current action ⟨layout, follows⟩ enabled permitted
      exact ⟨(layout.perform enabled permitted).track,
        (follows.perform layout enabled permitted).congr rfl fun _ => Iff.rfl⟩
  exact both.2 maskPos inRange

/-- A connection to node 2 is established. -/
def connect : List Action :=
  [.destinationAdd 1, .configure,
    .timer 0 { started := true, pos := 2, sendFails := false, timedOut := false },
    .socket 2 { status := .ok, pos := 2, consumed := true, busy := false },
    .socket 2 { status := .ok, pos := 2, consumed := true, busy := false }]

theorem connect_completes :
    (machine.execute Orderly machine.init connect).isSome = true := by
  decide +kernel

theorem sendersMask_follows_connect :
    let state :=
      (machine.execute Orderly machine.init connect).get connect_completes
    (bitCheck state.sendersMask 1 = true ↔ state.Connected 1) ∧
      state.Connected 1 := by
  intro state
  have connected : state.Connected 1 := by
    decide +kernel
  exact ⟨sendersMask_follows_connections
    (Machine.reachable_of_execute connect connect_completes)
      (by decide), connected⟩

/-- The destination with the Active connection is dropped. -/
def dropConnected : List Action :=
  connect ++ [.destinationDrop 1, .configure]

theorem dropConnected_completes :
    (machine.execute Machine.Always machine.init dropConnected).isSome =
      true := by
  decide +kernel

/-- The bit of a dropped node stays set, though no connection to it is held. -/
theorem sendersMask_after_drop :
    ∃ state, machine.Reachable Machine.Always state ∧
      bitCheck state.sendersMask 1 = true ∧ ¬state.Connected 1 := by
  let state := (machine.execute Machine.Always machine.init
    dropConnected).get dropConnected_completes
  have isSet : bitCheck state.sendersMask 1 = true := by
    decide +kernel
  have notConnected : ¬state.Connected 1 := by
    decide +kernel
  exact ⟨state,
    Machine.reachable_of_execute dropConnected dropConnected_completes,
    isSet, notConnected⟩

end Sender
end Multimaster
