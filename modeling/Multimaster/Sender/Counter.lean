import Multimaster.Gather.Loop
import Multimaster.Sender.Mask

/-!
# Send connection counters

A caller remembers the counters of the send connections and compares them later.
The counter of a connection is 0 while it is not Active and grows with every new
connection, so that a lost connection is noticed.  A destination that is added
again starts to count from 0, though, and the counters of the nodes from 11 on
lie behind the arrays.
-/

namespace Multimaster
namespace Sender

/-- The steps after which the counters still tell: the node ids are within the
arrays, and no destination is started while somebody holds a counter of its
node. -/
def Counted (state : State) (action : Action) : Prop :=
  Orderly state action ∧
    match action with
    | .destinationAdd maskPos => maskPos < dmqMaxDestinations
    | .getSendconnCnt _ participant => participant < dmqMaxDestinations
    | .configure => ∀ slot, Fresh (state.dests slot) (state.conns slot) →
        ∀ caller count,
          state.snapshot (caller, (state.dests slot).maskPos) = some count →
          count = 0
    | _ => True

/-- The counters tell the connections apart. -/
structure Counts (state : State) : Prop where
  live : ∀ maskPos, state.Connected maskPos →
    state.sconnCnt maskPos = state.localCnt maskPos ∧ 0 < state.localCnt maskPos
  dead : ∀ maskPos, ¬state.Connected maskPos → state.sconnCnt maskPos = 0
  nonneg : ∀ maskPos, 0 ≤ state.localCnt maskPos
  snapshots : ∀ call count, state.snapshot call = some count → count = 0 ∨
    (count ≤ state.localCnt call.2 ∧
      (state.unbroken call = false → count < state.localCnt call.2 ∨
        ¬state.Connected call.2))

variable {state after : State}

namespace Counts

/-- A step that changes no connection and no counter. -/
theorem congr
    (counts : Counts state)
    (connected : ∀ maskPos, after.Connected maskPos ↔ state.Connected maskPos)
    (sconnCnt : after.sconnCnt = state.sconnCnt)
    (localCnt : after.localCnt = state.localCnt)
    (snapshot : after.snapshot = state.snapshot)
    (unbroken : after.unbroken = state.unbroken) :
    Counts after where
  live := by
    intro maskPos isConnected
    rw [sconnCnt, localCnt]
    exact counts.live maskPos ((connected maskPos).mp isConnected)
  dead := by
    intro maskPos notConnected
    rw [sconnCnt]
    exact counts.dead maskPos (mt (connected maskPos).mpr notConnected)
  nonneg := by
    rw [localCnt]
    exact counts.nonneg
  snapshots := by
    intro call count isSnapshot
    rw [snapshot] at isSnapshot
    rw [localCnt, unbroken, connected]
    exact counts.snapshots call count isSnapshot

/-- The connection to a node is lost. -/
theorem loseConnection
    (counts : Counts state) (layout : Layout state) {slot : Slot}
    (wasActive : (state.conns slot).state = .active) :
    Counts (state.loseConnection slot) := by
  have notConnected := layout.not_connected_loseConnection wasActive
  have sameOther : ∀ maskPos, maskPos ≠ (state.conns slot).maskPos →
      ((state.loseConnection slot).Connected maskPos ↔ state.Connected maskPos) :=
    fun maskPos => (replaces_loseConnection state slot).connected_of_ne
  have isCount : (state.loseConnection slot).sconnCnt =
      Function.update state.sconnCnt (state.conns slot).maskPos 0 := rfl
  constructor
  case live =>
    intro maskPos connected
    rcases eq_or_ne maskPos (state.conns slot).maskPos with rfl | different
    · exact absurd connected notConnected
    · rw [isCount, Function.update_of_ne different]
      exact counts.live maskPos ((sameOther maskPos different).mp connected)
  case dead =>
    intro maskPos dead
    rcases eq_or_ne maskPos (state.conns slot).maskPos with rfl | different
    · rw [isCount, Function.update_self]
    · rw [isCount, Function.update_of_ne different]
      exact counts.dead maskPos (mt (sameOther maskPos different).mpr dead)
  case nonneg => exact counts.nonneg
  case snapshots =>
    intro call count isSnapshot
    rcases counts.snapshots call count isSnapshot with isZero | ⟨atMost, broken⟩
    · exact Or.inl isZero
    · refine Or.inr ⟨atMost, fun isBroken => ?_⟩
      rcases eq_or_ne call.2 (state.conns slot).maskPos with same | different
      · rw [same]
        exact Or.inr notConnected
      · rw [sameOther _ different]
        exact broken isBroken

/-- A connection is established, and counted. -/
theorem establish
    (counts : Counts state) {slot : Slot}
    (isActive : (state.conns slot).active = true) (pos : ℕ) :
    Counts (state.establish slot pos) := by
  have connected := Layout.connected_establish isActive pos
  have sameOther : ∀ maskPos, maskPos ≠ (state.conns slot).maskPos →
      ((state.establish slot pos).Connected maskPos ↔ state.Connected maskPos) :=
    fun maskPos => (replaces_establish state slot pos).connected_of_ne
  have isShared : (state.establish slot pos).sconnCnt =
      Function.update state.sconnCnt (state.conns slot).maskPos
        (state.localCnt (state.conns slot).maskPos + 1) := rfl
  have isLocal : (state.establish slot pos).localCnt =
      Function.update state.localCnt (state.conns slot).maskPos
        (state.localCnt (state.conns slot).maskPos + 1) := rfl
  have nonneg := counts.nonneg (state.conns slot).maskPos
  constructor
  case live =>
    intro maskPos isConnected
    rw [isShared, isLocal]
    rcases eq_or_ne maskPos (state.conns slot).maskPos with rfl | different
    · rw [Function.update_self, Function.update_self]
      exact ⟨rfl, by omega⟩
    · rw [Function.update_of_ne different, Function.update_of_ne different]
      exact counts.live maskPos ((sameOther maskPos different).mp isConnected)
  case dead =>
    intro maskPos dead
    rcases eq_or_ne maskPos (state.conns slot).maskPos with rfl | different
    · exact absurd connected dead
    · rw [isShared, Function.update_of_ne different]
      exact counts.dead maskPos (mt (sameOther maskPos different).mpr dead)
  case nonneg =>
    intro maskPos
    rw [isLocal]
    rcases eq_or_ne maskPos (state.conns slot).maskPos with rfl | different
    · rw [Function.update_self]
      omega
    · rw [Function.update_of_ne different]
      exact counts.nonneg maskPos
  case snapshots =>
    intro call count isSnapshot
    rcases counts.snapshots call count isSnapshot with isZero | ⟨atMost, broken⟩
    · exact Or.inl isZero
    · rw [isLocal]
      rcases eq_or_ne call.2 (state.conns slot).maskPos with same | different
      · rw [same] at atMost ⊢
        rw [Function.update_self]
        exact Or.inr ⟨by omega, fun _ => Or.inl (by omega)⟩
      · rw [Function.update_of_ne different, sameOther _ different]
        exact Or.inr ⟨atMost, broken⟩

theorem progress
    (counts : Counts state) (layout : Layout state) {slot : Slot}
    {action : Action}
    (progress : Progress state slot action after)
    (permitted : Orderly state action) :
    Counts after := by
  rcases progress.cases with ⟨conn, quiet⟩ | ⟨wasActive, rfl⟩ |
    ⟨pos, result, rfl, isEvent, -, rfl⟩
  · exact counts.congr quiet.connected quiet.sconnCnt quiet.localCnt
      quiet.snapshot
      quiet.unbroken
  · exact counts.loseConnection layout wasActive
  · exact counts.establish (permitted slot isEvent) pos

/-- A connection that stays Active is not new, and not asked to reconnect. -/
theorem not_touched
    (layout : Layout state) {maskPos : ℕ}
    (connected : state.configure.Connected maskPos) :
    ¬∃ slot, (Fresh (state.dests slot) (state.conns slot) ∨
      Reconnects (state.dests slot) (state.conns slot)) ∧
      (state.dests slot).maskPos = maskPos := by
  obtain ⟨slot, isActive, isNode, isState⟩ := connected
  rw [State.configure_conns] at isActive isNode isState
  obtain ⟨destActive, destNode⟩ := layout.configuredConn_active isActive
  obtain ⟨⟨connActive, -, -⟩, -, notReconnects⟩ :=
    configuredConn_isActive.mp ⟨isActive, isNode, isState⟩
  rintro ⟨other, touched, sameNode⟩
  have otherActive : (state.dests other).active = true := by
    rcases touched with fresh | reconnects
    · exact fresh.1
    · exact reconnects.1
  have same := layout.dests slot other destActive otherActive
    (destNode.symm.trans (isNode.trans sameNode.symm))
  subst same
  rcases touched with fresh | reconnects
  · exact nomatch fresh.2.symm.trans connActive
  · exact notReconnects reconnects

theorem configure
    (counts : Counts state) (layout : Layout state)
    (permitted : Counted state .configure) : Counts state.configure := by
  obtain ⟨orderly, noSnapshot⟩ := permitted
  have wasConnected : ∀ maskPos, state.configure.Connected maskPos →
      state.Connected maskPos :=
    fun maskPos isConnected =>
      ((connected_configure layout orderly).mp isConnected).1
  constructor
  case live =>
    intro maskPos connected
    have untouched := not_touched layout connected
    have notFresh : ¬∃ slot, Fresh (state.dests slot) (state.conns slot) ∧
        (state.dests slot).maskPos = maskPos :=
      fun ⟨slot, fresh, isNode⟩ => untouched ⟨slot, Or.inl fresh, isNode⟩
    rw [State.sconnCnt_configure, State.localCnt_configure, if_neg untouched,
      if_neg notFresh]
    exact counts.live maskPos (wasConnected maskPos connected)
  case dead =>
    intro maskPos dead
    rw [State.sconnCnt_configure]
    split_ifs with touched
    · rfl
    · apply counts.dead
      intro connected
      apply dead
      rw [connected_configure layout orderly]
      refine ⟨connected, ?_⟩
      rintro ⟨slot, reconnects, -, isNode⟩
      have sameNode := layout.agree slot reconnects.1 reconnects.2.1
      exact touched ⟨slot, Or.inr reconnects, sameNode.symm.trans isNode⟩
  case nonneg =>
    intro maskPos
    rw [State.localCnt_configure]
    split_ifs
    · exact le_refl 0
    · exact counts.nonneg maskPos
  case snapshots =>
    intro call count isSnapshot
    rw [state.configure_frame.2.1] at isSnapshot
    rw [state.configure_frame.2.2, State.localCnt_configure]
    split_ifs with fresh
    · obtain ⟨slot, isFresh, isNode⟩ := fresh
      have isCall : (call.1, (state.dests slot).maskPos) = call := by rw [isNode]
      exact Or.inl (noSnapshot slot isFresh call.1 count (isCall ▸ isSnapshot))
    · rcases counts.snapshots call count isSnapshot with isZero | ⟨atMost, broken⟩
      · exact Or.inl isZero
      · refine Or.inr ⟨atMost, fun isBroken => ?_⟩
        rcases broken isBroken with less | notConnected
        · exact Or.inl less
        · exact Or.inr (mt (wasConnected call.2) notConnected)

/-- The counter of a participant is read into a snapshot. -/
theorem getSendconnCnt
    (counts : Counts state) (caller participant : ℕ) :
    Counts (state.perform (.getSendconnCnt caller participant)) where
  live := counts.live
  dead := counts.dead
  nonneg := counts.nonneg
  snapshots := by
    intro call count isSnapshot
    rcases eq_or_ne call (caller, participant) with rfl | different
    · have isCount : state.sconnCnt participant = count := by
        simpa [State.perform] using isSnapshot
      by_cases connected : state.Connected participant
      · refine Or.inr ⟨?_, ?_⟩
        · exact (isCount.symm.trans (counts.live participant connected).1).le
        · intro isBroken
          simp [State.perform] at isBroken
      · exact Or.inl (isCount.symm.trans (counts.dead participant connected))
    · have wasSnapshot : state.snapshot call = some count := by
        simpa [State.perform, different] using isSnapshot
      have sameUnbroken :
          (state.perform (.getSendconnCnt caller participant)).unbroken call =
            state.unbroken call := by
        simp [State.perform, different]
      rw [sameUnbroken]
      exact counts.snapshots call count wasSnapshot

theorem forget
    (counts : Counts state) (caller participant : ℕ) :
    Counts (state.perform (.forget caller participant)) where
  live := counts.live
  dead := counts.dead
  nonneg := counts.nonneg
  snapshots := by
    intro call count isSnapshot
    rcases eq_or_ne call (caller, participant) with rfl | different
    · simp [State.perform] at isSnapshot
    · have wasSnapshot : state.snapshot call = some count := by
        simpa [State.perform, different] using isSnapshot
      exact counts.snapshots call count wasSnapshot

theorem perform
    (counts : Counts state) (layout : Layout state) {action : Action}
    (enabled : Enabled state action) (permitted : Counted state action) :
    Counts (state.perform action) := by
  cases action with
  | destinationAdd maskPos =>
    rw [State.perform, State.destinationAdd]
    split
    · exact counts.congr (fun _ => Iff.rfl) rfl rfl rfl rfl
    · exact counts
  | destinationDrop maskPos =>
    rw [State.perform]
    split
    · exact counts.congr (fun _ => Iff.rfl) rfl rfl rfl rfl
    · exact counts
  | destinationReconnect maskPos =>
    rw [State.perform]
    split
    · exact counts.congr (fun _ => Iff.rfl) rfl rfl rfl rfl
    · exact counts
  | destinationDropAll | destinationReconnectAll | readSendconnCnt =>
    exact counts.congr (fun _ => Iff.rfl) rfl rfl rfl rfl
  | configure => exact counts.configure layout permitted
  | transfer slot fails =>
    exact counts.progress layout (progress_transfer slot fails) permitted.1
  | timer slot result =>
      exact counts.progress layout (progress_timer enabled) permitted.1
  | socket pos result =>
    obtain ⟨slot, progress⟩ := progress_socket enabled
    exact counts.progress layout progress permitted.1
  | getSendconnCnt caller participant =>
      exact counts.getSendconnCnt caller participant
  | forget caller participant => exact counts.forget caller participant

/-- A snapshot is broken only where the connection is not Active. -/
theorem track (counts : Counts state) : Counts state.track where
  live := counts.live
  dead := counts.dead
  nonneg := counts.nonneg
  snapshots := by
    intro call count isSnapshot
    rcases counts.snapshots call count isSnapshot with isZero | ⟨atMost, broken⟩
    · exact Or.inl isZero
    · refine Or.inr ⟨atMost, fun isBroken => ?_⟩
      cases wasUnbroken : state.unbroken call with
      | false => exact broken wasUnbroken
      | true =>
        have notConnected : ¬state.Connected call.2 := by
          simpa [State.track, wasUnbroken] using isBroken
        exact Or.inr notConnected

theorem init : Counts machine.init where
  live := by
    rintro maskPos ⟨slot, isActive, -⟩
    exact nomatch isActive
  dead := fun _ _ => rfl
  nonneg := fun _ => le_refl 0
  snapshots := nofun

/-- A broken snapshot is told from the counter, by which the participant is
purged. -/
theorem lost
    (counts : Counts state) {call : ℕ × ℕ} {count : ℤ}
    (isSnapshot : state.snapshot call = some count)
    (isBroken : state.unbroken call = false) :
    count = 0 ∨ count ≠ state.sconnCnt call.2 := by
  rcases counts.snapshots call count isSnapshot with isZero | ⟨atMost, broken⟩
  · exact Or.inl isZero
  · by_cases connected : state.Connected call.2
    · have isLocal := (counts.live call.2 connected).1
      have less := (broken isBroken).resolve_right (not_not_intro connected)
      exact Or.inr (by omega)
    · have isDead := counts.dead call.2 connected
      by_cases isZero : count = 0
      · exact Or.inl isZero
      · exact Or.inr (by omega)

end Counts

/-! ## Bounds -/

/-- All positions are within the arrays. -/
structure Within (state : State) : Prop where
  dests : ∀ slot, (state.dests slot).maskPos < dmqMaxDestinations
  conns : ∀ slot, (state.conns slot).maskPos < dmqMaxDestinations
  snapshot : ∀ call, (state.snapshot call).isSome = true →
    call.2 < dmqMaxDestinations
  accessed : ∀ index ∈ state.accessed, index < dmqMaxDestinations

namespace Within

/-- The nodes of the slots stay, and no position behind the arrays is accessed. -/
theorem keep
    (within : Within state)
    (dests : ∀ slot, (after.dests slot).maskPos = (state.dests slot).maskPos)
    (conns : ∀ slot, (after.conns slot).maskPos = (state.conns slot).maskPos)
    (snapshot : after.snapshot = state.snapshot)
    (accessed : ∀ index ∈ after.accessed,
      index ∈ state.accessed ∨ index < dmqMaxDestinations) : Within after where
  dests := by
    intro slot
    rw [dests]
    exact within.dests slot
  conns := by
    intro slot
    rw [conns]
    exact within.conns slot
  snapshot := by
    rw [snapshot]
    exact within.snapshot
  accessed := by
    intro index isAccess
    rcases accessed index isAccess with was | inRange
    · exact within.accessed index was
    · exact inRange

theorem setDest
    (within : Within state) (slot : Slot) {dest : Destination}
    (inRange : dest.maskPos < dmqMaxDestinations) :
      Within (state.setDest slot dest) where
  dests := by
    intro other
    rw [State.setDest]
    dsimp only
    rcases eq_or_ne other slot with rfl | different
    · rw [Function.update_self]
      exact inRange
    · rw [Function.update_of_ne different]
      exact within.dests other
  conns := within.conns
  snapshot := within.snapshot
  accessed := within.accessed

/-- A connection is lost or established. -/
theorem replace
    (within : Within state) {slot : Slot} {conn : Conn}
    (replaces : Replaces state after slot conn)
    (snapshot : after.snapshot = state.snapshot)
    (accessed : after.accessed = (state.conns slot).maskPos :: state.accessed) :
    Within after := by
  refine within.keep ?_
    (fun other => (replaces.sameDestination other).2) snapshot ?_
  · intro other
    rw [replaces.dests]
  · intro index isAccess
    rw [accessed] at isAccess
    rcases List.mem_cons.mp isAccess with rfl | was
    · exact Or.inr (within.conns slot)
    · exact Or.inl was

theorem progress
    (within : Within state) {slot : Slot} {action : Action}
    (progress : Progress state slot action after) : Within after := by
  rcases progress.cases with
      ⟨conn, quiet⟩ | ⟨-, rfl⟩ | ⟨pos, result, rfl, -, -, rfl⟩
  · apply within.keep _ _ quiet.snapshot
    · intro index isAccess
      exact Or.inl (quiet.accessed ▸ isAccess)
    · intro other
      rw [quiet.dests]
    · intro other
      exact (quiet.sameDestination other).2
  · exact within.replace (replaces_loseConnection state slot) rfl rfl
  · exact within.replace (replaces_establish state slot pos) rfl rfl

theorem configure (within : Within state) : Within state.configure where
  dests := by
    intro slot
    rw [State.configure_dests, configuredDest]
    split_ifs
    · exact within.dests slot
    · exact within.dests slot
  conns := by
    intro slot
    rw [State.configure_conns, configuredConn]
    split_ifs
    · exact within.dests slot
    · exact within.conns slot
    · exact within.conns slot
    · exact within.conns slot
  snapshot := by
    rw [state.configure_frame.2.1]
    exact within.snapshot
  accessed := by
    intro index isAccess
    rcases state.accessed_configure isAccess with was | ⟨slot, -, rfl⟩
    · exact within.accessed index was
    · exact within.dests slot

theorem perform
    (within : Within state) {action : Action} (enabled : Enabled state action)
    (permitted : Counted state action) : Within (state.perform action) := by
  cases action with
  | destinationAdd maskPos =>
    rw [State.perform, State.destinationAdd]
    split
    · exact within.setDest _ permitted.2
    · exact within
  | destinationDrop maskPos =>
    rw [State.perform]
    split
    · exact within.setDest _ (within.dests _)
    · exact within
  | destinationReconnect maskPos =>
    rw [State.perform]
    split
    · exact within.setDest _ (within.dests _)
    · exact within
  | destinationDropAll =>
    exact within.keep (fun _ => rfl) (fun _ => rfl) rfl fun _ => Or.inl
  | destinationReconnectAll =>
    refine within.keep ?_ (fun _ => rfl) rfl fun _ => Or.inl
    intro slot
    rw [State.perform]
    dsimp only
    split_ifs
    · rfl
    · rfl
  | configure => exact within.configure
  | transfer slot fails => exact within.progress (progress_transfer slot fails)
  | timer slot result => exact within.progress (progress_timer enabled)
  | socket pos result =>
    obtain ⟨slot, progress⟩ := progress_socket enabled
    exact within.progress progress
  | getSendconnCnt caller participant =>
    refine ⟨within.dests, within.conns, ?_, ?_⟩
    · intro call isSome
      rcases eq_or_ne call (caller, participant) with rfl | different
      · exact permitted.2
      · apply within.snapshot
        simpa [State.perform, different] using isSome
    · exact List.forall_mem_cons.mpr ⟨permitted.2, within.accessed⟩
  | readSendconnCnt caller participant =>
    refine within.keep (fun _ => rfl) (fun _ => rfl) rfl ?_
    intro index isAccess
    rcases List.mem_cons.mp isAccess with rfl | was
    · exact Or.inr (within.snapshot (caller, index) enabled)
    · exact Or.inl was
  | forget caller participant =>
    refine ⟨within.dests, within.conns, ?_, within.accessed⟩
    intro call isSome
    rcases eq_or_ne call (caller, participant) with rfl | different
    · simp [State.perform] at isSome
    · apply within.snapshot
      simpa [State.perform, different] using isSome

theorem track (within : Within state) : Within state.track :=
  within.keep (fun _ => rfl) (fun _ => rfl) rfl fun _ => Or.inl

theorem init : Within machine.init where
  dests := fun _ => Nat.zero_lt_succ 9
  conns := fun _ => Nat.zero_lt_succ 9
  snapshot := nofun
  accessed := nofun

end Within

/-! ## Main result -/

/-- A participant whose connection was not Active all the time since the counter
was read is purged, and the counter arrays are accessed within their bounds. -/
def NoticesLoss (state : State) : Prop :=
  (∀ index ∈ state.accessed, index < dmqMaxDestinations) ∧
  ∀ (caller participant : ℕ) (participants : Nodemask) (sconnCnt current : ℕ → ℤ),
    participant < mtmMaxNodes →
    state.snapshot (caller, participant) = some (sconnCnt participant) →
    current participant = state.sconnCnt participant →
    state.unbroken (caller, participant) = false →
    bitCheck (Gather.dmqPurgeFailedParticipants participants sconnCnt current)
      participant = false

/-- Lost send connections are noticed in every run with the counters intact. -/
theorem lost_connection_noticed
    {state : State} (reached : machine.Reachable Counted state) :
      NoticesLoss state := by
  have all : Layout state ∧ Counts state ∧ Within state := by
    refine @Machine.Reachable.invariant _ _ _ _
      (fun state => Layout state ∧ Counts state ∧ Within state) ?_ ?_ _ reached
    · exact ⟨.init, .init, .init⟩
    · rintro current action ⟨layout, counts, within⟩ enabled permitted
      exact ⟨(layout.perform enabled permitted.1).track,
        (counts.perform layout enabled permitted).track,
        (within.perform enabled permitted).track⟩
  obtain ⟨-, counts, within⟩ := all
  refine ⟨within.accessed, ?_⟩
  intro caller participant participants sconnCnt current inRange isSnapshot
    isCurrent isBroken
  have lost : Gather.LostConnection sconnCnt current participant := by
    rw [Gather.LostConnection, isCurrent]
    exact counts.lost isSnapshot isBroken
  apply Bool.eq_false_iff.mpr
  intro stays
  exact (Gather.bitCheck_purge.mp stays).2 ⟨inRange, lost⟩

/-- The counter of a connection is read before the connection is lost. -/
def loseAfterSnapshot : List Action :=
  [.getSendconnCnt 0 1, .transfer 0 true]

theorem lost_connection_noticed_afterSnapshot :
    ∃ state, machine.Reachable Counted state ∧ state.snapshot (0, 1) = some 1 ∧
      state.unbroken (0, 1) = false ∧ NoticesLoss state := by
  let start : TimerResult :=
    { started := true, pos := 2, sendFails := false, timedOut := false }
  let ready : SocketResult :=
    { status := .ok, pos := 2, consumed := true, busy := false }
  have begin : machine.Reachable Counted machine.init := .refl _
  have added :=
    begin.step (show machine.Enabled _ (.destinationAdd 1) by decide +kernel)
    ⟨by decide +kernel, by decide⟩
  have configured :=
    added.step (show machine.Enabled _ .configure by decide +kernel)
    ⟨by decide +kernel, fun _ _ _ _ isSome => nomatch isSome⟩
  have started :=
    configured.step (show machine.Enabled _ (.timer 0 start) by decide +kernel)
    ⟨by decide +kernel, trivial⟩
  have negotiating :=
    started.step (show machine.Enabled _ (.socket 2 ready) by decide +kernel)
    ⟨by decide +kernel, trivial⟩
  have connected := negotiating.step
    (show machine.Enabled _ (.socket 2 ready) by decide +kernel)
    ⟨by decide +kernel, trivial⟩
  have counted :=
    connected.step
    (show machine.Enabled _ (.getSendconnCnt 0 1) by decide +kernel)
    ⟨by decide +kernel, by decide⟩
  have lost :=
    counted.step (show machine.Enabled _ (.transfer 0 true) by decide +kernel)
    ⟨by decide +kernel, trivial⟩
  exact ⟨_, lost, by decide +kernel, by decide +kernel,
    lost_connection_noticed lost⟩

/-- The node is dropped and added again, and connected for a second time. -/
def addAgain : List Action :=
  connect ++ loseAfterSnapshot ++ [.destinationDrop 1, .configure] ++ connect

theorem addAgain_completes :
    (machine.execute Machine.Always machine.init addAgain).isSome = true := by
  decide +kernel

/-- Node 11 is added. -/
def addNodeEleven : List Action :=
  [.destinationAdd 10, .configure]

theorem addNodeEleven_completes :
    (machine.execute Machine.Always machine.init addNodeEleven).isSome =
      true := by
  decide +kernel

/-- The second connection has the count of the first one, so that its loss goes
unnoticed; and the counter of node 11 is behind the array. -/
theorem lost_connection_missed :
    (∃ state, machine.Reachable Machine.Always state ∧
      state.snapshot (0, 1) = some 1 ∧ state.unbroken (0, 1) = false ∧
      bitCheck
        (Gather.dmqPurgeFailedParticipants 2#64 (fun _ => 1) state.sconnCnt) 1 =
        true) ∧
    ∃ state, machine.Reachable Machine.Always state ∧
      dmqMaxDestinations ∈ state.accessed := by
  constructor
  · refine ⟨(machine.execute Machine.Always machine.init addAgain).get
      addAgain_completes,
      Machine.reachable_of_execute addAgain addAgain_completes, ?_, ?_, ?_⟩
    · decide +kernel
    · decide +kernel
    · decide +kernel
  · refine ⟨(machine.execute Machine.Always machine.init addNodeEleven).get
      addNodeEleven_completes,
      Machine.reachable_of_execute addNodeEleven addNodeEleven_completes, ?_⟩
    decide +kernel

end Sender
end Multimaster
