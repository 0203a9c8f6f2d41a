import Multimaster.Gather.Defs

/-!
# What `gather` returns

A participant leaves the mask when its message is accepted, when its queue is
reported dead, or when the connection to it was lost since the request.
-/

namespace Multimaster
namespace Gather

/-! ## Receiving -/

/-- What was received comes from the mask. -/
def Popped.Within (mask : Nodemask) : Popped → Prop
  | .message sender _ => bitCheck mask sender = true
  | .failed sender => bitCheck mask sender = true
  | .wouldBlock => True
  | .interrupted => True

theorem bitCheck_of_firstSetBit
    {mask : Nodemask} {bit : ℕ} (isFirst : firstSetBit mask = some bit) :
    bitCheck mask bit = true :=
  List.find?_some isFirst

theorem popFrom_within
    (turn : Turn) (mask : Nodemask) (inhandles : List Inhandle) (i : ℕ)
    (unchecked : Nodemask)
    (subset : ∀ bit, bitCheck unchecked bit = true → bitCheck mask bit = true) :
    (popFrom turn mask inhandles i unchecked).2.Within mask := by
  induction inhandles generalizing i unchecked with
  | nil =>
    rw [popFrom]
    split
    · exact subset _ (bitCheck_of_firstSetBit ‹_›)
    · trivial
  | cons handle rest ih =>
    rw [popFrom]
    by_cases isSkipped : handle.name = "" ∨ bitCheck mask handle.maskPos = false
    · rw [if_pos isSkipped]
      exact ih _ _ subset
    · rw [if_neg isSkipped]
      have inMask : bitCheck mask handle.maskPos = true := by
        simpa using fun isClear => isSkipped (Or.inr isClear)
      split
      · exact inMask
      · split
        · exact inMask
        · exact inMask
        · trivial
      · exact ih _ _ fun bit isSet => subset bit (bitCheck_of_bitClear isSet)

/-- `dmq_pop_nb` reports only senders of the mask. -/
theorem dmqPopNb_within
    (turn : Turn) (mask : Nodemask) (inhandles : List Inhandle) :
    (dmqPopNb turn mask inhandles).2.Within mask :=
  popFrom_within turn mask inhandles 0 mask fun _ isSet => isSet

/-- The connection to the participant is not the one of the request. -/
def LostConnection (sconnCnt current : ℕ → ℤ) (participant : ℕ) : Prop :=
  sconnCnt participant = 0 ∨ sconnCnt participant ≠ current participant

/-- The participants purged are those with a lost connection. -/
theorem bitCheck_purge
    {participants : Nodemask} {sconnCnt current : ℕ → ℤ} {participant : ℕ} :
    bitCheck (dmqPurgeFailedParticipants participants sconnCnt current)
      participant = true ↔
      bitCheck participants participant = true ∧
        ¬(participant < dmqNMaskPos ∧
          LostConnection sconnCnt current participant) := by
  suffices general : ∀ (positions : List ℕ) res,
      bitCheck (positions.foldl (fun res i =>
          if bitCheck participants i ∧
            (sconnCnt i = 0 ∨ sconnCnt i ≠ current i) then
            bitClear res i
          else res) res) participant = true ↔
        bitCheck res participant = true ∧
          ¬(participant ∈ positions ∧ bitCheck participants participant = true ∧
            LostConnection sconnCnt current participant) by
    rw [dmqPurgeFailedParticipants, general, List.mem_range]
    tauto
  intro positions
  induction positions with
  | nil => simp
  | cons position rest ih =>
    intro res
    rw [List.foldl_cons, ih, List.mem_cons]
    split_ifs with isFailed
    · rw [bitCheck_bitClear]
      rcases eq_or_ne participant position with rfl | other
      · have isLost : LostConnection sconnCnt current participant := isFailed.2
        simp [isFailed.1, isLost]
      · simp [other]
    · rcases eq_or_ne participant position with rfl | other
      · have notFailed : ¬(bitCheck participants participant = true ∧
            LostConnection sconnCnt current participant) := isFailed
        simp [notFailed]
      · simp [other]

/-! ## The loop -/

/-- A turn in which the participant is found to have lost its send connection. -/
def Lost (args : Arguments) (turns : List Turn) (participant : ℕ) : Prop :=
  ∃ sconnCnt, args.sendconnCnt = some sconnCnt ∧
    ∃ turn ∈ turns, turn.timeout = true ∧
      LostConnection sconnCnt turn.sconnCnt participant

/-- What holds during the loop. -/
structure Collected
    (args : Arguments) (participants : Nodemask) (turns : List Turn)
    (state : State) :
    Prop where
  within : ∀ participant, bitCheck state.participants participant = true →
    bitCheck participants participant = true
  distinct : (state.messages.map Prod.fst).Nodup
  done : ∀ entry ∈ state.messages, bitCheck state.participants entry.1 = false
  isParticipant : ∀ entry ∈ state.messages, bitCheck participants entry.1 = true
  accepted : ∀ entry ∈ state.messages, args.Accepts entry.2
  popped : ∀ entry ∈ state.messages,
    Popped.message entry.1 entry.2 ∈ state.history
  left : ∀ participant, bitCheck participants participant = true →
    bitCheck state.participants participant = true ∨
      participant ∈ state.messages.map Prod.fst ∨
      Popped.failed participant ∈ state.history ∨
      Lost args turns participant

namespace Collected

variable {args : Arguments} {participants : Nodemask} {turns : List Turn}
  {state : State}

/-- A turn that only records what was popped. -/
theorem record
    (collected : Collected args participants turns state)
    (inhandles : List Inhandle) (popped : Popped) :
    Collected args participants turns
      { state with
        inhandles := inhandles, history := state.history ++ [popped] } where
  within := collected.within
  distinct := collected.distinct
  done := collected.done
  isParticipant := collected.isParticipant
  accepted := collected.accepted
  popped := fun entry isEntry =>
    List.mem_append_left _ (collected.popped entry isEntry)
  left := by
    intro participant isParticipant
    rcases collected.left participant isParticipant with
      waits | delivered | isDead | lost
    · exact Or.inl waits
    · exact Or.inr (Or.inl delivered)
    · exact Or.inr (Or.inr (Or.inl (List.mem_append_left _ isDead)))
    · exact Or.inr (Or.inr (Or.inr lost))

/-- A participant leaves the mask for one of the reasons. -/
theorem leave
    (collected : Collected args participants turns state)
    {sender : ℕ}
    (reason : Popped.failed sender ∈ state.history) :
    Collected args participants turns
      { state with participants := bitClear state.participants sender } where
  within := fun participant isSet =>
    collected.within participant (bitCheck_of_bitClear isSet)
  distinct := collected.distinct
  done := by
    intro entry isEntry
    rw [bitCheck_bitClear, collected.done entry isEntry, Bool.false_and]
  isParticipant := collected.isParticipant
  accepted := collected.accepted
  popped := collected.popped
  left := by
    intro participant isParticipant
    rcases eq_or_ne participant sender with rfl | other
    · exact Or.inr (Or.inr (Or.inl reason))
    · rcases collected.left participant isParticipant with waits | gone
      · left
        rw [bitCheck_bitClear, waits]
        simp [other]
      · exact Or.inr gone

/-- An accepted message is put to the messages. -/
theorem accept
    (collected : Collected args participants turns state)
    {sender : ℕ} {message : MtmMessage}
    (waits : bitCheck state.participants sender = true)
    (isAccepted : args.Accepts message)
    (isPopped : Popped.message sender message ∈ state.history) :
    Collected args participants turns
      { state with
        messages := state.messages ++ [(sender, message)]
        participants := bitClear state.participants sender } where
  within := fun participant isSet =>
    collected.within participant (bitCheck_of_bitClear isSet)
  distinct := by
    rw [List.map_append, List.nodup_append]
    refine ⟨collected.distinct, by simp, ?_⟩
    rintro other isSender _ isNew rfl
    obtain ⟨entry, isEntry, rfl⟩ := List.mem_map.mp isSender
    have isDone := collected.done entry isEntry
    rw [List.map_singleton, List.mem_singleton] at isNew
    rw [isNew, waits] at isDone
    exact Bool.noConfusion isDone
  done := by
    intro entry isEntry
    rw [bitCheck_bitClear]
    rcases List.mem_append.mp isEntry with isOld | isNew
    · rw [collected.done entry isOld, Bool.false_and]
    · rw [List.mem_singleton.mp isNew]
      simp
  isParticipant := by
    intro entry isEntry
    rcases List.mem_append.mp isEntry with isOld | isNew
    · exact collected.isParticipant entry isOld
    · rw [List.mem_singleton.mp isNew]
      exact collected.within sender waits
  accepted := by
    intro entry isEntry
    rcases List.mem_append.mp isEntry with isOld | isNew
    · exact collected.accepted entry isOld
    · rw [List.mem_singleton.mp isNew]
      exact isAccepted
  popped := by
    intro entry isEntry
    rcases List.mem_append.mp isEntry with isOld | isNew
    · exact collected.popped entry isOld
    · rw [List.mem_singleton.mp isNew]
      exact isPopped
  left := by
    intro participant isParticipant
    rcases eq_or_ne participant sender with rfl | other
    · right
      left
      simp
    · rcases collected.left participant isParticipant with
          waits | delivered | gone
      · left
        rw [bitCheck_bitClear, waits]
        simp [other]
      · right
        left
        rw [List.map_append]
        exact List.mem_append_left _ delivered
      · exact Or.inr (Or.inr gone)

/-- The timeout takes participants out whose connection was lost. -/
theorem purge
    (collected : Collected args participants turns state)
    {turn : Turn} (isTurn : turn ∈ turns) (timeout : turn.timeout = true) :
    Collected args participants turns
      { state with participants := args.purge turn state.participants } := by
  cases counters : args.sendconnCnt with
  | none =>
    have same : args.purge turn state.participants = state.participants := by
      rw [Arguments.purge, counters]
    rw [same]
    exact collected
  | some sconnCnt =>
    have isPurge : args.purge turn state.participants =
        dmqPurgeFailedParticipants state.participants sconnCnt turn.sconnCnt := by
      rw [Arguments.purge, counters]
    rw [isPurge]
    exact
      { within := fun participant isSet =>
          collected.within participant (bitCheck_purge.mp isSet).1
        distinct := collected.distinct
        done := fun entry isEntry => Bool.eq_false_iff.mpr fun isSet =>
          Bool.eq_false_iff.mp (collected.done entry isEntry)
            (bitCheck_purge.mp isSet).1
        isParticipant := collected.isParticipant
        accepted := collected.accepted
        popped := collected.popped
        left := by
          intro participant isParticipant
          rcases collected.left participant isParticipant with waits | gone
          · by_cases lost : LostConnection sconnCnt turn.sconnCnt participant
            · exact Or.inr (Or.inr (Or.inr
                ⟨sconnCnt, counters, turn, isTurn, timeout, lost⟩))
            · exact Or.inl (bitCheck_purge.mpr ⟨waits, fun both => lost both.2⟩)
          · exact Or.inr gone }

/-- One turn keeps what holds during the loop. -/
theorem turn
    (collected : Collected args participants turns state)
    {turn : Turn} (isTurn : turn ∈ turns) :
    Collected args participants turns (gatherTurn args turn state).state := by
  have within := dmqPopNb_within turn state.participants state.inhandles
  have recorded := collected.record
    (dmqPopNb turn state.participants state.inhandles).1
    (dmqPopNb turn state.participants state.inhandles).2
  rw [gatherTurn]
  cases popped : (dmqPopNb turn state.participants state.inhandles).2 with
  | message sender message =>
    rw [popped] at within recorded
    dsimp only
    split_ifs with isAccepted
    · exact recorded.accept within isAccepted (by simp)
    · exact recorded
  | failed sender =>
    rw [popped] at recorded
    exact recorded.leave (by simp)
  | wouldBlock =>
    rw [popped] at recorded
    dsimp only
    split_ifs with timeout
    · exact recorded.purge isTurn timeout
    · exact recorded.purge isTurn timeout
    · exact recorded.purge isTurn timeout
    · exact recorded
    · exact recorded
  | interrupted =>
    rw [popped] at recorded
    exact recorded

/-- The loop keeps what holds during it, and returns true only without
participants. -/
theorem loop
    {rest : List Turn} (subset : ∀ turn ∈ rest, turn ∈ turns)
    (collected : Collected args participants turns state) :
    Collected args participants turns (gatherLoop args rest state).state ∧
      ∀ final, gatherLoop args rest state = .returned true final →
        final.participants = 0#64 := by
  induction rest generalizing state with
  | nil =>
    rw [gatherLoop]
    split_ifs with finished
    · refine ⟨collected, ?_⟩
      rintro final isReturned
      cases isReturned
      exact finished
    · exact ⟨collected, fun final isReturned => nomatch isReturned⟩
  | cons turn rest ih =>
    have stepped := collected.turn (subset turn List.mem_cons_self)
    rw [gatherLoop]
    split_ifs with finished
    · refine ⟨collected, ?_⟩
      rintro final isReturned
      cases isReturned
      exact finished
    · have notTrue : ∀ final,
          gatherTurn args turn state ≠ .returned true final := by
        intro final
        rw [gatherTurn]
        dsimp only
        split
        · split_ifs <;> exact fun same => nomatch same
        · exact fun same => nomatch same
        · split_ifs <;> exact fun same => nomatch same
        · exact fun same => nomatch same
      cases outcome : gatherTurn args turn state with
      | waiting next =>
        rw [outcome] at stepped
        exact ih
          (fun other isOther => subset other (List.mem_cons_of_mem _ isOther))
          stepped
      | returned ret next =>
        rw [outcome] at stepped notTrue
        exact ⟨stepped, fun final isReturned => absurd isReturned (notTrue final)⟩
      | interrupted next =>
        rw [outcome] at stepped
        exact ⟨stepped, fun final isReturned => nomatch isReturned⟩

end Collected

theorem collected_start
    (args : Arguments) (participants : Nodemask) (turns : List Turn)
    (inhandles : List Inhandle) :
    Collected args participants turns
      { participants := participants, messages := [], inhandles := inhandles,
        history := [] } where
  within := fun _ isSet => isSet
  distinct := List.nodup_nil
  done := by simp
  isParticipant := by simp
  accepted := by simp
  popped := by simp
  left := fun _ isSet => Or.inl isSet

/-- What `gather` collects, however it ends. -/
theorem gather_collected
    (args : Arguments) (participants : Nodemask) (inhandles : List Inhandle)
    (turns : List Turn) :
    Collected args participants turns
      (gather args participants inhandles turns).state :=
  ((collected_start args participants turns inhandles).loop fun _ isTurn =>
    isTurn).1

/-- Once `gather` returns true, every participant is accounted for. -/
theorem gather_accounted
    {args : Arguments} {participants : Nodemask} {inhandles : List Inhandle}
    {turns : List Turn} {final : State}
    (isReturned : gather args participants inhandles turns = .returned true final)
    {participant : ℕ} (isParticipant : bitCheck participants participant = true) :
    participant ∈ final.messages.map Prod.fst ∨
      Popped.failed participant ∈ final.history ∨
        Lost args turns participant := by
  have looped :=
    (collected_start args participants turns inhandles).loop fun _ isTurn =>
      isTurn
  rw [gather] at isReturned
  have noParticipant := looped.2 final isReturned
  have collected := looped.1
  rw [isReturned] at collected
  have gone := collected.left participant isParticipant
  change bitCheck final.participants participant = true ∨ _ at gone
  rw [noParticipant] at gone
  apply gone.resolve_left
  rw [bitCheck_eq_getLsbD]
  simp

end Gather
end Multimaster
