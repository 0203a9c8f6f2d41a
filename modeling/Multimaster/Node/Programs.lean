import Multimaster.Node.Safety

/-!
# The programs are safe at every statement

Every generation operation, started in a settled state, keeps `Safe` across all
its statements and ends in a settled state again.  Other processes may write
prepares and send heartbeats in between; that is the interference allowed by
`Rely`.
-/

namespace Multimaster
namespace Node

open Generation

/-- What other processes may change while an operation is in progress. -/
structure Rely (s t : Storage n) : Prop where
  memory : t.memory = s.memory
  file : t.file = s.file
  tmp : t.tmp = s.tmp
  renamed : t.renamed = s.renamed
  session : t.sessionOrigin = s.sessionOrigin
  wal : s.wal <+: t.wal
  flushed : s.flushed ≤ t.flushed

namespace Rely

theorem refl (s : Storage n) : Rely s s :=
  ⟨rfl, rfl, rfl, rfl, rfl, List.prefix_refl _, le_refl _⟩

theorem trans (first middle last : Storage n)
    (left : Rely first middle) (right : Rely middle last) :
    Rely first last where
  memory := right.memory.trans left.memory
  file := right.file.trans left.file
  tmp := right.tmp.trans left.tmp
  renamed := right.renamed.trans left.renamed
  session := right.session.trans left.session
  wal := left.wal.trans right.wal
  flushed := left.flushed.trans right.flushed

end Rely

/-- Whoever is online has logged `ParallelSafe`. -/
def Logged (state : MtmStateOnDisk n) : Prop :=
  state.lastOnlineIn = state.currentGen.num → state.psLogged = true

/-- The storage between two operations. -/
structure Settled (s : Storage n) : Prop where
  tmp : s.tmp = none
  renamed : s.renamed = none
  loaded : s.Initialized →
    s.memory.toMtmStateOnDisk = s.file ∧ Logged s.file
  blank : ¬ s.Initialized → s.memory = blankMemory n

/-- The programs run with `Safe` as invariant and `Settled` at the end. -/
abbrev SecureProgram : List (Statement n) → Storage n → Prop :=
  Secure Rely Safe Settled exec

/-- The contents of memory and of the state file at a point of a program where
no save is in progress. -/
structure Point
    (s : Storage n) (memory : MtmState n) (file : MtmStateOnDisk n)
    (session : Option (Fin n)) : Prop where
  memory : s.memory = memory
  file : s.file = file
  tmp : s.tmp = none
  renamed : s.renamed = none
  session : s.sessionOrigin = session

theorem Point.stable
    {s t : Storage n} {memory : MtmState n} {file : MtmStateOnDisk n}
    {session : Option (Fin n)}
    (point : Point s memory file session)
    (interference : Rely s t) :
    Point t memory file session where
  memory := interference.memory.trans point.memory
  file := interference.file.trans point.file
  tmp := interference.tmp.trans point.tmp
  renamed := interference.renamed.trans point.renamed
  session := interference.session.trans point.session

section Rules

variable {s : Storage n} {memory : MtmState n} {file : MtmStateOnDisk n}
variable {session : Option (Fin n)} {rest : List (Statement n)}

/-! ## Rules for single statements -/

/-- An assignment to memory. -/
theorem secure_assign
    (statement : Statement n)
    (assigned : MtmState n → MtmState n)
    (assigns : ∀ t : Storage n,
      exec statement t = { t with memory := assigned t.memory })
    (point : Point s memory file session)
    (continues : ∀ t, Point t (assigned memory) file session →
      (∀ num, s.Durable num → t.Durable num) → SecureProgram rest t) :
    SecureProgram (statement :: rest) s := by
  intro t interference safe
  have here := point.stable interference
  rw [assigns]
  refine ⟨safe.of_same rfl rfl rfl rfl rfl, continues _ ?_ ?_⟩
  · exact ⟨by rw [← here.memory], here.file, here.tmp, here.renamed,
      here.session⟩
  · intro num durable
    exact durable.extend interference.wal interference.flushed

/-- Loading the state file. -/
theorem secure_load
    (point : Point s memory file session)
    (continues : ∀ t,
      Point t { memory with toMtmStateOnDisk := file } file session →
      SecureProgram rest t) :
    SecureProgram (.load :: rest) s := by
  intro t interference safe
  have here := point.stable interference
  refine ⟨safe.of_same rfl rfl rfl rfl rfl, continues _ ?_⟩
  refine ⟨?_, here.file, here.tmp, here.renamed, here.session⟩
  simp only [exec, here.renamed, here.file, here.memory, Option.getD_none]

/-- Assigning `last_online_in` a number no vote forbids. -/
theorem secure_setLastOnlineIn
    (num : ℕ)
    (unpromised : file.lastVote.num ≤ num)
    (point : Point s memory file session)
    (continues : ∀ t,
      Point t { memory with lastOnlineIn := num } file session →
      SecureProgram rest t) :
    SecureProgram (.setLastOnlineIn num :: rest) s := by
  intro t interference safe
  have here := point.stable interference
  have keeps : ∀ earlier ∈ t.trace,
      KeepsPromise earlier (.lastOnlineInSet num) := by
    intro earlier member
    cases earlier with
    | voteResponse request response =>
        intro granted
        have covered := safe.shown _ member .lastVoteNum request.num
          (by simp [Event.shows, granted])
        rw [here.file, Counter.read_lastVoteNum] at covered
        omega
    | heartbeat _ _ _ => trivial
    | parallelSafeLogged _ => trivial
    | lastOnlineInSet _ => trivial
  have emitted := safe.emit (.lastOnlineInSet num)
    (by intro counter value shows; cases shows) keeps
  refine ⟨emitted.of_same rfl rfl rfl rfl rfl, continues _ ?_⟩
  exact ⟨by simp only [exec, here.memory], here.file, here.tmp,
    here.renamed, here.session⟩

/-- Sending a response made of current values. -/
theorem secure_respond
    (request : MtmGeneration n) (response : MtmGenVoteResponse n)
    (current : ∀ counter value,
      (Event.voteResponse request response).shows counter = some value →
      value = counter.read file)
    (point : Point s memory file session)
    (continues : ∀ t, Point t memory file session → SecureProgram rest t) :
    SecureProgram (.respond request response :: rest) s := by
  intro t interference safe
  have here := point.stable interference
  refine ⟨?_, continues _ ?_⟩
  · apply safe.emit
    · rw [here.file]
      exact current
    · intro earlier member
      cases earlier <;> trivial
  · exact ⟨here.memory, here.file, here.tmp, here.renamed, here.session⟩

/-- The end of an operation. -/
theorem secure_nil
    (point : Point s memory file session)
    (saved : memory.toMtmStateOnDisk = file)
    (logged : Logged file)
    (initialized : memory.currentGen.num ≠ mtmInvalidGenNum) :
    SecureProgram [] s := by
  intro t interference safe
  have here := point.stable interference
  refine ⟨here.tmp, here.renamed, ?_, ?_⟩
  · intro _
    rw [here.memory, here.file]
    exact ⟨saved, logged⟩
  · intro uninitialized
    rw [Storage.Initialized, here.memory] at uninitialized
    exact absurd initialized uninitialized

/-! ## Rules for groups of statements -/

/-- `MtmStateSave` of a state that may be saved. -/
theorem secure_mtmStateSave
    (ordered : Ordered memory.toMtmStateOnDisk)
    (above : Below file memory.toMtmStateOnDisk)
    (mayBeSaved : s.MayBeSaved memory.toMtmStateOnDisk)
    (point : Point s memory file session)
    (continues : ∀ t,
      Point t memory memory.toMtmStateOnDisk session →
      (∀ num, s.Durable num → t.Durable num) → SecureProgram rest t) :
    SecureProgram (mtmStateSave ++ rest) s := by
  intro written toWritten safeWritten
  have atWritten := point.stable toWritten
  refine ⟨safeWritten.of_same rfl rfl rfl rfl rfl, ?_⟩
  intro middle toMiddle safeMiddle
  have tmpMiddle : middle.tmp = some memory.toMtmStateOnDisk := by
    rw [toMiddle.tmp]
    simp only [exec, atWritten.memory]
  have fileMiddle : middle.file = file :=
    toMiddle.file.trans atWritten.file
  have durable : ∀ num, s.Durable num → middle.Durable num := by
    intro num known
    exact (known.extend toWritten.wal toWritten.flushed).extend
      toMiddle.wal toMiddle.flushed
  have renamedState : (exec .renameTmp middle).renamed =
      some memory.toMtmStateOnDisk := by
    simp [exec, tmpMiddle]
  refine ⟨?_, ?_⟩
  · have renamed := safeMiddle.rename memory.toMtmStateOnDisk ordered
      (by rw [fileMiddle]; exact above)
      (fun isLogged online => durable _ (mayBeSaved isLogged online))
    exact renamed.of_same rfl renamedState rfl rfl rfl
  · intro syncing toSyncing safeSyncing
    refine ⟨safeSyncing.sync, continues _ ?_ ?_⟩
    · have renamedSyncing : syncing.renamed =
          some memory.toMtmStateOnDisk :=
        toSyncing.renamed.trans renamedState
      refine ⟨?_, ?_, ?_, rfl, ?_⟩
      · exact toSyncing.memory.trans
          (toMiddle.memory.trans atWritten.memory)
      · simp [exec, renamedSyncing]
      · exact toSyncing.tmp
      · exact toSyncing.session.trans
          (toMiddle.session.trans atWritten.session)
    · intro num known
      exact (durable num known).extend toSyncing.wal toSyncing.flushed

/-- `LogParallelSafe` outside a replication session, once the state file says
that the node is online. -/
theorem secure_logParallelSafe
    (gen : MtmGeneration n) (donors : NodeMask n)
    (isCurrent : file.currentGen.num = gen.num)
    (isOnline : file.lastOnlineIn = gen.num)
    (point : Point s memory file none)
    (continues : ∀ t, Point t memory file none → t.Durable gen.num →
      SecureProgram rest t) :
    SecureProgram (logParallelSafe gen donors ++ rest) s := by
  intro t interference safe
  have here := point.stable interference
  have emitted := safe.emit (.parallelSafeLogged gen)
    (by
      intro counter value shows
      rw [here.file]
      cases counter with
      | currentGenNum => cases shows; exact isCurrent.symm
      | lastOnlineIn => cases shows; exact isOnline.symm
      | lastVoteNum => cases shows)
    (by
      intro earlier member
      cases earlier <;> trivial)
  have inserted : Safe (exec (.insertParallelSafe gen donors) t) := by
    have appended := emitted.appendRecord
      (.parallelSafe gen donors t.sessionOrigin) t.flushed (le_refl _)
      (le_trans safe.flushedLength (Nat.le_succ _))
      (by
        intro num isSafe
        rw [here.session] at isSafe
        cases isSafe
        exact le_of_eq (by rw [here.file, isCurrent]))
      (by intro num isNormal; cases isNormal)
    exact appended.of_same rfl rfl rfl rfl rfl
  refine ⟨inserted, ?_⟩
  intro u flushing safeFlushing
  refine ⟨safeFlushing.flush, continues _ ?_ ?_⟩
  · exact ⟨flushing.memory.trans here.memory,
      flushing.file.trans here.file, flushing.tmp.trans here.tmp,
      flushing.renamed.trans here.renamed,
      flushing.session.trans here.session⟩
  · refine ⟨.parallelSafe gen donors none, ?_, rfl⟩
    have member : Record.parallelSafe gen donors none ∈
        (exec (.insertParallelSafe gen donors) t).wal := by
      simp [exec, here.session]
    simpa [exec] using flushing.wal.subset member

/-- Getting online in the current generation. -/
theorem secure_getOnline
    (gen : MtmGeneration n) (donors : NodeMask n)
    (isCurrent : memory.currentGen.num = gen.num)
    (positive : gen.num ≠ mtmInvalidGenNum)
    (above : Below file memory.toMtmStateOnDisk)
    (newer : memory.lastOnlineIn ≤ gen.num)
    (voted : gen.num ≤ memory.lastVote.num)
    (unpromised : file.lastVote.num ≤ gen.num)
    (point : Point s memory file none) :
    SecureProgram (getOnline gen donors) s := by
  -- `memory` with the node online, before and after `ps_logged` is set again
  let going : MtmState n :=
    { memory with psLogged := false, lastOnlineIn := gen.num }
  let gone : MtmState n := { going with psLogged := true }
  have ordered : ∀ logged : Bool,
      Ordered { memory.toMtmStateOnDisk with
        psLogged := logged, lastOnlineIn := gen.num } := by
    intro logged
    exact ⟨le_of_eq isCurrent.symm, by dsimp only; omega⟩
  have aboveGoing : Below file going.toMtmStateOnDisk := by
    intro counter
    cases counter with
    | currentGenNum => exact above .currentGenNum
    | lastOnlineIn => exact le_trans (above .lastOnlineIn) newer
    | lastVoteNum => exact above .lastVoteNum
  apply secure_assign (.setPsLogged false)
    (fun state => { state with psLogged := false }) (fun _ => rfl) point
  intro first atFirst _
  apply secure_setLastOnlineIn gen.num unpromised atFirst
  intro second atSecond
  have atGoing : Point second going file none := atSecond
  refine secure_mtmStateSave (ordered false) aboveGoing ?_ atGoing ?_
  · intro isLogged
    cases isLogged
  intro third atThird _
  refine secure_logParallelSafe gen donors ?_ ?_ atThird ?_
  · exact isCurrent
  · rfl
  intro fourth atFourth durable
  apply secure_assign (.setPsLogged true)
    (fun state => { state with psLogged := true }) (fun _ => rfl) atFourth
  intro fifth atFifth keepsDurable
  have atGone : Point fifth gone going.toMtmStateOnDisk none := atFifth
  refine secure_mtmStateSave (ordered true) ?_ ?_ atGone ?_
  · intro counter
    cases counter <;> exact le_refl _
  · intro _ _
    change fifth.Durable memory.currentGen.num
    rw [isCurrent]
    exact keepsDurable _ durable
  intro sixth atSixth _
  apply secure_assign (.setReceiveMode .normal)
    (fun state => { state with receiveMode := .normal }) (fun _ => rfl)
    atSixth
  intro last atLast _
  exact secure_nil atLast rfl (fun _ => rfl) (by
    change memory.currentGen.num ≠ mtmInvalidGenNum
    rw [isCurrent]
    exact positive)

/-- Replacing the vote by one that is not lower, and saving it. -/
theorem secure_saveVote
    (lastVote vote : MtmGeneration n)
    (isLast : memory.lastVote = lastVote)
    (larger : file.lastVote.num ≤ vote.num)
    (ordered : Ordered file)
    (saved : memory.toMtmStateOnDisk = file)
    (mayBeSaved : s.MayBeSaved file)
    (point : Point s memory file session)
    (continues : ∀ t,
      Point t { memory with lastVote := vote }
        { file with lastVote := vote } session →
      SecureProgram rest t) :
    SecureProgram (saveVote lastVote vote ++ rest) s := by
  subst saved isLast
  unfold saveVote
  split
  · next same =>
      apply continues
      subst same
      exact point
  · apply secure_assign (.setLastVote vote)
      (fun state => { state with lastVote := vote }) (fun _ => rfl) point
    intro t atAssigned keepsDurable
    refine secure_mtmStateSave ?_ ?_ ?_ atAssigned ?_
    · exact ⟨ordered.online, le_trans ordered.voted larger⟩
    · intro counter
      cases counter with
      | currentGenNum => exact le_refl _
      | lastOnlineIn => exact le_refl _
      | lastVoteNum => exact larger
    · intro isLogged online
      exact keepsDurable _ (mayBeSaved isLogged online)
    · intro last atLast _
      exact continues last atLast

/-- The vote of a switch is assigned only when the last one is lower. -/
theorem secure_voteAfterSwitch
    (gen : MtmGeneration n) (point : Point s memory file session)
    (continues : ∀ t, Point t
        { memory with lastVote := voteAfterSwitch memory.lastVote gen } file
        session → SecureProgram rest t) :
    SecureProgram
      ((if memory.lastVote.num < gen.num then [.setLastVote gen] else []) ++
        rest) s := by
  by_cases lower : memory.lastVote.num < gen.num
  · rw [if_pos lower]
    apply secure_assign (.setLastVote gen)
      (fun state => { state with lastVote := gen }) (fun _ => rfl) point
    intro t atVote _
    apply continues
    rw [voteAfterSwitch, if_pos lower]
    exact atVote
  · rw [if_neg lower]
    apply continues
    rw [voteAfterSwitch, if_neg lower]
    exact point

end Rules

/-! ## The operations -/

section Operations

variable {s : Storage n}

theorem Settled.stable
    {t : Storage n}
    (settled : Settled s)
    (interference : Rely s t) :
    Settled t where
  tmp := interference.tmp.trans settled.tmp
  renamed := interference.renamed.trans settled.renamed
  loaded := by
    unfold Storage.Initialized
    rw [interference.memory, interference.file]
    exact settled.loaded
  blank := by
    unfold Storage.Initialized
    rw [interference.memory]
    exact settled.blank

theorem Settled.secure_nil
    (settled : Settled s) : SecureProgram [] s :=
  fun _ interference _ => settled.stable interference

theorem Settled.point
    (settled : Settled s) :
    Point s s.memory s.file s.sessionOrigin :=
  ⟨rfl, rfl, settled.tmp, settled.renamed, rfl⟩

/-! The state in the middle of a switch, before it is decided whether the node
can be online in its new generation. -/

/-- Generation, donors and vote are switched. -/
def midSwitch
    (gen : MtmGeneration n) (donors : NodeMask n) (state : MtmState n) :
    MtmState n :=
  { state with
    currentGen := gen
    donors := donors
    lastVote := voteAfterSwitch state.lastVote gen }

section MidSwitch

variable {gen : MtmGeneration n} {donors : NodeMask n} {state : MtmState n}

theorem gen_le_vote_midSwitch :
    gen.num ≤ (midSwitch gen donors state).lastVote.num := by
  change gen.num ≤ (voteAfterSwitch state.lastVote gen).num
  rw [voteAfterSwitch_num]
  exact le_max_right _ _

theorem offline_midSwitch
    (ordered : Ordered state.toMtmStateOnDisk)
    (newer : state.currentGen.num < gen.num) :
    (midSwitch gen donors state).lastOnlineIn < gen.num :=
  lt_of_le_of_lt ordered.online newer

theorem ordered_midSwitch
    (ordered : Ordered state.toMtmStateOnDisk)
    (newer : state.currentGen.num < gen.num) :
    Ordered (midSwitch gen donors state).toMtmStateOnDisk :=
  ⟨(offline_midSwitch ordered newer).le, gen_le_vote_midSwitch⟩

/-- No counter goes down. -/
theorem below_midSwitch
    (newer : state.currentGen.num < gen.num) :
    Below state.toMtmStateOnDisk
      (midSwitch gen donors state).toMtmStateOnDisk := by
  intro counter
  cases counter with
  | currentGenNum => exact newer.le
  | lastOnlineIn => exact le_refl _
  | lastVoteNum =>
      change state.lastVote.num ≤ (voteAfterSwitch state.lastVote gen).num
      rw [voteAfterSwitch_num]
      exact le_max_left _ _

theorem not_online_midSwitch
    (ordered : Ordered state.toMtmStateOnDisk)
    (newer : state.currentGen.num < gen.num) :
    (midSwitch gen donors state).lastOnlineIn ≠
      (midSwitch gen donors state).currentGen.num :=
  (offline_midSwitch ordered newer).ne

end MidSwitch

/-- `MtmConsiderGenSwitch` outside a replication session. -/
theorem secure_mtmConsiderGenSwitch
    (me : Fin n) (gen : MtmGeneration n) (donors : NodeMask n)
    (settled : Settled s)
    (safe : Safe s)
    (noSession : s.sessionOrigin = none) :
    SecureProgram (mtmConsiderGenSwitch me gen donors s.memory) s := by
  unfold mtmConsiderGenSwitch
  split
  · exact settled.secure_nil
  · next initialized =>
      split
      · exact settled.secure_nil
      · next newer =>
          have newer : s.memory.currentGen.num < gen.num := by omega
          obtain ⟨saved, _⟩ := settled.loaded initialized
          have start : Point s s.memory s.file none :=
            ⟨rfl, rfl, settled.tmp, settled.renamed, noSession⟩
          rw [List.append_assoc]
          refine secure_voteAfterSwitch gen start ?_
          intro t atVote
          apply secure_assign (.setCurrentGenNum gen.num)
            (fun state => { state with
              currentGen := { state.currentGen with num := gen.num } })
            (fun _ => rfl) atVote
          intro t atNum _
          apply secure_assign
            (.setCurrentGenMasks gen.members gen.configured)
            (fun state => { state with
              currentGen := { state.currentGen with
                members := gen.members, configured := gen.configured } })
            (fun _ => rfl) atNum
          intro t atMasks _
          apply secure_assign (.setDonors donors)
            (fun state => { state with donors := donors })
            (fun _ => rfl) atMasks
          intro t atDonors _
          have atSwitched :
              Point t (midSwitch gen donors s.memory) s.file none := atDonors
          have ordered : Ordered s.memory.toMtmStateOnDisk := by
            rw [saved]
            exact safe.fileOrdered
          have above : Below s.file
              (midSwitch gen donors s.memory).toMtmStateOnDisk := by
            rw [← saved]
            exact below_midSwitch newer
          have positive : gen.num ≠ mtmInvalidGenNum :=
            Nat.ne_zero_of_lt newer
          have offline := @not_online_midSwitch n gen donors _ ordered newer
          have notOnline :
              Logged (midSwitch gen donors s.memory).toMtmStateOnDisk :=
            fun online => absurd online offline
          have mayBeSaved : ∀ u : Storage n, u.MayBeSaved
              (midSwitch gen donors s.memory).toMtmStateOnDisk :=
            fun _ _ online => absurd online offline
          split
          · apply secure_assign (.setReceiveMode .disabled)
              (fun state => { state with receiveMode := .disabled })
              (fun _ => rfl) atSwitched
            intro u atMode _
            rw [← List.append_nil mtmStateSave]
            refine secure_mtmStateSave ?_ ?_ ?_ atMode ?_
            · exact ordered_midSwitch ordered newer
            · exact above
            · exact mayBeSaved u
            intro last atLast _
            exact secure_nil atLast rfl notOnline positive
          · next alive =>
              split
              · refine secure_getOnline gen donors rfl positive above
                  (offline_midSwitch ordered newer).le gen_le_vote_midSwitch
                  ?_ atSwitched
                · rw [← saved]
                  simp only [DeadInGen, not_or, not_lt] at alive
                  have num := voteAfterSwitch_num s.memory.lastVote gen
                  omega
              · refine secure_mtmStateSave (ordered_midSwitch ordered newer)
                  above (mayBeSaved t) atSwitched ?_
                intro u atSaved _
                apply secure_assign
                  (.setReceiveMode (receiveModeOfDonors donors))
                  (fun state => { state with
                    receiveMode := receiveModeOfDonors donors })
                  (fun _ => rfl) atSaved
                intro last atLast _
                exact secure_nil atLast rfl notOnline positive

/-- The first part of `MtmHandleParallelSafe`: whatever session the caller
had, the switch runs without one. -/
theorem secure_receiveParallelSafe
    (me : Fin n) (gen : MtmGeneration n) (donors : NodeMask n)
    (settled : Settled s) :
    SecureProgram
      (.endSession :: mtmConsiderGenSwitch me gen donors s.memory) s := by
  intro t interference safe
  have settledLater := settled.stable interference
  have safeEnded : Safe (exec .endSession t) :=
    safe.of_same rfl rfl rfl rfl rfl
  have settledEnded : Settled (exec .endSession t) :=
    ⟨settledLater.tmp, settledLater.renamed, settledLater.loaded,
      settledLater.blank⟩
  refine ⟨safeEnded, ?_⟩
  rw [← interference.memory]
  exact secure_mtmConsiderGenSwitch me gen donors settledEnded safeEnded rfl

/-- The rest of `MtmHandleParallelSafe`. -/
theorem secure_mtmHandleParallelSafe
    (me : Fin n) (gen : MtmGeneration n) (donors : NodeMask n)
    (isRecovery : Bool)
    (settled : Settled s)
    (safe : Safe s)
    (noSession : s.sessionOrigin = none) :
    SecureProgram
      (mtmHandleParallelSafe me gen donors isRecovery s.memory) s := by
  unfold mtmHandleParallelSafe parallelSafeVerdict
  by_cases ignored : gen.num ≠ s.memory.currentGen.num ∨
      mtmGetCurrentStatusInGen me s.memory.toMtmStateOnDisk ≠ .recovery
  · rw [if_pos ignored]
    exact settled.secure_nil
  · rw [if_neg ignored]
    rw [not_or, not_ne_iff, not_ne_iff] at ignored
    obtain ⟨sameNum, recovering⟩ := ignored
    rw [mtmGetCurrentStatusInGen_eq_recovery] at recovering
    obtain ⟨offline, member, _, votedHere⟩ := recovering
    cases isRecovery with
    | false => exact settled.secure_nil
    | true =>
        have initialized : s.Initialized := by
          by_contra uninitialized
          rw [settled.blank uninitialized] at member
          cases member
        obtain ⟨saved, _⟩ := settled.loaded initialized
        have point : Point s s.memory s.file none :=
          ⟨rfl, rfl, settled.tmp, settled.renamed, noSession⟩
        have ordered := safe.fileOrdered
        rw [← saved] at ordered
        refine secure_getOnline gen donors sameNum.symm ?_ ?_ ?_ ?_ ?_ point
        · rw [sameNum]
          exact initialized
        · rw [← saved]
          intro counter
          exact le_refl _
        · rw [sameNum]
          exact ordered.online
        · rw [sameNum]
          exact ordered.voted
        · rw [← saved, sameNum]
          exact le_of_eq votedHere.symm

/-- `MtmStateStartup`. -/
theorem secure_mtmStateStartup
    (me : Fin n)
    (settled : Settled s)
    (safe : Safe s)
    (noSession : s.sessionOrigin = none) :
    SecureProgram (mtmStateStartup me s.file) s := by
  have start : Point s s.memory s.file none :=
    ⟨rfl, rfl, settled.tmp, settled.renamed, noSession⟩
  have positive : s.file.currentGen.num ≠ mtmInvalidGenNum :=
    Nat.pos_iff_ne_zero.mp safe.filePositive
  unfold mtmStateStartup
  apply secure_load start
  intro t atLoaded
  apply secure_assign (.setReceiveMode (startupReceiveMode me s.file))
    (fun state => { state with
      receiveMode := startupReceiveMode me s.file })
    (fun _ => rfl) atLoaded
  intro t atMode _
  split
  · next unlogged =>
      refine secure_logParallelSafe s.file.currentGen s.file.donors rfl
        unlogged.1.symm atMode ?_
      intro u atLogged durable
      apply secure_assign (.setPsLogged true)
        (fun state => { state with psLogged := true }) (fun _ => rfl)
        atLogged
      intro v atSet keepsDurable
      rw [← List.append_nil mtmStateSave]
      refine secure_mtmStateSave ?_ ?_ ?_ atSet ?_
      · exact ⟨safe.fileOrdered.online, safe.fileOrdered.voted⟩
      · intro counter
        cases counter <;> exact le_refl _
      · intro _ _
        exact keepsDurable _ durable
      · intro last atLast _
        exact secure_nil atLast rfl (fun _ => rfl) positive
  · next logged =>
      refine secure_nil atMode rfl ?_ positive
      intro online
      by_contra unlogged
      exact logged ⟨online.symm, by simpa using unlogged⟩

/-- A refusal shows the counters as they are. -/
theorem shows_of_refusal
    {request : MtmGeneration n} {response : MtmGenVoteResponse n}
    {state : MtmState n} (refusal : response.voteOk = false)
    (reported : response.lastVoteNum = 0 ∨
      response.lastVoteNum = state.lastVote.num)
    (gossip : response.currGen.num = 0 ∨
      (response.currGen = state.currentGen ∧
        response.currGenDonors = state.donors))
    {counter : Counter} {value : ℕ}
    (shows : (Event.voteResponse request response).shows counter =
      some value) :
    value = counter.read state.toMtmStateOnDisk := by
  cases counter with
  | currentGenNum =>
      simp only [Event.shows] at shows
      split at shows
      · cases shows
      · next reportedGen =>
          cases shows
          rcases gossip with absent | ⟨same, _⟩
          · exact absurd absent reportedGen
          · rw [same, Counter.read_currentGenNum]
  | lastOnlineIn => simp [Event.shows, refusal] at shows
  | lastVoteNum =>
      simp only [Event.shows, refusal, Bool.false_eq_true, if_false] at shows
      split at shows
      · cases shows
      · next reportedVote =>
          cases shows
          rcases reported with absent | same
          · exact absurd absent reportedVote
          · rw [same, Counter.read_lastVoteNum]

/-- A granted vote shows the counters after it. -/
theorem shows_of_grant
    {request : MtmGeneration n} {file : MtmStateOnDisk n}
    {counter : Counter} {value : ℕ}
    (shows : (Event.voteResponse request
      { genNum := request.num
        voteOk := true
        lastOnlineIn := file.lastOnlineIn }).shows counter = some value) :
    value = counter.read { file with lastVote := request } := by
  cases counter with
  | currentGenNum => simp [Event.shows] at shows
  | lastOnlineIn =>
      simp only [Event.shows, if_true, Option.some.injEq] at shows
      exact shows.symm
  | lastVoteNum =>
      simp only [Event.shows, if_true, Option.some.injEq] at shows
      exact shows.symm

/-- `HandleGenVoteRequest`. -/
theorem secure_handleGenVoteRequest
    (me : Fin n) (env : VoteEnv n) (sender : Fin n)
    (request : MtmGeneration n)
    (settled : Settled s)
    (safe : Safe s)
    (initialized : s.Initialized) :
    SecureProgram
      (Operation.program me s (.handleGenVoteRequest env sender request))
      s := by
  obtain ⟨saved, logged⟩ := settled.loaded initialized
  have ordered := safe.fileOrdered
  change SecureProgram (saveVote s.memory.lastVote _ ++ _) s
  have outcome :=
    handleGenVoteRequest_outcome me env sender request s.memory
  generalize Generation.handleGenVoteRequest me env sender request s.memory =
    answer at outcome ⊢
  have answered : ∀ (vote : MtmGeneration n) (mode : ReceiveMode n)
      (response : MtmGenVoteResponse n),
      s.file.lastVote.num ≤ vote.num →
      (∀ counter value,
        (Event.voteResponse request response).shows counter = some value →
        value = counter.read { s.file with lastVote := vote }) →
      SecureProgram
        (saveVote s.memory.lastVote vote ++
          [.setReceiveMode mode, .respond request response]) s := by
    intro vote mode response larger current
    refine secure_saveVote _ vote rfl larger ordered saved safe.logged
      settled.point ?_
    intro t atVoted
    apply secure_assign (.setReceiveMode mode)
      (fun state => { state with receiveMode := mode }) (fun _ => rfl)
      atVoted
    intro u atMode _
    refine secure_respond request response current atMode ?_
    intro last atLast
    refine secure_nil atLast ?_ logged initialized
    rw [← saved]
  cases outcome with
  | refused response asked refusal reported gossip =>
      apply answered s.memory.lastVote s.memory.receiveMode response
      · rw [← saved]
      · rw [← saved]
        intro counter value shows
        exact shows_of_refusal refusal reported gossip shows
  | confirmed newer already =>
      apply answered s.memory.lastVote s.memory.receiveMode
      · rw [← saved]
      · rw [← saved, already]
        intro counter value shows
        exact shows_of_grant shows
  | voted mode newer fresh configured =>
      apply answered request mode
      · rw [← saved]
        exact le_of_lt fresh
      · rw [← saved]
        intro counter value shows
        exact shows_of_grant shows

/-- `CampaignMyself`. -/
theorem secure_campaignMyself
    (me : Fin n) (env : CampaignEnv n)
    (settled : Settled s)
    (safe : Safe s)
    (initialized : s.Initialized) :
    SecureProgram (Operation.program me s (.campaignMyself env)) s := by
  obtain ⟨saved, logged⟩ := settled.loaded initialized
  have voted : s.memory.lastVote.num ≤
      (Generation.campaignMyself me env s.memory).1.lastVote.num := by
    have outcome := campaignMyself_outcome me env s.memory
    generalize Generation.campaignMyself me env s.memory = result
      at outcome ⊢
    cases outcome with
    | declined mode => exact le_refl _
    | reused mode cohort member configured elsewhere different =>
        exact le_refl _
    | voted mode cohort candidate fresh member configured elsewhere =>
        dsimp only
        omega
  apply secure_assign _ (fun state => { state with receiveMode :=
    (Generation.campaignMyself me env s.memory).1.receiveMode })
    (fun _ => rfl) settled.point
  intro t atMode keepsDurable
  rw [← List.append_nil (saveVote _ _)]
  refine secure_saveVote _ _ ?_ ?_ safe.fileOrdered ?_ ?_ atMode ?_
  · rfl
  · rw [← saved]
    exact voted
  · exact saved
  · intro isLogged online
    exact keepsDurable _ (safe.logged isLogged online)
  · intro last atLast
    refine secure_nil atLast ?_ logged initialized
    rw [← saved]

/-- The end of `CampaignTour`. -/
theorem secure_bumpLastVote
    (me : Fin n) (maxLastVoteNum : ℕ)
    (settled : Settled s)
    (safe : Safe s)
    (initialized : s.Initialized) :
    SecureProgram (Operation.program me s (.bumpLastVote maxLastVoteNum))
      s := by
  obtain ⟨saved, logged⟩ := settled.loaded initialized
  have voted : s.memory.lastVote.num ≤
      (Generation.bumpLastVote maxLastVoteNum s.memory).lastVote.num := by
    unfold Generation.bumpLastVote
    split
    · next complained => exact complained.2
    · exact le_refl _
  change SecureProgram (saveVote s.memory.lastVote _) s
  rw [← List.append_nil (saveVote _ _)]
  refine secure_saveVote _ _ rfl ?_ safe.fileOrdered saved safe.logged
    settled.point ?_
  · rw [← saved]
    exact voted
  · intro last atLast
    refine secure_nil atLast ?_ logged initialized
    rw [← saved]

end Operations

end Node
end Multimaster
