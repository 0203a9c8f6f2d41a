import Multimaster.Replication.Viable

/-!
# Where the viable transactions are

The main invariant of the generations: a node that was online in a generation
has in its log all viable transactions of the generations before, and in every
log the viable transactions stand before anything of a later generation.  It is
carried by the donors, which were the most advanced voters, and by recovery,
which reads the log of another node in order.
-/

namespace Multimaster
namespace Replication

open Generation

/-- The generation a record belongs to; a finish belongs to none. -/
def Record.genNum : Record n → ℕ
  | .parallelSafe gen _ => gen.num
  | .prepare xact => xact.gen.num
  | .finish _ _ => 0

/-- The transaction a record prepares. -/
def Record.prepared : Record n → Option (Xact n)
  | .prepare xact => some xact
  | _ => none

theorem Record.prepared_eq_some {record : Record n} {xact : Xact n} :
    record.prepared = some xact ↔ record = .prepare xact := by
  cases record <;> simp [Record.prepared]

/-- The transactions prepared in a log, in order. -/
def prepares (wal : List (Record n)) : List (Xact n) :=
  wal.filterMap Record.prepared

theorem mem_prepares {wal : List (Record n)} {xact : Xact n} :
    xact ∈ prepares wal ↔ .prepare xact ∈ wal := by
  simp [prepares, Record.prepared_eq_some]

/-- What holds of every transaction prepared somewhere. -/
structure Genuine (cluster : Cluster n) (xact : Xact n) : Prop where
  announced : ∃ donors, (xact.gen, donors) ∈ cluster.election.announced
  majority : IsMajority xact.gen.members
  origin : .prepare xact ∈ cluster.wal xact.coordinator
  acked : (xact.coordinator, xact) ∈ cluster.acks

/-- What holds of a positive reply. -/
structure AckOk (cluster : Cluster n) (me : Fin n) (xact : Xact n) : Prop where
  prepared : .prepare xact ∈ cluster.wal me
  online : xact.gen.num ∈ cluster.election.online me
  member : me ∈ xact.gen.members

/-- What holds of a receiver in recovery mode: it has the viable transactions
of the part it has read. -/
structure RecoveryOk
    (cluster : Cluster n) (me : Fin n) (recovery : Recovery n) : Prop where
  bounded : recovery.position ≤ (cluster.wal recovery.sender).length
  applied : ∀ xact, Viable cluster xact →
    .prepare xact ∈ (cluster.wal recovery.sender).take recovery.position →
    .prepare xact ∈ cluster.wal me

/-- The invariant of the replicating cluster. -/
structure Invariant (cluster : Cluster n) : Prop where
  election : Election.Invariant cluster.election
  prepared : ∀ me xact, .prepare xact ∈ cluster.wal me →
    Genuine cluster xact
  acked : ∀ me xact, (me, xact) ∈ cluster.acks → AckOk cluster me xact
  recovery : ∀ me recovery, cluster.recovery me = some recovery →
    RecoveryOk cluster me recovery
  /-- A node that was online in a generation has all viable transactions of
  earlier ones. -/
  online : ∀ me, ∀ num ∈ cluster.election.online me,
    ∀ xact, Viable cluster xact → xact.gen.num < num →
    .prepare xact ∈ cluster.wal me
  /-- Viable transactions stand before the records of later generations. -/
  ordered : ∀ me front record, front ++ [record] <+: cluster.wal me →
    ∀ xact, Viable cluster xact → xact.gen.num < record.genNum →
    .prepare xact ∈ front
  nodup : ∀ me, (prepares (cluster.wal me)).Nodup

/-! ## Persistence of the parts -/

theorem Genuine.mono
    {before after : Cluster n} {xact : Xact n}
    (genuine : Genuine before xact) (grows : Grows before after) :
    Genuine after xact where
  announced := genuine.announced.imp fun _ known => grows.announced known
  majority := genuine.majority
  origin := (grows.wal _).subset genuine.origin
  acked := grows.acks genuine.acked

theorem AckOk.mono
    {before after : Cluster n} {me : Fin n} {xact : Xact n}
    (ok : AckOk before me xact) (grows : Grows before after) :
    AckOk after me xact where
  prepared := (grows.wal me).subset ok.prepared
  online := grows.online me ok.online
  member := ok.member

theorem RecoveryOk.mono
    {before after : Cluster n} {me : Fin n} {recovery : Recovery n}
    (ok : RecoveryOk before me recovery) (grows : Grows before after) :
    RecoveryOk after me recovery where
  bounded := le_trans ok.bounded (grows.wal _).length_le
  applied := by
    intro xact viable inFront
    obtain ⟨rest, grown⟩ := grows.wal recovery.sender
    rw [← grown, List.take_append_of_le_length ok.bounded] at inFront
    exact (grows.wal me).subset
      (ok.applied xact (viable.of_grows grows) inFront)

namespace Invariant

variable {cluster : Cluster n}

/-- A transaction prepared somewhere has the only generation of its number. -/
theorem generation_unique
    (invariant : Invariant cluster)
    {me : Fin n} {xact : Xact n}
    (isPrepared : .prepare xact ∈ cluster.wal me) :
    ∀ pair ∈ cluster.election.announced,
      pair.1.num = xact.gen.num → pair.1 = xact.gen := by
  intro pair known sameNum
  obtain ⟨donors, announced⟩ := (invariant.prepared me xact isPrepared).announced
  exact invariant.election.announced_unique known announced sameNum

/-! ## Steps that move nodes between generations -/

/-- A donor that gets online has all viable transactions of earlier
generations. -/
theorem donor_prepared
    (invariant : Invariant cluster)
    {action : Election.Action n}
    (enabled : Election.Enabled cluster.election action)
    (recovery : Fin n → Option (Recovery n))
    {me : Fin n} {donors : NodeMask n}
    (known : (((Election.effect cluster.election action).node me).currentGen,
      donors) ∈ (Election.effect cluster.election action).announced)
    (newer : (cluster.node me).currentGen.num <
      ((Election.effect cluster.election action).node me).currentGen.num)
    (isDonor : me ∈ donors)
    {xact : Xact n}
    (viable : Viable
      { cluster with
        election := Election.effect cluster.election action
        recovery := recovery } xact)
    (earlier : xact.gen.num <
      ((Election.effect cluster.election action).node me).currentGen.num) :
    .prepare xact ∈ cluster.wal me := by
  have grows := grows_election cluster action enabled recovery
  have electionOk := invariant.election.step action enabled
  have votes := Election.effect_votes_of_newer newer
  generalize isAfter : Election.effect cluster.election action = after
    at known newer viable earlier grows electionOk votes
  have positive := (invariant.election.node me).positive
  -- every member of the generation that voted was online in it
  have held : ∀ member ∈ xact.gen.members,
      (after.node me).currentGen.num ≤ (after.node member).lastVote.num →
      xact.gen.num ∈ after.online member := by
    intro member isMember voted
    rcases viable.ackable member isMember with acked | canAck
    · exact grows.online member (invariant.acked member xact acked).online
    · obtain ⟨_, isOnline | unpromised⟩ := canAck
      · have last := (electionOk.node member).onlineLast
        rw [← isOnline]
        exact last
      · exact absurd (lt_of_le_of_lt unpromised earlier) (not_lt.mpr voted)
  obtain ⟨vote, isVote, isMine, _, atLeast⟩ :=
    electionOk.donor_reported known (by unfold Cluster.node at newer; omega)
      isDonor viable.majority earlier held
  rw [votes] at isVote
  have reported := (invariant.election.node me).reported vote isVote isMine
  rcases Nat.lt_or_eq_of_le atLeast with below | same
  · exact invariant.online me _ reported xact (viable.of_grows grows) below
  · -- the node was online in the generation of the transaction itself
    rw [← same] at reported
    obtain ⟨gen, genDonors, genKnown, sameNum, isMember, _⟩ :=
      (invariant.election.node me).onlineIn _ reported
    have sameGen : gen = xact.gen :=
      viable.generation (gen, genDonors) (grows.announced genKnown) sameNum
    rw [sameGen] at isMember
    rcases viable.ackable me isMember with acked | ⟨passed, _⟩
    · exact (invariant.acked me xact acked).prepared
    · exact absurd earlier (not_lt.mpr passed)

/-- A step of the election protocol; applying `ParallelSafe` needs the viable
transactions of earlier generations. -/
theorem elect
    (invariant : Invariant cluster)
    (action : Election.Action n)
    (enabled : Election.Enabled cluster.election action)
    {recovery : Fin n → Option (Recovery n)}
    (stopped : ∀ me running, recovery me = some running →
      cluster.recovery me = some running)
    (caughtUp : ∀ me gen, action = .parallelSafe me gen true →
      ∀ xact, Viable cluster xact → xact.gen.num < gen.num →
      .prepare xact ∈ cluster.wal me) :
    Invariant
      { cluster with
        election := Election.effect cluster.election action
        recovery := recovery } := by
  have grows := grows_election cluster action enabled recovery
  exact {
    election := invariant.election.step action enabled
    prepared := fun me xact isPrepared =>
      (invariant.prepared me xact isPrepared).mono grows
    acked := fun me xact acked => (invariant.acked me xact acked).mono grows
    recovery := fun me running isRunning =>
      (invariant.recovery me running (stopped me running isRunning)).mono
        grows
    online := by
      intro me num wasOnline xact viable earlier
      rcases Election.mem_effect_online.mp wasOnline with
        old | ⟨isNew, different⟩
      · exact invariant.online me num old xact (viable.of_grows grows) earlier
      · subst isNew
        cases Election.advance_effect cluster.election action enabled me with
        | offline currentGen lastVote lastOnlineIn =>
            exact absurd lastOnlineIn different
        | donor donors known newer lastVote unpromised lastOnlineIn isDonor =>
            rw [lastOnlineIn] at earlier
            exact invariant.donor_prepared enabled recovery known newer
              isDonor viable earlier
        | recovered gen applied sameNum currentGen lastVote unpromised
            lastOnlineIn =>
            rw [lastOnlineIn, ← sameNum] at earlier
            exact caughtUp me gen applied xact (viable.of_grows grows)
              earlier
    ordered := fun me front record isPrefix xact viable =>
      invariant.ordered me front record isPrefix xact
        (viable.of_grows grows)
    nodup := invariant.nodup }

/-! ## Steps that write the log -/

/-- A record appended to the log of a node, with the replies it brings. -/
theorem append
    (invariant : Invariant cluster)
    (me : Fin n) (record : Record n) (acks : List (Fin n × Xact n))
    (grows : Grows cluster { cluster.log me record with acks := acks })
    (acked : ∀ other xact, (other, xact) ∈ acks →
      (other, xact) ∈ cluster.acks ∨
        (other = me ∧ record = .prepare xact ∧
          xact.gen.num ∈ cluster.election.online me ∧
          me ∈ xact.gen.members))
    (genuine : ∀ xact, record = .prepare xact →
      Genuine { cluster.log me record with acks := acks } xact ∧
        .prepare xact ∉ cluster.wal me)
    (earlier : ∀ xact, Viable cluster xact →
      xact.gen.num < record.genNum → .prepare xact ∈ cluster.wal me) :
    Invariant { cluster.log me record with acks := acks } where
  election := invariant.election
  prepared := by
    intro other xact isPrepared
    by_cases same : other = me
    · subst same
      rw [log_wal_self, List.mem_append, List.mem_singleton] at isPrepared
      rcases isPrepared with old | isNew
      · exact (invariant.prepared other xact old).mono grows
      · exact (genuine xact isNew.symm).1
    · rw [log_wal_ne cluster record same] at isPrepared
      exact (invariant.prepared other xact isPrepared).mono grows
  acked := by
    intro other xact isAck
    rcases acked other xact isAck with old | ⟨isMe, isRecord, online, member⟩
    · exact (invariant.acked other xact old).mono grows
    · subst isMe
      refine ⟨?_, online, member⟩
      rw [log_wal_self, isRecord]
      exact List.mem_append_right _ (List.mem_singleton_self _)
  recovery := fun other running isRunning =>
    (invariant.recovery other running isRunning).mono grows
  online := fun other num wasOnline xact viable below =>
    (grows.wal other).subset (invariant.online other num wasOnline xact
      (viable.of_grows grows) below)
  ordered := by
    intro other front written isPrefix xact viable below
    have wasViable := viable.of_grows grows
    by_cases same : other = me
    · subst same
      rw [log_wal_self] at isPrefix
      rcases List.prefix_concat_iff.mp isPrefix with isWhole | isShorter
      · obtain ⟨sameFront, sameLast⟩ := List.append_inj' isWhole rfl
        subst sameFront
        rw [List.singleton_injective sameLast] at below
        exact earlier xact wasViable below
      · exact invariant.ordered other front written isShorter xact
          wasViable below
    · rw [log_wal_ne cluster record same] at isPrefix
      exact invariant.ordered other front written isPrefix xact wasViable
        below
  nodup := by
    intro other
    by_cases same : other = me
    · subst same
      rw [log_wal_self, prepares, List.filterMap_append]
      have old := invariant.nodup other
      cases isPrepare : record.prepared with
      | none => simpa [prepares, isPrepare] using old
      | some xact =>
          have isRecord := Record.prepared_eq_some.mp isPrepare
          have isNew := (genuine xact isRecord).2
          rw [← mem_prepares] at isNew
          simp only [List.filterMap_cons, isPrepare, List.filterMap_nil]
          rw [← List.concat_eq_append, List.nodup_concat]
          exact ⟨isNew, old⟩
    · rw [log_wal_ne cluster record same]
      exact invariant.nodup other

/-- A record that brings no replies. -/
theorem log
    (invariant : Invariant cluster)
    (me : Fin n) (record : Record n)
    (genuine : ∀ xact, record = .prepare xact →
      Genuine cluster xact ∧ .prepare xact ∉ cluster.wal me)
    (earlier : ∀ xact, Viable cluster xact →
      xact.gen.num < record.genNum → .prepare xact ∈ cluster.wal me) :
    Invariant (cluster.log me record) := by
  have grows := grows_log cluster me record cluster.acks (fun _ => id)
    (fun _ => Or.inl)
  apply invariant.append me record cluster.acks grows
  · exact fun _ _ => Or.inl
  · intro xact isRecord
    obtain ⟨isGenuine, isNew⟩ := genuine xact isRecord
    exact ⟨isGenuine.mono grows, isNew⟩
  · exact earlier

/-- A node that accepts a transaction of its generation. -/
theorem accept
    (invariant : Invariant cluster)
    {me : Fin n} {xact : Xact n}
    (accepting : cluster.Accepting me)
    (current : xact.gen.num = (cluster.node me).currentGen.num)
    (isNew : .prepare xact ∉ cluster.wal me)
    (origin : me = xact.coordinator ∧
        xact.gen = (cluster.node me).currentGen ∨
      .prepare xact ∈ cluster.wal xact.coordinator) :
    Invariant
      { cluster.log me (.prepare xact) with
        acks := (me, xact) :: cluster.acks } := by
  have grows := grows_log_ack cluster me xact accepting current
  have isOnline := mtmGetCurrentStatusInGen_eq_online.mp accepting.1
  have nodeOk := invariant.election.node me
  have online : xact.gen.num ∈ cluster.election.online me := by
    rw [current, ← isOnline]
    exact nodeOk.onlineLast
  obtain ⟨gen, donors, known, sameNum, isMember, majority⟩ :=
    nodeOk.onlineIn _ online
  have announced : ∃ donors,
      (xact.gen, donors) ∈ cluster.election.announced := by
    rcases origin with ⟨_, isCurrent⟩ | isPrepared
    · exact ⟨_, isCurrent ▸ nodeOk.current⟩
    · exact (invariant.prepared _ xact isPrepared).announced
  have sameGen : gen = xact.gen := by
    obtain ⟨_, itsKnown⟩ := announced
    exact invariant.election.announced_unique known itsKnown sameNum
  rw [sameGen] at isMember majority
  apply invariant.append me (.prepare xact) _ grows
  · intro other acked isAck
    rcases List.mem_cons.mp isAck with isFresh | old
    · obtain ⟨isMe, isXact⟩ := Prod.mk.inj isFresh
      subst isXact
      exact Or.inr ⟨isMe, rfl, online, isMember⟩
    · exact Or.inl old
  · intro other isOther
    cases isOther
    refine ⟨?_, isNew⟩
    rcases origin with ⟨isCoordinator, _⟩ | isPrepared
    · subst isCoordinator
      refine ⟨announced, majority, ?_, List.mem_cons_self⟩
      rw [log_wal_self]
      exact List.mem_append_right _ (List.mem_singleton_self _)
    · exact (invariant.prepared _ xact isPrepared).mono grows
  · exact fun other viable below =>
      invariant.online me _ online other viable below

/-! ## Recovery -/

/-- Starting, moving and ending receivers. -/
theorem receivers
    (invariant : Invariant cluster)
    {recovery : Fin n → Option (Recovery n)}
    (ok : ∀ me running, recovery me = some running →
      RecoveryOk cluster me running) :
    Invariant { cluster with recovery := recovery } := by
  have grows := grows_recovery cluster recovery
  exact {
    election := invariant.election
    prepared := fun me xact isPrepared =>
      (invariant.prepared me xact isPrepared).mono grows
    acked := fun me xact acked => (invariant.acked me xact acked).mono grows
    recovery := fun me running isRunning => (ok me running isRunning).mono grows
    online := fun me num wasOnline xact viable =>
      invariant.online me num wasOnline xact (viable.of_grows grows)
    ordered := fun me front record isPrefix xact viable =>
      invariant.ordered me front record isPrefix xact (viable.of_grows grows)
    nodup := invariant.nodup }

/-- Consuming a record that is applied if it is a viable prepare. -/
theorem consume
    (invariant : Invariant cluster)
    {me : Fin n} {record : Record n}
    (isNext : nextRecord cluster me = some record)
    (applied : ∀ xact, record = .prepare xact → Viable cluster xact →
      .prepare xact ∈ cluster.wal me) :
    Invariant (cluster.consume me) := by
  apply invariant.receivers
  intro other running isRunning
  by_cases same : other = me
  · subst same
    simp only [Function.update_self, Option.map_eq_some_iff] at isRunning
    obtain ⟨before, wasRunning, isAfter⟩ := isRunning
    subst isAfter
    have ok := invariant.recovery other before wasRunning
    simp only [nextRecord, wasRunning, Option.bind_some] at isNext
    obtain ⟨inside, isRecord⟩ := List.getElem?_eq_some_iff.mp isNext
    refine ⟨inside, ?_⟩
    intro xact viable inFront
    dsimp only at inFront
    rw [List.take_succ_eq_append_getElem inside, isRecord,
      List.mem_append, List.mem_singleton] at inFront
    rcases inFront with old | isThis
    · exact ok.applied xact viable old
    · exact applied xact isThis.symm viable
  · rw [Function.update_of_ne same] at isRunning
    exact invariant.recovery other running isRunning

/-- The viable transactions before the next record are already applied. -/
theorem caughtUp
    (invariant : Invariant cluster)
    {me : Fin n} {record : Record n}
    (isNext : nextRecord cluster me = some record)
    {xact : Xact n}
    (viable : Viable cluster xact)
    (earlier : xact.gen.num < record.genNum) :
    .prepare xact ∈ cluster.wal me := by
  obtain ⟨running, isRunning, isRecord⟩ := Option.bind_eq_some_iff.mp isNext
  obtain ⟨inside, isRecord⟩ := List.getElem?_eq_some_iff.mp isRecord
  apply (invariant.recovery me running isRunning).applied xact viable
  apply invariant.ordered running.sender _ record ?_ xact viable earlier
  rw [← isRecord, ← List.take_succ_eq_append_getElem inside]
  exact List.take_prefix _ _

theorem nextRecord_mem
    {me : Fin n} {record : Record n}
    (isNext : nextRecord cluster me = some record) :
    ∃ sender, record ∈ cluster.wal sender := by
  obtain ⟨running, isRunning, isRecord⟩ := Option.bind_eq_some_iff.mp isNext
  exact ⟨running.sender, List.mem_of_getElem? isRecord⟩

/-- The record to consume stays the same while it is applied. -/
theorem nextRecord_of_grows
    {after : Cluster n} {me : Fin n} {record : Record n}
    (grows : Grows cluster after)
    (recovery : after.recovery = cluster.recovery)
    (isNext : nextRecord cluster me = some record) :
    nextRecord after me = some record := by
  obtain ⟨running, isRunning, isRecord⟩ := Option.bind_eq_some_iff.mp isNext
  obtain ⟨rest, grown⟩ := grows.wal running.sender
  obtain ⟨inside, _⟩ := List.getElem?_eq_some_iff.mp isRecord
  simp only [nextRecord, recovery, isRunning, Option.bind_some]
  rw [← grown, List.getElem?_append_left inside]
  exact isRecord

theorem recover
    (invariant : Invariant cluster)
    {me : Fin n} {record : Record n}
    (isNext : nextRecord cluster me = some record)
    (canRecover : CanRecover cluster me record) :
    Invariant ((applyRecord cluster me record).consume me) := by
  have grows := grows_applyRecord cluster me record
  have before {xact : Xact n} (viable : Viable cluster xact)
      (earlier : xact.gen.num < record.genNum) :
      .prepare xact ∈ cluster.wal me :=
    invariant.caughtUp isNext viable earlier
  cases record with
  | parallelSafe gen donors =>
      have applied : Invariant (applyRecord cluster me
          (.parallelSafe gen donors)) := by
        apply invariant.elect (.parallelSafe me gen true) trivial
          (fun _ _ => id)
        intro other otherGen isAction xact viable earlier
        cases isAction
        exact before viable earlier
      exact applied.consume (nextRecord_of_grows grows rfl isNext)
        (fun xact isPrepare => absurd isPrepare (by simp))
  | prepare xact =>
      obtain ⟨sender, atSender⟩ := nextRecord_mem isNext
      have applied : Invariant (applyRecord cluster me (.prepare xact)) := by
        apply invariant.log
        · intro other isOther
          cases isOther
          exact ⟨invariant.prepared sender xact atSender, canRecover.1⟩
        · exact fun other viable => before viable
      refine applied.consume (nextRecord_of_grows grows rfl isNext) ?_
      intro other isOther _
      cases isOther
      simp [applyRecord]
  | finish xact commit =>
      have applied : Invariant
          (applyRecord cluster me (.finish xact commit)) := by
        apply invariant.log
        · exact fun other isPrepare => absurd isPrepare (by simp)
        · exact fun other viable => before viable
      exact applied.consume (nextRecord_of_grows grows rfl isNext)
        (fun xact isPrepare => absurd isPrepare (by simp))

theorem skip
    (invariant : Invariant cluster)
    {me : Fin n} (enabled : Enabled cluster (.skip me)) :
    Invariant (cluster.consume me) := by
  obtain ⟨running, isRunning, record, isNext, canSkip⟩ := enabled
  apply invariant.consume isNext
  intro xact isPrepare viable
  subst isPrepare
  rcases canSkip with already | aborted
  · exact already
  · exact absurd aborted (viable.notAborted running.sender)

theorem startRecovery
    (invariant : Invariant cluster) (me sender : Fin n) :
    Invariant (effect cluster (.startRecovery me sender)) := by
  apply invariant.receivers
  intro other running isRunning
  by_cases same : other = me
  · subst same
    rw [Function.update_self, Option.some.injEq] at isRunning
    subst isRunning
    exact ⟨Nat.zero_le _, fun xact _ inFront => by cases inFront⟩
  · rw [Function.update_of_ne same] at isRunning
    exact invariant.recovery other running isRunning

theorem update_none
    {recovery : Fin n → Option (Recovery n)} {me other : Fin n}
    {running : Recovery n}
    (isRunning : Function.update recovery me none other = some running) :
    recovery other = some running := by
  by_cases same : other = me
  · rw [same, Function.update_self] at isRunning
    cases isRunning
  · rw [Function.update_of_ne same] at isRunning
    exact isRunning

/-! ## All steps -/

/-- Every action keeps the invariant. -/
theorem step
    (invariant : Invariant cluster)
    (action : Action n)
    (enabled : Enabled cluster action) :
    Invariant (effect cluster action) := by
  cases action with
  | election action =>
      apply invariant.elect action enabled.2 (fun _ _ => id)
      intro me gen isAction
      rw [isAction] at enabled
      exact absurd enabled.1 (by simp [Silent])
  | crash me =>
      apply invariant.elect (.crash me) trivial (fun _ _ => update_none)
      exact fun _ _ isAction => absurd isAction (by simp)
  | logParallelSafe me =>
      have logged : Invariant (cluster.log me
          (.parallelSafe (cluster.node me).currentGen
            (cluster.node me).donors)) := by
        apply invariant.log
        · exact fun other isPrepare => absurd isPrepare (by simp)
        · intro xact viable earlier
          apply invariant.online me _
            (invariant.election.node me).onlineLast xact viable
          rw [enabled.1]
          exact earlier
      apply logged.elect (.logParallelSafe me) enabled (fun _ _ => id)
      exact fun _ _ isAction => absurd isAction (by simp)
  | prepare xact =>
      exact invariant.accept enabled.1 (by rw [enabled.2.1]) enabled.2.2
        (Or.inl ⟨rfl, enabled.2.1⟩)
  | applyPrepare me xact =>
      obtain ⟨_, accepting, current, origin, isNew⟩ := enabled
      exact invariant.accept accepting current isNew (Or.inr origin)
  | finish me xact commit =>
      apply invariant.log
      · exact fun other isPrepare => absurd isPrepare (by simp)
      · exact fun other _ earlier => absurd earlier (Nat.not_lt_zero _)
  | startRecovery me sender => exact invariant.startRecovery me sender
  | recover me =>
      obtain ⟨record, isNext, canRecover⟩ := enabled
      have isNext : nextRecord cluster me = some record := isNext
      simp only [effect, isNext]
      exact invariant.recover isNext canRecover
  | skip me => exact invariant.skip enabled
  | stopRecovery me =>
      apply invariant.receivers
      exact fun other running isRunning =>
        invariant.recovery other running (update_none isRunning)

end Invariant

theorem invariant_initialCluster (n : ℕ) : Invariant (initialCluster n) where
  election := Election.invariant_initialCluster n
  prepared := fun _ _ isPrepared => by cases isPrepared
  acked := fun _ _ acked => by cases acked
  recovery := fun _ _ isRunning => by cases isRunning
  online := by
    intro me num wasOnline xact viable earlier
    have isOne : num = 1 := List.mem_singleton.mp wasOnline
    subst isOne
    obtain ⟨member, isMember⟩ := viable.majority.nonempty
    rcases viable.ackable member isMember with acked | ⟨passed, _⟩
    · cases acked
    · exact absurd earlier (not_lt.mpr passed)
  ordered := by
    intro me front record isPrefix
    have empty : front ++ [record] = [] := List.prefix_nil.mp isPrefix
    exact absurd empty (by simp)
  nodup := fun _ => List.nodup_nil

/-- The invariant holds in every reachable state of the replicating
cluster. -/
theorem invariant_of_reachable
    {allowed : Cluster n → Action n → Prop} {cluster : Cluster n}
    (reachable : (machine n).Reachable allowed cluster) :
    Invariant cluster := by
  refine Machine.Reachable.invariant (invariant_initialCluster n) ?_
    reachable
  intro current action invariant enabled _
  exact invariant.step action enabled

end Replication
end Multimaster
