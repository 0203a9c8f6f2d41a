import Multimaster.Barrier.Routines

/-!
# The generation functions perform the programs of the node

The programs of `Node.Defs` are what the generation functions do to memory, the
state file and the WAL when nothing goes wrong.  A function that returns has
performed the whole program, as long as the others do not come in between.
-/

namespace Multimaster
namespace Barrier

open Generation

/-- The storage after the statements of a program. -/
def performed (program : List (Node.Statement n)) (storage : Node.Storage n) :
    Node.Storage n :=
  program.foldl (fun current statement => Node.exec statement current) storage

theorem performed_append
    (first second : List (Node.Statement n)) (storage : Node.Storage n) :
    performed (first ++ second) storage =
      performed second (performed first storage) :=
  List.foldl_append

/-- Code that has performed the program whenever it returns. -/
def Performs (program : List (Node.Statement n)) {Value : Type}
    (code : Code n Value) :
    Prop :=
  ∀ storage, Routine.Ensures (fun world => world.storage = storage) code
    (fun _ world => world.storage = performed program storage) (fun _ _ => True)

section Rules

variable {Value Other : Type} {code : Code n Value} {rest : Value → Code n Other}
variable {program first second : List (Node.Statement n)}

theorem Performs.bind
    (starts : Performs first code)
    (goesOn : ∀ value, Performs second (rest value)) :
    Performs (first ++ second) (code >>= rest) := by
  intro storage
  refine (starts storage).bind fun value => ?_
  rw [performed_append]
  exact goesOn value (performed first storage)

theorem performs_pure (value : Value) : Performs [] (pure value : Code n Value) :=
  fun _ => Routine.ensures_pure fun _ same => same

theorem performs_throw (stop : Stop) :
    Performs program (throw stop : Code n Value) :=
  fun _ => Routine.ensures_throw fun _ _ => trivial

theorem performs_get : Performs [] (get : Code n (World n)) :=
  fun _ _ same => same

theorem performs_assign (statement : Node.Statement n) :
    Performs [statement] (assign statement) :=
  fun _ => Routine.ensures_modify fun _ same =>
    congrArg (Node.exec statement) same

theorem performs_modify
    {change : World n → World n}
    (kept : ∀ world, (change world).storage = world.storage) :
    Performs [] (modify change : Code n PUnit) :=
  fun _ => Routine.ensures_modify fun world same => (kept world).trans same

theorem performs_ite
    (condition : Prop) [Decidable condition] {yes no : Code n Value}
    (whenTrue : Performs first yes) (whenFalse : Performs second no) :
    Performs (if condition then first else second)
      (if condition then yes else no) := by
  split
  · exact whenTrue
  · exact whenFalse

theorem performs_setGenLock (held : Bool) :
    Performs [] (setGenLock held : Code n Unit) :=
  performs_modify fun _ => rfl

theorem performs_releasePB : Performs [] (releasePB : Code n Unit) :=
  performs_modify fun _ => rfl

theorem performs_unlock_release :
    Performs [] (do setGenLock false; releasePB : Code n Unit) :=
  (performs_setGenLock false).bind fun _ => performs_releasePB

theorem performs_release_unlock (value : Bool) :
    Performs [] (do releasePB; setGenLock false; pure value : Code n Bool) :=
  performs_releasePB.bind fun _ =>
    (performs_setGenLock false).bind fun _ => performs_pure value

end Rules

section Alone

variable {env : Env n}
variable (alone : ∀ time storage, env.otherStorage time storage = storage)

include alone

theorem storage_tick (world : World n) :
    (world.tick env).storage = world.storage := by
  simp only [World.tick, alone, ite_self]

theorem performs_turn : Performs [] (turn env) :=
  performs_modify (storage_tick alone)

theorem performs_call (site : Site) : Performs [] (call env site) := by
  refine (performs_turn alone).bind fun _ => performs_get.bind fun world => ?_
  split
  · exact performs_throw _
  · exact performs_pure _

theorem performs_critical : Performs [] (critical env) := by
  refine (performs_turn alone).bind fun _ => performs_get.bind fun world => ?_
  split
  · exact performs_throw _
  · exact performs_pure _

theorem performs_registerHook : Performs [] (registerHook env) := by
  refine performs_get.bind fun world => ?_
  split
  · exact performs_pure _
  · exact (performs_call alone _).bind fun _ => performs_modify fun _ => rfl

theorem performs_awaitDrained (full : Bool) (patience : ℕ) :
    Performs [] (awaitDrained env full patience) := by
  induction patience with
  | zero => exact performs_throw _
  | succ patience inductionHypothesis =>
      refine (performs_turn alone).bind fun _ => performs_get.bind fun world => ?_
      split
      · exact performs_pure _
      · have slept : Performs []
            (Routine.protect Stop.isError (call env .conditionVariableSleep)
              releasePB) := by
          intro storage
          refine (performs_call alone _ storage).protect (fun _ _ => ?_)
            (fun _ _ _ _ => trivial)
          exact Routine.ensures_modify fun _ _ => trivial
        exact slept.bind fun _ => inductionHypothesis

theorem performs_acquirePBByHolder (full : Bool) :
    Performs [] (acquirePBByHolder env full) := by
  refine (performs_registerHook alone).bind fun _ =>
    (performs_turn alone).bind fun _ => ?_
  have registered : Performs []
      (modify (World.register (holderMode full)) : Code n Unit) :=
    performs_modify fun _ => rfl
  exact registered.bind fun _ => performs_awaitDrained alone full env.patience

theorem performs_mtmStateSave :
    Performs Node.mtmStateSave (mtmStateSave env) := by
  refine (performs_critical alone).bind fun _ =>
    (performs_assign .writeTmp).bind fun _ => ?_
  refine (performs_critical alone).bind fun _ =>
    (performs_assign .renameTmp).bind fun _ => ?_
  refine (performs_critical alone).bind fun _ => ?_
  exact (performs_assign .syncDirectory).bind fun _ => performs_call alone _

theorem performs_logParallelSafe (gen : MtmGeneration n) (donors : NodeMask n) :
    Performs (Node.logParallelSafe gen donors)
      (logParallelSafe env gen donors) := by
  refine (performs_call alone _).bind fun _ => ?_
  refine (performs_assign (.insertParallelSafe gen donors)).bind fun _ => ?_
  exact (performs_call alone _).bind fun _ => performs_assign .flushWal

theorem performs_mtmSetReceiveMode (mode : ReceiveMode n) :
    Performs [.setReceiveMode mode] (mtmSetReceiveMode env mode) :=
  (performs_assign (.setReceiveMode mode)).bind fun _ => performs_call alone _

theorem performs_getOnline (gen : MtmGeneration n) (donors : NodeMask n) :
    Performs (Node.getOnline gen donors) (getOnline env gen donors) := by
  refine (performs_assign (.setPsLogged false)).bind fun _ => ?_
  refine (performs_assign (.setLastOnlineIn gen.num)).bind fun _ => ?_
  refine (performs_mtmStateSave alone).bind fun _ => ?_
  refine (performs_logParallelSafe alone gen donors).bind fun _ => ?_
  refine (performs_assign (.setPsLogged true)).bind fun _ => ?_
  exact (performs_mtmStateSave alone).bind fun _ =>
    performs_mtmSetReceiveMode alone .normal

theorem performs_joinGen (me : Fin n) (gen : MtmGeneration n)
    (donors : NodeMask n) :
    Performs
      (if me ∈ donors then Node.getOnline gen donors
        else Node.mtmStateSave ++ [.setReceiveMode (receiveModeOfDonors donors)])
      (joinGen env me gen donors) := by
  have recovers := (performs_mtmStateSave alone).bind fun _ =>
    performs_mtmSetReceiveMode alone (receiveModeOfDonors donors)
  have ends :
      Performs []
      (do call env .log; setGenLock false; releasePB : Code n Unit) :=
    (performs_call alone _).bind fun _ => performs_unlock_release
  have joins :=
    (performs_ite (me ∈ donors) (performs_getOnline alone gen donors)
    recovers).bind
    fun _ => ends
  rw [List.append_nil] at joins
  exact joins

theorem performs_switchGen
    (me : Fin n) (gen : MtmGeneration n) (donors : NodeMask n)
    (lastVote : MtmGeneration n) :
    Performs
      ((if lastVote.num < gen.num then [Node.Statement.setLastVote gen]
        else []) ++
        [Node.Statement.setCurrentGenNum gen.num,
          .setCurrentGenMasks gen.members gen.configured, .setDonors donors] ++
        (if DeadInGen me gen (voteAfterSwitch lastVote gen).num then
          Node.Statement.setReceiveMode .disabled :: Node.mtmStateSave
        else if me ∈ donors then Node.getOnline gen donors
        else Node.mtmStateSave ++ [.setReceiveMode (receiveModeOfDonors donors)]))
      (switchGen env me gen donors lastVote) := by
  have ends :
      Performs []
      (do call env .log; setGenLock false; releasePB : Code n Unit) :=
    (performs_call alone _).bind fun _ => performs_unlock_release
  have dies := (performs_mtmSetReceiveMode alone .disabled).bind fun _ =>
    (performs_mtmStateSave alone).bind fun _ => ends
  rw [List.append_nil] at dies
  rw [List.append_assoc]
  refine Performs.bind
    (performs_ite _ (performs_assign _) (performs_pure _)) fun _ => ?_
  refine (performs_assign _).bind fun _ => (performs_assign _).bind fun _ => ?_
  refine (performs_assign _).bind fun _ => ?_
  exact performs_ite _ dies (performs_joinGen alone me gen donors)

/-- `MtmConsiderGenSwitch` performs its program. -/
theorem performs_mtmConsiderGenSwitch
    (me : Fin n) (gen : MtmGeneration n) (donors : NodeMask n)
    (storage : Node.Storage n) :
    Routine.Ensures (fun world => world.storage = storage)
      (mtmConsiderGenSwitch env me gen donors)
      (fun _ world => world.storage =
        performed
          (Node.mtmConsiderGenSwitch me gen donors storage.memory) storage)
      (fun _ _ => True) := by
  refine Routine.ensures_get_bind fun unlocked same => ?_
  rw [same]
  by_cases stale : gen.num ≤ storage.memory.currentGen.num
  · have nothing :
        Node.mtmConsiderGenSwitch me gen donors storage.memory = [] := by
      simp [Node.mtmConsiderGenSwitch, stale]
    rw [if_pos stale, nothing]
    exact performs_pure () storage
  rw [if_neg stale]
  refine (performs_acquirePBByHolder alone true storage).bind fun _ => ?_
  refine (performs_setGenLock true storage).bind fun _ => ?_
  refine Routine.ensures_get_bind fun locked same => ?_
  rw [show locked.storage = storage from same, if_neg stale]
  split
  · exact Routine.ensures_throw fun _ _ => trivial
  · next initialized =>
    rw [Node.mtmConsiderGenSwitch, if_neg initialized, if_neg stale]
    exact performs_switchGen alone me gen donors storage.memory.lastVote storage

omit alone in
/-- The status is that of the storage. -/
theorem ensures_currentStatusInGen (me : Fin n) (storage : Node.Storage n) :
    Routine.Ensures (fun world => world.storage = storage)
      (currentStatusInGen env me)
      (fun status world => world.storage = storage ∧
        status = mtmGetCurrentStatusInGen me storage.memory.toMtmStateOnDisk)
      (fun _ _ => True) := by
  have asked : Performs [] (ask env .configured) :=
    performs_get.bind fun _ => performs_pure _
  refine (asked storage).bind fun configured => ?_
  refine Routine.ensures_get_bind fun world same => ?_
  refine Routine.ensures_ite
    (fun _ => Routine.ensures_throw fun _ _ => trivial) fun _ => ?_
  refine Routine.ensures_pure fun _ holds => ⟨holds, ?_⟩
  rw [show world.storage = storage from same]

omit alone in
theorem performs_currentStatusInGen (me : Fin n) :
    Performs [] (currentStatusInGen env me) :=
  fun storage => (ensures_currentStatusInGen me storage).weaken
    (fun _ _ found => found.1) (fun _ _ _ => trivial)

/-- The end of `MtmStateStartup`, for what was loaded. -/
theorem performs_relog (memory : MtmState n) :
    Performs
      (if memory.currentGen.num = memory.lastOnlineIn ∧
        memory.psLogged = false then
        Node.logParallelSafe memory.currentGen memory.donors ++
          Node.Statement.setPsLogged true :: Node.mtmStateSave
      else [])
      (do
        (if memory.currentGen.num = memory.lastOnlineIn ∧
          memory.psLogged = false then do
          logParallelSafe env memory.currentGen memory.donors
          assign (.setPsLogged true)
          mtmStateSave env
        else pure ())
        setGenLock false
        releasePB : Code n Unit) := by
  have logs :=
    (performs_logParallelSafe alone memory.currentGen memory.donors).bind
      fun _ => (performs_assign (.setPsLogged true)).bind fun _ =>
        performs_mtmStateSave alone
  have ends :=
    (performs_ite (memory.currentGen.num = memory.lastOnlineIn ∧
      memory.psLogged = false) logs (performs_pure ())).bind fun _ =>
        performs_unlock_release
  rw [List.append_nil] at ends
  exact ends

theorem performs_finishRecovery
    (gen : MtmGeneration n) (donors : NodeMask n) (isRecovery : Bool) :
    Performs (if isRecovery then Node.getOnline gen donors else [])
      (finishRecovery env gen donors isRecovery) := by
  have ends : Performs []
      (do call env .log; releasePB; setGenLock false; pure false : Code n Bool) :=
    (performs_call alone _).bind fun _ => performs_release_unlock false
  have joins := (performs_getOnline alone gen donors).bind fun _ => ends
  rw [List.append_nil] at joins
  exact performs_ite _ joins (performs_release_unlock true)

theorem ensures_applyParallelSafe
    (me : Fin n) (gen : MtmGeneration n) (donors : NodeMask n) (isRecovery : Bool)
    (storage : Node.Storage n) :
    Routine.Ensures (fun world => world.storage = storage)
      (applyParallelSafe env me gen donors isRecovery)
      (fun _ world => world.storage =
        performed
          (Node.mtmHandleParallelSafe me gen donors isRecovery storage.memory)
          storage)
      (fun _ _ => True) := by
  refine Routine.ensures_get_bind fun locked same => ?_
  rw [same]
  by_cases other : gen.num ≠ storage.memory.currentGen.num
  · rw [if_pos other, Node.mtmHandleParallelSafe, parallelSafeVerdict,
      if_pos (.inl other)]
    exact performs_release_unlock false storage
  rw [if_neg other]
  refine (ensures_currentStatusInGen me storage).bind fun status => ?_
  intro world ⟨unchanged, isStatus⟩
  by_cases notRecovering : status ≠ .recovery
  · rw [if_pos notRecovering, Node.mtmHandleParallelSafe, parallelSafeVerdict,
      if_pos (.inr (isStatus ▸ notRecovering))]
    exact performs_release_unlock false storage world unchanged
  · have recovering : ¬ (gen.num ≠ storage.memory.currentGen.num ∨
        mtmGetCurrentStatusInGen me storage.memory.toMtmStateOnDisk ≠
          .recovery) := by
      rintro (differs | differs)
      · exact other differs
      · exact notRecovering (isStatus ▸ differs)
    rw [if_neg notRecovering, Node.mtmHandleParallelSafe, parallelSafeVerdict,
      if_neg recovering]
    have finished :=
      performs_finishRecovery alone gen donors isRecovery storage world
      unchanged
    cases isRecovery <;> exact finished

/-- `MtmHandleParallelSafe` performs the program of the switch and then its
own. -/
theorem performs_mtmHandleParallelSafe
    (me : Fin n) (gen : MtmGeneration n) (donors : NodeMask n) (isRecovery : Bool)
    (storage : Node.Storage n) :
    Routine.Ensures (fun world => world.storage = storage)
      (mtmHandleParallelSafe env me gen donors isRecovery)
      (fun _ world =>
        let switched := performed
          (.endSession ::
            Node.mtmConsiderGenSwitch me gen donors storage.memory) storage
        world.storage =
          performed
            (Node.mtmHandleParallelSafe me gen donors isRecovery
            switched.memory)
            switched)
      (fun _ _ => True) := by
  refine (performs_assign .endSession storage).bind fun _ => ?_
  refine (performs_call alone _ _).bind fun _ => ?_
  refine (performs_mtmConsiderGenSwitch alone me gen donors _).bind fun _ => ?_
  refine (performs_turn alone _).bind fun _ =>
    Routine.ensures_get_bind fun unlocked same => ?_
  refine Routine.ensures_ite (fun newer => ?_) (fun _ => ?_)
  · refine Routine.ensures_pure fun world unchanged => ?_
    have notInterested : Node.mtmHandleParallelSafe me gen donors isRecovery
        unlocked.storage.memory = [] := by
      rw [Node.mtmHandleParallelSafe, parallelSafeVerdict, if_pos (.inl newer.ne)]
    rw [same] at notInterested
    exact unchanged.trans (congrArg (performed · _) notInterested).symm
  · refine (performs_setGenLock true _).bind fun _ => ?_
    refine (performs_acquirePBByHolder alone true _).bind fun _ => ?_
    exact ensures_applyParallelSafe alone me gen donors isRecovery _

/-- `MtmStateStartup` performs its program. -/
theorem performs_mtmStateStartup (me : Fin n) (storage : Node.Storage n) :
    Routine.Ensures (fun world => world.storage = storage)
      (mtmStateStartup env me)
      (fun _ world => world.storage =
        performed
          (Node.mtmStateStartup me (storage.renamed.getD storage.file)) storage)
      (fun _ _ => True) := by
  refine (performs_acquirePBByHolder alone true storage).bind fun _ => ?_
  refine (performs_setGenLock true _).bind fun _ =>
    (performs_call alone _ _).bind fun _ => ?_
  refine (performs_assign .load _).bind fun _ =>
    (performs_call alone _ _).bind fun _ => ?_
  refine (performs_currentStatusInGen me _).bind fun _ => ?_
  refine Routine.ensures_get_bind fun loaded same => ?_
  rw [same]
  exact (performs_assign _ _).bind fun _ => performs_relog alone _ _

end Alone

end Barrier
end Multimaster
