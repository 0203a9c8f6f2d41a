import Multimaster.Barrier.Modes

/-!
# The barrier is given back

Each function that takes the barrier returns without it.  On an `ERROR` the
functions of a backend give it back themselves; the others leave that to their
callers, which end the process or release the barrier before they go on.
-/

namespace Multimaster
namespace Barrier

open Generation

/-! ## Generation switches -/

section Functions

variable {env : Env n} {start : Counters} {Value : Type}

theorem quiet_mtmStateSave : Quiet env start (mtmStateSave env) := by
  refine quiet_critical.bind fun _ => (quiet_assign _).bind fun _ => ?_
  refine quiet_critical.bind fun _ => (quiet_assign _).bind fun _ => ?_
  exact quiet_critical.bind fun _ => (quiet_assign _).bind fun _ => quiet_call _

theorem quiet_logParallelSafe (gen : MtmGeneration n) (donors : NodeMask n) :
    Quiet env start (logParallelSafe env gen donors) := by
  refine (quiet_call _).bind fun _ => (quiet_assign _).bind fun _ => ?_
  exact (quiet_call _).bind fun _ => quiet_assign _

theorem quiet_mtmSetReceiveMode (mode : ReceiveMode n) :
    Quiet env start (mtmSetReceiveMode env mode) :=
  (quiet_assign _).bind fun _ => quiet_call _

theorem quiet_getOnline (gen : MtmGeneration n) (donors : NodeMask n) :
    Quiet env start (getOnline env gen donors) := by
  refine (quiet_assign _).bind fun _ => (quiet_assign _).bind fun _ => ?_
  refine quiet_mtmStateSave.bind fun _ =>
    (quiet_logParallelSafe _ _).bind fun _ => ?_
  refine (quiet_assign _).bind fun _ => quiet_mtmStateSave.bind fun _ => ?_
  exact quiet_mtmSetReceiveMode _

theorem quiet_currentStatusInGen (me : Fin n) :
    Quiet env start (currentStatusInGen env me) := by
  refine (quiet_ask _).bind fun _ => quiet_get.bind fun _ => ?_
  exact quiet_ite (quiet_throw _) (quiet_pure _)

/-- `LWLockRelease` and `ReleasePB`. -/
theorem releasing_unlock_release :
    Releasing env start (do setGenLock false; releasePB : Code n Unit) :=
  (quiet_setGenLock false).bind_releasing fun _ => releasing_releasePB

/-- `ReleasePB` and `LWLockRelease`, and a value is returned. -/
theorem releasing_release_unlock (value : Bool) :
    Releasing env start
      (do releasePB; setGenLock false; pure value : Code n Bool) :=
  releasing_releasePB.bind_quiet fun _ =>
    (quiet_setGenLock false).bind fun _ => quiet_pure value

theorem releasing_joinGen (me : Fin n) (gen : MtmGeneration n)
    (donors : NodeMask n) :
    Releasing env start (joinGen env me gen donors) := by
  have joined : Quiet env start
      (if me ∈ donors then getOnline env gen donors
        else do
          mtmStateSave env
          mtmSetReceiveMode env (receiveModeOfDonors donors)) :=
    quiet_ite (quiet_getOnline gen donors)
      (quiet_mtmStateSave.bind fun _ => quiet_mtmSetReceiveMode _)
  refine joined.bind_releasing fun _ => (quiet_call _).bind_releasing fun _ => ?_
  exact releasing_unlock_release

theorem releasing_switchGen
    (me : Fin n) (gen : MtmGeneration n) (donors : NodeMask n)
    (lastVote : MtmGeneration n) :
    Releasing env start (switchGen env me gen donors lastVote) := by
  have voted : Quiet env start
      (if lastVote.num < gen.num then assign (.setLastVote gen) else pure ()) :=
    quiet_ite (quiet_assign _) (quiet_pure _)
  refine voted.bind_releasing fun _ => (quiet_assign _).bind_releasing fun _ => ?_
  refine (quiet_assign _).bind_releasing fun _ =>
    (quiet_assign _).bind_releasing fun _ => ?_
  refine releasing_ite ?_ (releasing_joinGen me gen donors)
  refine (quiet_mtmSetReceiveMode _).bind_releasing fun _ => ?_
  refine quiet_mtmStateSave.bind_releasing fun _ =>
    (quiet_call _).bind_releasing fun _ => ?_
  exact releasing_unlock_release

theorem balanced_mtmConsiderGenSwitch
    (me : Fin n) (gen : MtmGeneration n) (donors : NodeMask n) :
    Balanced env start (mtmConsiderGenSwitch env me gen donors) := by
  refine quiet_get.balanced.bind fun unlocked => ?_
  refine balanced_ite (quiet_pure _).balanced ?_
  refine balanced_holder true fun _ => ?_
  refine (quiet_setGenLock true).bind_releasing fun _ => ?_
  refine quiet_get.bind_releasing fun locked => ?_
  -- every way out but the first error gives the barrier back by hand
  refine releasing_ite (releasing_throw _) (releasing_ite ?_ ?_)
  · exact releasing_releasePB.bind_quiet fun _ => quiet_setGenLock false
  · exact releasing_switchGen me gen donors _

theorem releasing_finishRecovery
    (gen : MtmGeneration n) (donors : NodeMask n) (isRecovery : Bool) :
    Releasing env start (finishRecovery env gen donors isRecovery) := by
  refine releasing_ite ?_ (releasing_release_unlock true)
  refine (quiet_getOnline gen donors).bind_releasing fun _ => ?_
  refine (quiet_call _).bind_releasing fun _ => ?_
  exact releasing_release_unlock false

theorem balanced_mtmHandleParallelSafe
    (me : Fin n) (gen : MtmGeneration n) (donors : NodeMask n)
    (isRecovery : Bool) :
    Balanced env start (mtmHandleParallelSafe env me gen donors isRecovery) := by
  refine (quiet_assign _).balanced.bind fun _ =>
    (quiet_call _).balanced.bind fun _ => ?_
  refine (balanced_mtmConsiderGenSwitch me gen donors).bind fun _ => ?_
  refine quiet_turn.balanced.bind fun _ =>
    quiet_get.balanced.bind fun unlocked => ?_
  refine balanced_ite (quiet_pure _).balanced ?_
  refine (quiet_setGenLock true).balanced.bind fun _ =>
    balanced_holder true fun _ => ?_
  refine quiet_get.bind_releasing fun locked => ?_
  refine releasing_ite (releasing_release_unlock false) ?_
  refine (quiet_currentStatusInGen me).bind_releasing fun status => ?_
  exact releasing_ite (releasing_release_unlock false)
    (releasing_finishRecovery gen donors isRecovery)

theorem balanced_mtmStateStartup (me : Fin n) :
    Balanced env start (mtmStateStartup env me) := by
  refine balanced_holder true fun _ =>
    (quiet_setGenLock true).bind_releasing fun _ => ?_
  refine (quiet_call _).bind_releasing fun _ =>
    (quiet_assign _).bind_releasing fun _ => ?_
  refine (quiet_call _).bind_releasing fun _ => ?_
  refine (quiet_currentStatusInGen me).bind_releasing fun _ => ?_
  refine quiet_get.bind_releasing fun loaded =>
    (quiet_assign _).bind_releasing fun _ => ?_
  refine Quiet.bind_releasing ?_ fun _ => releasing_unlock_release
  refine quiet_ite ?_ (quiet_pure _)
  refine (quiet_logParallelSafe _ _).bind fun _ =>
    (quiet_assign _).bind fun _ => ?_
  exact quiet_mtmStateSave

/-! ## Commits -/

theorem quiet_abortOrphan : Quiet env start (abortOrphan env) := by
  intro mode
  refine (quiet_calls _ mode).protect (fun _ _ => ?_) (fun _ _ _ inMode => inMode)
  exact ((quiet_call _).bind fun _ => quiet_setGtx none) mode

/-- The cleanup releases the barrier before anything in it can raise an error. -/
theorem ensures_mtmCommitCleanup :
    Routine.Ensures (Accounted env start) (mtmCommitCleanup env)
      (fun _ => InMode env start none) (fun _ => InMode env start none) := by
  have released : Routine.Ensures (Accounted env start) releasePB
      (fun _ => InMode env start none) (fun _ => InMode env start none) := by
    refine Routine.ensures_modify ?_
    rintro world ⟨mode, inMode⟩
    exact inMode.release
  refine released.bind fun _ => ?_
  refine Quiet.bind (quiet_call _) (fun _ => quiet_get.bind fun world => ?_) none
  split
  · exact quiet_pure _
  · next gtx _ =>
    refine Quiet.bind ?_ fun _ => (quiet_call _).bind fun _ => quiet_setGtx none
    exact quiet_ite (quiet_ite quiet_abortOrphan (quiet_call _)) (quiet_pure _)

theorem quiet_requireOnline (me : Fin n) :
    Quiet env start (requireOnline env me) := by
  refine (quiet_currentStatusInGen me).bind fun status => ?_
  refine quiet_ite (quiet_pure _) ((quiet_calls _).bind fun _ => ?_)
  refine (quiet_ask _).bind fun _ => ?_
  exact quiet_ite (quiet_throw _) (quiet_throw _)

theorem quiet_collectPrepareAcks : Quiet env start (collectPrepareAcks env) := by
  refine (quiet_call _).bind fun _ => (quiet_ask _).bind fun _ => ?_
  refine (quiet_ask _).bind fun _ => (quiet_ask _).bind fun _ => ?_
  exact quiet_ite (quiet_pure _) (quiet_throw _)

theorem quiet_collectPrecommits : Quiet env start (collectPrecommits env) :=
  (quiet_calls _).bind fun _ => (quiet_ask _).bind fun _ =>
    quiet_ite (quiet_pure _) (quiet_throw _)

theorem balanced_prepareLocally (me : Fin n) :
    Balanced env start (prepareLocally env me) := by
  refine balanced_preparer true fun _ =>
    (quiet_requireOnline me).bind_releasing fun _ => ?_
  refine quiet_get.bind_releasing fun world =>
    (quiet_calls _).bind_releasing fun _ => ?_
  refine (quiet_setGtx _).bind_releasing fun _ =>
    (quiet_call _).bind_releasing fun _ => ?_
  refine (quiet_ask _).bind_releasing fun prepared => ?_
  refine releasing_ite ?_ (releasing_throw _)
  refine (quiet_calls _).bind_releasing fun _ =>
    (quiet_setGtx _).bind_releasing fun _ => ?_
  exact releasing_releasePB.bind_quiet fun _ => quiet_pure _

theorem quiet_commitEverywhere (xactGen : MtmGeneration n) :
    Quiet env start (commitEverywhere env xactGen) := by
  refine (quiet_call _).bind fun _ => quiet_collectPrepareAcks.bind fun _ => ?_
  refine (quiet_call _).bind fun _ => (quiet_setGtx _).bind fun _ => ?_
  refine (quiet_call _).bind fun _ => Quiet.bind ?_ fun _ => ?_
  · exact quiet_ite (quiet_pure _) quiet_collectPrecommits
  refine (quiet_calls _).bind fun _ => (quiet_setGtx none).bind fun _ => ?_
  refine (quiet_ask _).bind fun _ => Quiet.bind ?_ fun _ => quiet_calls _
  exact quiet_ite (quiet_calls _) (quiet_pure _)

/-- A body under `PG_TRY` with the cleanup in its handler. -/
theorem clean_protect {body : Code n Value} (balanced : Balanced env start body) :
    Clean env start
      (Routine.protect Stop.isError body (mtmCommitCleanup env)) := by
  refine Routine.Ensures.protect balanced (fun stop _ => ?_)
    (fun stop world passed held => ?_)
  · exact ensures_mtmCommitCleanup.weaken
      (fun _ _ free => ⟨free.accounted, fun _ => free⟩)
      (fun _ _ free => ⟨free.accounted, fun _ => free⟩)
  · refine ⟨held, ?_⟩
    rintro rfl
    cases passed

theorem clean_mtmTwoPhaseCommit (me : Fin n) :
    Clean env start (mtmTwoPhaseCommit env me) := by
  refine (quiet_ask _).clean.bind fun _ => (quiet_ask _).clean.bind fun _ => ?_
  refine (quiet_ask _).clean.bind fun _ => ?_
  refine Routine.ensures_ite (fun _ => (quiet_pure _).clean) (fun _ => ?_)
  refine (quiet_ask _).clean.bind fun _ => Clean.bind (Quiet.clean ?_) fun _ => ?_
  · exact quiet_ite (quiet_pure _) (quiet_calls _)
  refine (quiet_setGtx none).clean.bind fun _ =>
    Clean.bind (clean_protect ?_) fun _ => ?_
  · exact (balanced_prepareLocally me).bind fun xactGen =>
      (quiet_commitEverywhere xactGen).balanced
  · exact ((quiet_call _).bind fun _ => quiet_pure _).clean

theorem balanced_explicitPrepareBody (me : Fin n) :
    Balanced env start (explicitPrepareBody env me) := by
  refine balanced_preparer true fun _ =>
    (quiet_requireOnline me).bind_releasing fun _ => ?_
  refine (quiet_calls _).bind_releasing fun _ =>
    (quiet_ask _).bind_releasing fun inUse => ?_
  refine (quiet_setGtx _).bind_releasing fun _ => releasing_ite ?_ ?_
  · refine (quiet_call _).bind_releasing fun _ =>
      (quiet_setGtx none).bind_releasing fun _ => ?_
    exact (quiet_call _).bind_releasing fun _ => releasing_throw _
  refine (quiet_calls _).bind_releasing fun _ =>
    (quiet_ask _).bind_releasing fun prepared => ?_
  refine releasing_ite ?_ ?_
  · refine (quiet_call _).bind_releasing fun _ =>
      (quiet_setGtx _).bind_releasing fun _ => ?_
    refine releasing_releasePB.bind_quiet fun _ =>
      (quiet_calls _).bind fun _ => ?_
    refine quiet_collectPrepareAcks.bind fun _ => (quiet_call _).bind fun _ => ?_
    exact (quiet_setGtx none).bind fun _ =>
      (quiet_calls _).bind fun _ => quiet_pure _
  · have cleaned : Releasing env start (mtmCommitCleanup env) :=
      ensures_mtmCommitCleanup.weaken (fun _ _ free => free)
        (fun _ _ => InMode.accounted)
    exact cleaned.bind_quiet fun _ => quiet_pure _

theorem clean_mtmExplicitPrepare (me : Fin n) (explicitGid : Bool) :
    Clean env start (mtmExplicitPrepare env me explicitGid) := by
  refine (quiet_ask _).clean.bind fun aborted => ?_
  refine Routine.ensures_ite (fun _ => ?_) fun _ =>
    Routine.ensures_ite (fun _ => ?_) (fun _ => ?_)
  · exact ((quiet_call _).bind fun _ => quiet_pure _).clean
  · exact (quiet_setGtx none).clean.bind fun _ =>
      clean_protect (balanced_explicitPrepareBody me)
  · exact ((quiet_call _).bind fun _ => quiet_throw _).clean

/-! ## The referee winner -/

theorem quiet_finishOrphans (count : ℕ) :
    Quiet env start (finishOrphans env count) := by
  induction count with
  | zero => exact quiet_pure _
  | succ rest inductionHypothesis =>
      refine (quiet_call _).bind fun _ => (quiet_ask _).bind fun found => ?_
      refine Quiet.bind ?_ fun _ => inductionHypothesis
      exact quiet_ite (quiet_calls _) (quiet_pure _)

theorem balanced_resolveForRefereeWinner (me : Fin n) :
    Balanced env start (resolveForRefereeWinner env me) := by
  refine balanced_preparer true fun _ => quiet_get.bind_releasing fun world => ?_
  refine releasing_ite ?_ releasing_releasePB
  refine (quiet_currentStatusInGen me).bind_releasing fun status => ?_
  refine releasing_ite ?_ releasing_releasePB
  refine (quiet_calls _).bind_releasing fun _ => ?_
  exact (quiet_finishOrphans _).bind_releasing fun _ => releasing_releasePB

/-! ## The callers -/

/-- What a stopped function leaves to the handler of its caller.  A backend
outside of the reading of a message goes on after an `ERROR`, so it gets no
hold. -/
def Left (env : Env n) (start : Counters) (handler : Handler)
    (stop : Stop) (world : World n) : Prop :=
  Accounted env start world ∧
    (stop = .error → handler = .backend false → InMode env start none world)

theorem Balanced.left
    {code : Code n Value} (balanced : Balanced env start code)
    {handler : Handler} (elsewhere : handler ≠ .backend false) :
    Routine.Ensures (InMode env start none) code (fun _ => InMode env start none)
      (Left env start handler) :=
  Routine.Ensures.weaken balanced (fun _ _ free => free)
    (fun _ _ held => ⟨held, fun _ there => absurd there elsewhere⟩)

theorem Clean.left
    {code : Code n Value} (clean : Clean env start code) (handler : Handler) :
    Routine.Ensures (InMode env start none) code (fun _ => InMode env start none)
      (Left env start handler) :=
  Routine.Ensures.weaken clean (fun _ _ free => free)
    (fun _ _ stopped => ⟨stopped.1, fun isError _ => stopped.2 isError⟩)

theorem ensures_code (me : Fin n) (site : CallSite n) :
    Routine.Ensures (InMode env start none) (site.code env me)
      (fun _ => InMode env start none) (Left env start site.handler) := by
  cases site with
  | heartbeat gen donors =>
      exact (balanced_mtmConsiderGenSwitch me gen donors).left
        (by simp [CallSite.handler])
  | campaign gen donors =>
      exact (balanced_mtmConsiderGenSwitch me gen donors).left
        (by simp [CallSite.handler])
  | parallelSafe gen donors isRecovery =>
      refine Balanced.left ?_ (by simp [CallSite.handler])
      exact (balanced_mtmHandleParallelSafe me gen donors isRecovery).bind
        fun _ =>
        (quiet_pure _).balanced
  | startup =>
      exact (balanced_mtmStateStartup me).left (by simp [CallSite.handler])
  | commit =>
      refine Clean.left ?_ _
      exact (clean_mtmTwoPhaseCommit me).bind fun _ => (quiet_pure _).clean
  | prepare explicitGid =>
      refine Clean.left ?_ _
      exact (clean_mtmExplicitPrepare me explicitGid).bind fun _ =>
        (quiet_pure _).clean
  | refereeWinner =>
      exact (balanced_resolveForRefereeWinner me).left
        (by simp [CallSite.handler])

/-- The exit hook gives back what is held. -/
theorem Accounted.procExit {world : World n}
    (accounted : Accounted env start world) :
    InMode env start none world.procExit := by
  obtain ⟨mode, inMode⟩ := accounted
  unfold World.procExit
  split
  · exact inMode.release
  · next unhooked =>
    have isNone : mode = none := by
      by_contra held
      exact unhooked (inMode.hooked held)
    rw [← isNone]
    exact inMode

/-- The executor goes on only after it has released the barrier. -/
theorem ensures_executorHandler (isRecovery : Bool) :
    Routine.Ensures (Accounted env start) (executorHandler env isRecovery)
      (fun dies world => Accounted env start world ∧
        (dies = false → InMode env start none world))
      (fun _ => Accounted env start) := by
  refine (quiet_calls _).accounted.bind fun _ =>
    (quiet_ask _).accounted.bind fun _ => ?_
  refine (quiet_ask _).accounted.bind fun _ =>
    (quiet_ask _).accounted.bind fun _ => ?_
  refine Routine.ensures_ite (fun _ => ?_) (fun _ => ?_)
  · refine Routine.ensures_pure fun _ accounted => ⟨accounted, ?_⟩
    intro goesOn
    cases goesOn
  · have goesOn : Releasing env start
        (do releasePB
            calls env [.globalTxRelease, .endSession, .sendPrepareReply,
              .abortCurrentTransaction]
            pure false : Code n Bool) :=
      releasing_releasePB.bind_quiet fun _ =>
        (quiet_calls _).bind fun _ => quiet_pure _
    exact goesOn.weaken (fun _ _ free => ⟨free.accounted, fun _ => free⟩)
      (fun _ _ accounted => accounted)

/-- What a handler makes of an `ERROR`: unless the server panics, the process
holds nothing any more. -/
theorem Handler.inMode_run
    {loops : MainLoops} (documented : loops.Documented) (handler : Handler)
    {world : World n} (accounted : Accounted env start world)
    (free : handler = .backend false → InMode env start none world)
    (noCrash : (handler.run loops env world).1 ≠ .crashed) :
    InMode env start none (handler.run loops env world).2 := by
  cases handler with
  | backend readingMsg =>
      rw [Handler.run]
      split
      · exact accounted.procExit
      · next goesOn =>
        cases readingMsg with
        | false => exact free rfl
        | true => exact absurd documented.lostSync goesOn
  | worker =>
      rw [Handler.run, if_pos documented.worker]
      exact accounted.procExit
  | executor isRecovery =>
      have handled := ensures_executorHandler isRecovery world accounted
      revert handled noCrash
      rw [Handler.run]
      rcases Routine.exec (executorHandler env isRecovery) world with
        ⟨stop | dies, last⟩ <;> intro noCrash handled
      · cases stop with
        | error =>
            simp only [if_pos documented.worker]
            exact handled.procExit
        | fatal => exact handled.procExit
        | panic => exact absurd rfl noCrash
        | waiting => exact handled.procExit
      · cases dies with
        | true => exact handled.1.procExit
        | false => exact handled.2 rfl

/-- Whenever a call comes to an end, the process holds nothing any more. -/
theorem CallSite.inMode_run
    {loops : MainLoops} (documented : loops.Documented) (me : Fin n)
    (site : CallSite n)
    {world : World n} (free : InMode env start none world)
    (noCrash : (site.run loops env me world).1 ≠ .crashed)
    (noWait : (site.run loops env me world).1 ≠ .waiting) :
    InMode env start none (site.run loops env me world).2 := by
  have outcome := ensures_code me site world free
  revert outcome noCrash noWait
  rw [CallSite.run]
  rcases Routine.exec (site.code env me) world with ⟨stop | value, last⟩ <;>
    intro noCrash noWait outcome
  · cases stop with
    | error =>
        exact site.handler.inMode_run documented outcome.1 (outcome.2 rfl) noCrash
    | fatal => exact outcome.1.procExit
    | panic => exact absurd rfl noCrash
    | waiting => exact absurd rfl noWait
  · exact outcome

end Functions

/-- A process that calls one of the functions without a hold has none when
control is back in its caller, whether the function returned or an `ERROR` was
caught, and the counters are as before the call but for what the others have done
to them. -/
theorem barrier_released_on_exit
    (loops : MainLoops) (documented : loops.Documented)
    (env : Env n) (me : Fin n) (site : CallSite n)
    (start : World n) (free : start.acquired = none) (begins : start.clock = 0)
    (goesOn : (site.run loops env me start).1 = .returned ∨
      (site.run loops env me start).1 = .resumed) :
    (site.run loops env me start).2.acquired = none ∧
      ∀ mode, (site.run loops env me start).2.counters.of mode =
        start.counters.of mode +
          env.foreign (site.run loops env me start).2.clock mode := by
  have atStart : InMode env start.counters none start :=
    { acquired := free
      counted := fun counter => by simp [Env.foreign, begins]
      hooked := fun held => absurd rfl held }
  have atExit := site.inMode_run documented me atStart
    (by rcases goesOn with exit | exit <;> simp [exit])
    (by rcases goesOn with exit | exit <;> simp [exit])
  refine ⟨atExit.acquired, ?_⟩
  intro mode
  have counted := atExit.counted mode
  rwa [share_none, add_zero] at counted

/-- The main loops as they are. -/
def serverLoops : MainLoops where
  backendEnds readingMsg := readingMsg
  workerEnds := true

/-- Nothing fails, the others do nothing, and every question but those in the
list is answered with yes. -/
def calmEnv (no : List Question) : Env n where
  errors _ _ := none
  panics _ := false
  answers _ question := question ∉ no
  others _ _ := 0
  otherStorage _ storage := storage
  patience := 1
  nGids := 0

/-- A process of a server that has just been started. -/
def freshWorld (n : ℕ) : World n where
  acquired := none
  hookRegistered := false
  counters := .zero
  genLocked := false
  storage := (Node.initialNode n).storage
  gtx := none
  clock := 0

/-- A commit before the generation state is loaded: the status check raises an
`ERROR` inside the barrier, which the cleanup gives back. -/
theorem barrier_released_on_exit_commit :
    (CallSite.commit.run serverLoops (calmEnv [.mtmNo3PC]) (0 : Fin 3)
        (freshWorld 3)).1 = .resumed ∧
      (CallSite.commit.run serverLoops (calmEnv [.mtmNo3PC]) (0 : Fin 3)
        (freshWorld 3)).2.acquired = none :=
  ⟨by decide,
    (barrier_released_on_exit serverLoops ⟨rfl, rfl⟩
      (calmEnv [.mtmNo3PC]) 0 .commit
      (freshWorld 3) rfl rfl (.inr (by decide))).1⟩

/-- If the main loop of the receiver went on, the hold of a heartbeat before the
state is loaded would stay. -/
example :
    ((CallSite.heartbeat (initialGen 3) Finset.univ).run
      { serverLoops with backendEnds := fun _ => false } (calmEnv []) 0
      (freshWorld 3)).2.acquired = some .fullHolder := by
  decide

end Barrier
end Multimaster
