import Multimaster.Barrier.Routines

/-!
# The mode of a process

Whatever a function does, the counters are those at its call but for its own
registration and for what the others have added.  What is left to follow is the
mode of the process. Code that does not touch the barrier keeps any mode; code
that ends with a release leaves none from any mode.
-/

namespace Multimaster
namespace Barrier

open Generation

theorem Counters.of_shift (counters : Counters) (amount : Mode → ℤ)
    (mode : Mode) :
    (counters.shift amount).of mode = counters.of mode + amount mode := by
  cases mode <;> rfl

/-- The process is in the mode, the counters are those at the call but for its
own registration and what the others have added, and a registration is covered by
the exit hook. -/
structure InMode
    (env : Env n) (start : Counters) (mode : Option Mode)
    (world : World n) : Prop where
  acquired : world.acquired = mode
  counted : ∀ counter, world.counters.of counter =
    start.of counter + share mode counter + env.foreign world.clock counter
  hooked : mode ≠ none → world.hookRegistered = true

/-- The counters are accounted for, whatever the mode. -/
def Accounted (env : Env n) (start : Counters) (world : World n) : Prop :=
  ∃ mode, InMode env start mode world

section Steps

variable {env : Env n} {start : Counters} {mode : Option Mode} {world : World n}

theorem InMode.accounted (inMode : InMode env start mode world) :
    Accounted env start world :=
  ⟨mode, inMode⟩

/-- The mode does not depend on the rest of the state. -/
theorem InMode.congr
    {other : World n} (inMode : InMode env start mode world)
    (acquired : other.acquired = world.acquired)
    (counters : other.counters = world.counters)
    (clock : other.clock = world.clock)
    (hook : other.hookRegistered = world.hookRegistered) :
    InMode env start mode other where
  acquired := acquired.trans inMode.acquired
  counted counter := by
    rw [counters, clock]
    exact inMode.counted counter
  hooked registered := hook.trans (inMode.hooked registered)

theorem InMode.tick (inMode : InMode env start mode world) :
    InMode env start mode (world.tick env) where
  acquired := inMode.acquired
  counted counter := by
    have before := inMode.counted counter
    simp only [World.tick, Counters.of_shift, Env.foreign, Finset.sum_range_succ]
    rw [before, Env.foreign]
    omega
  hooked := inMode.hooked

/-- `ReleasePB` takes back just the own registration. -/
theorem InMode.release (inMode : InMode env start mode world) :
    InMode env start none world.release where
  acquired := rfl
  counted counter := by
    have before := inMode.counted counter
    simp only [World.release, Counters.of_release, inMode.acquired, share_none]
    omega
  hooked registered := absurd rfl registered

theorem InMode.register
    (inMode : InMode env start none world) (hook : world.hookRegistered = true)
    (asked : Mode) :
    InMode env start (some asked) (world.register asked) where
  acquired := rfl
  counted counter := by
    have before := inMode.counted counter
    simp only [World.register, Counters.of_add]
    rw [share_none] at before
    omega
  hooked _ := hook

end Steps

/-! ## Code and the barrier -/

section Code

variable (env : Env n) (start : Counters) {Value Other : Type}

/-- The code leaves the barrier alone. -/
def Quiet (code : Code n Value) : Prop :=
  ∀ mode, Routine.Ensures (InMode env start mode) code
    (fun _ => InMode env start mode) (fun _ => InMode env start mode)

/-- The code returns with the barrier released, from whatever mode. -/
def Releasing (code : Code n Value) : Prop :=
  Routine.Ensures (Accounted env start) code
    (fun _ => InMode env start none) (fun _ => Accounted env start)

/-- The code takes no hold with it when it returns. -/
def Balanced (code : Code n Value) : Prop :=
  Routine.Ensures (InMode env start none) code
    (fun _ => InMode env start none) (fun _ => Accounted env start)

/-- Nor does it when it raises an `ERROR`. -/
def Clean (code : Code n Value) : Prop :=
  Routine.Ensures (InMode env start none) code
    (fun _ => InMode env start none)
    (fun stop world => Accounted env start world ∧
      (stop = .error → InMode env start none world))

variable {env start} {code : Code n Value} {rest : Value → Code n Other}

theorem quiet_pure (value : Value) : Quiet env start (pure value) :=
  fun _ => Routine.ensures_pure fun _ inMode => inMode

theorem quiet_throw (stop : Stop) : Quiet env start (throw stop : Code n Value) :=
  fun _ => Routine.ensures_throw fun _ inMode => inMode

theorem Quiet.bind
    (first : Quiet env start code)
    (then_ : ∀ value, Quiet env start (rest value)) :
    Quiet env start (code >>= rest) :=
  fun mode => (first mode).bind fun value => then_ value mode

theorem quiet_get : Quiet env start (get : Code n (World n)) :=
  fun _ _ inMode => inMode

theorem quiet_ite
    {condition : Prop} [Decidable condition] {yes no : Code n Value}
    (whenTrue : Quiet env start yes) (whenFalse : Quiet env start no) :
    Quiet env start (if condition then yes else no) :=
  fun mode =>
    Routine.ensures_ite (fun _ => whenTrue mode) (fun _ => whenFalse mode)

/-- A change of something else. -/
theorem quiet_modify
    {change : World n → World n}
    (acquired : ∀ world, (change world).acquired = world.acquired)
    (counters : ∀ world, (change world).counters = world.counters)
    (clock : ∀ world, (change world).clock = world.clock)
    (hook : ∀ world, (change world).hookRegistered = world.hookRegistered) :
    Quiet env start (modify change : Code n PUnit) :=
  fun _ => Routine.ensures_modify fun world inMode =>
    inMode.congr (acquired world) (counters world) (clock world) (hook world)

/-- A call keeps what the turns of the others keep. -/
theorem ensures_call
    {property : World n → Prop}
    (kept : ∀ world, property world → property (world.tick env)) (site : Site) :
    Routine.Ensures property (call env site) (fun _ => property)
      (fun _ => property) := by
  have others : Routine.Ensures property (turn env) (fun _ => property)
      (fun _ => property) :=
    Routine.ensures_modify kept
  refine others.bind fun _ => Routine.ensures_get_bind fun world _ => ?_
  split
  · exact Routine.ensures_throw fun _ holds => holds
  · exact Routine.ensures_pure fun _ holds => holds

theorem quiet_turn : Quiet env start (turn env) :=
  fun _ => Routine.ensures_modify fun _ inMode => inMode.tick

theorem quiet_ask (question : Question) : Quiet env start (ask env question) :=
  quiet_get.bind fun _ => quiet_pure _

theorem quiet_assign (statement : Node.Statement n) :
    Quiet env start (assign statement) :=
  quiet_modify (fun _ => rfl) (fun _ => rfl) (fun _ => rfl) (fun _ => rfl)

theorem quiet_setGenLock (held : Bool) :
    Quiet env start (setGenLock held : Code n Unit) :=
  quiet_modify (fun _ => rfl) (fun _ => rfl) (fun _ => rfl) (fun _ => rfl)

theorem quiet_setGtx (gtx : Option CommitGtx) :
    Quiet env start (setGtx gtx : Code n Unit) :=
  quiet_modify (fun _ => rfl) (fun _ => rfl) (fun _ => rfl) (fun _ => rfl)

theorem quiet_call (site : Site) : Quiet env start (call env site) :=
  fun _ => ensures_call (fun _ inMode => inMode.tick) site

theorem quiet_calls (sites : List Site) : Quiet env start (calls env sites) := by
  induction sites with
  | nil => exact quiet_pure _
  | cons site rest inductionHypothesis =>
      exact (quiet_call site).bind fun _ => inductionHypothesis

theorem quiet_critical : Quiet env start (critical env) :=
  quiet_turn.bind fun _ => quiet_get.bind fun _ =>
    quiet_ite (quiet_throw _) (quiet_pure _)

/-! ### Release -/

theorem Quiet.accounted (quiet : Quiet env start code) :
    Routine.Ensures (Accounted env start) code
      (fun _ => Accounted env start) (fun _ => Accounted env start) := by
  rintro world ⟨mode, inMode⟩
  exact (quiet mode).weaken (fun _ _ => InMode.accounted)
    (fun _ _ => InMode.accounted)
    world inMode

theorem Quiet.balanced (quiet : Quiet env start code) : Balanced env start code :=
  (quiet none).weaken (fun _ _ inMode => inMode) (fun _ _ => InMode.accounted)

theorem Quiet.clean (quiet : Quiet env start code) : Clean env start code :=
  (quiet none).weaken (fun _ _ inMode => inMode)
    (fun _ _ inMode => ⟨inMode.accounted, fun _ => inMode⟩)

theorem releasing_releasePB : Releasing env start releasePB := by
  refine Routine.ensures_modify ?_
  rintro world ⟨mode, inMode⟩
  exact inMode.release

theorem Quiet.bind_releasing
    (quiet : Quiet env start code)
    (then_ : ∀ value, Releasing env start (rest value)) :
    Releasing env start (code >>= rest) :=
  quiet.accounted.bind then_

theorem Releasing.bind_quiet
    (releasing : Releasing env start code)
    (then_ : ∀ value, Quiet env start (rest value)) :
    Releasing env start (code >>= rest) :=
  Routine.Ensures.bind releasing fun value => (then_ value).balanced

theorem releasing_throw (stop : Stop) :
    Releasing env start (throw stop : Code n Value) :=
  Routine.ensures_throw fun _ accounted => accounted

theorem releasing_ite
    {condition : Prop} [Decidable condition] {yes no : Code n Value}
    (whenTrue : Releasing env start yes) (whenFalse : Releasing env start no) :
    Releasing env start (if condition then yes else no) :=
  Routine.ensures_ite (fun _ => whenTrue) (fun _ => whenFalse)

theorem Balanced.bind
    (first : Balanced env start code)
    (then_ : ∀ value, Balanced env start (rest value)) :
    Balanced env start (code >>= rest) :=
  Routine.Ensures.bind first then_

theorem Clean.bind
    (first : Clean env start code)
    (then_ : ∀ value, Clean env start (rest value)) :
    Clean env start (code >>= rest) :=
  Routine.Ensures.bind first then_

theorem balanced_ite
    {condition : Prop} [Decidable condition] {yes no : Code n Value}
    (whenTrue : Balanced env start yes) (whenFalse : Balanced env start no) :
    Balanced env start (if condition then yes else no) :=
  Routine.ensures_ite (fun _ => whenTrue) (fun _ => whenFalse)

/-! ### Acquisition -/

/-- The process has no hold and its exit hook is registered. -/
def Hooked (env : Env n) (start : Counters) (world : World n) : Prop :=
  InMode env start none world ∧ world.hookRegistered = true

theorem ensures_registerHook :
    Routine.Ensures (InMode env start none) (registerHook env)
      (fun _ => Hooked env start) (fun _ => InMode env start none) := by
  intro world inMode
  rw [registerHook, Routine.exec_bind, Routine.exec_get]
  by_cases hook : world.hookRegistered = true
  · simp only [if_pos hook]
    exact ⟨inMode, hook⟩
  · simp only [if_neg hook]
    have registered : Routine.Ensures (InMode env start none)
        (do call env .beforeShmemExit
            modify fun world => { world with hookRegistered := true })
        (fun _ => Hooked env start) (fun _ => InMode env start none) :=
      (quiet_call .beforeShmemExit none).bind fun _ =>
        Routine.ensures_modify fun world free =>
          ⟨⟨free.acquired, free.counted, fun held => absurd rfl held⟩, rfl⟩
    exact registered world inMode

theorem ensures_awaitAdmission (backend : Bool) (patience : ℕ) :
    Routine.Ensures (Hooked env start) (awaitAdmission env backend patience)
      (fun _ => Accounted env start) (fun _ => InMode env start none) := by
  have tickHooked : ∀ world, Hooked env start world →
      Hooked env start (world.tick env) :=
    fun _ hooked => ⟨hooked.1.tick, hooked.2⟩
  induction patience with
  | zero => exact Routine.ensures_throw fun _ hooked => hooked.1
  | succ patience inductionHypothesis =>
      have others : Routine.Ensures (Hooked env start) (turn env)
          (fun _ => Hooked env start) (fun _ => InMode env start none) :=
        Routine.ensures_modify tickHooked
      refine others.bind fun _ => Routine.ensures_get_bind fun read _ => ?_
      refine Routine.ensures_ite (fun _ => ?_) (fun _ => ?_)
      · exact Routine.ensures_modify fun world hooked =>
          (hooked.1.register hooked.2 _).accounted
      · refine Routine.Ensures.bind ?_ fun _ => inductionHypothesis
        exact (ensures_call tickHooked _).weaken (fun _ _ hooked => hooked)
          (fun _ _ hooked => hooked.1)

theorem ensures_acquirePBByPreparer (backend : Bool) :
    Routine.Ensures (InMode env start none) (acquirePBByPreparer env backend)
      (fun _ => Accounted env start) (fun _ => InMode env start none) :=
  ensures_registerHook.bind fun _ => ensures_awaitAdmission backend env.patience

theorem ensures_awaitDrained (full : Bool) (patience : ℕ) :
    Routine.Ensures (Accounted env start) (awaitDrained env full patience)
      (fun _ => Accounted env start) (fun _ => Accounted env start) := by
  induction patience with
  | zero => exact Routine.ensures_throw fun _ accounted => accounted
  | succ patience inductionHypothesis =>
      refine quiet_turn.accounted.bind fun _ => ?_
      refine Routine.ensures_get_bind fun read _ => ?_
      refine Routine.ensures_ite (fun _ => ?_) (fun _ => ?_)
      · exact Routine.ensures_pure fun _ accounted => accounted
      · refine Routine.Ensures.bind ?_ fun _ => inductionHypothesis
        refine (quiet_call _).accounted.protect (fun _ _ => ?_)
          (fun _ _ _ held => held)
        exact releasing_releasePB.weaken (fun _ _ => InMode.accounted)
          (fun _ _ accounted => accounted)

theorem ensures_acquirePBByHolder (full : Bool) :
    Routine.Ensures (InMode env start none) (acquirePBByHolder env full)
      (fun _ => Accounted env start) (fun _ => Accounted env start) := by
  have registered : Routine.Ensures (InMode env start none) (registerHook env)
      (fun _ => Hooked env start) (fun _ => Accounted env start) :=
    ensures_registerHook.weaken (fun _ _ hooked => hooked)
      (fun _ _ => InMode.accounted)
  have others : Routine.Ensures (Hooked env start) (turn env)
      (fun _ => Hooked env start) (fun _ => Accounted env start) :=
    Routine.ensures_modify fun _ hooked => ⟨hooked.1.tick, hooked.2⟩
  refine registered.bind fun _ => others.bind fun _ => ?_
  refine Routine.Ensures.bind ?_ fun _ => ensures_awaitDrained full env.patience
  exact Routine.ensures_modify fun _ hooked =>
    (hooked.1.register hooked.2 _).accounted

/-- A hold that is given back at the end. -/
theorem balanced_holder
    (full : Bool) {rest : Unit → Code n Other}
    (then_ : ∀ value, Releasing env start (rest value)) :
    Balanced env start (acquirePBByHolder env full >>= rest) :=
  (ensures_acquirePBByHolder full).bind then_

theorem balanced_preparer
    (backend : Bool) {rest : Unit → Code n Other}
    (then_ : ∀ value, Releasing env start (rest value)) :
    Balanced env start (acquirePBByPreparer env backend >>= rest) :=
  Routine.Ensures.bind
    ((ensures_acquirePBByPreparer backend).weaken (fun _ _ accounted => accounted)
      (fun _ _ => InMode.accounted))
    then_

end Code

end Barrier
end Multimaster
