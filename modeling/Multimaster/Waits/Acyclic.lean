import Multimaster.Waits.Defs
import Mathlib.Logic.Relation
import Mathlib.Order.Basic

/-!
# The wait-for graph has no cycle

Every wait goes down in a fixed order of the points where a process can wait,
except for one: a process under the prepare barrier that waits for an entry
whose holder gathers.  The holder may be waiting for a generation switch, and
the switch for the process under the barrier.  Where gids prepared at the same
time are distinct this wait does not occur and the graph is acyclic; two
`PREPARE TRANSACTION` of one gid are enough for a cycle.
-/

namespace Multimaster
namespace Waits

variable {Gid : Type*} {Process : Type*}

theorem is_iff
    {state : State Gid Process} {process : Process}
    {property : Proc Gid → Bool} :
    state.Is process property ↔
      ∃ proc, state.proc process = some proc ∧ property proc = true := by
  simp [State.Is, Option.any_eq_true]

theorem claim_eq_some
    {state : State Gid Process} {process : Process} {gid : Gid} :
    state.claim process = some gid ↔
      ∃ proc, state.proc process = some proc ∧
        proc.claim state.current = some gid := by
  simp [State.claim, Option.bind_eq_some_iff]

/-! ## What a step can do to a process -/

/-- The moves of a process, with what their guards say about the others. -/
inductive Moves
    (state : State Gid Process) (action : Action Gid Process)
    (process : Process) : Proc Gid → Proc Gid → Prop
  | same (proc : Proc Gid) : Moves state action process proc proc
  | pass (job : Job Gid) (gen : ℕ)
      (unheld : ∀ other, ¬ state.Is other Proc.switching) :
      Moves state action process
        ⟨job, .admission, gen⟩ ⟨job, .barrier, state.current⟩
  | reach (job : Job Gid) (gid : Gid) (gen : ℕ)
      (mine : action = .reach process gid)
      (prepares : job.prepares = true) :
      Moves state action process ⟨job, .barrier, gen⟩ ⟨job, .acquire gid, gen⟩
  | lock (job : Job Gid) (gid : Gid) (gen : ℕ) :
      Moves state action process
        ⟨job, .acquire gid, gen⟩ ⟨job, .locked gid, gen⟩
  /-- The referee winner goes on to the next entry. -/
  | skip (job : Job Gid) (stage : Stage Gid) (gen : ℕ)
      (inside : Proc.underBarrier ⟨job, stage, gen⟩ = true) :
      Moves state action process ⟨job, stage, gen⟩ ⟨job, .barrier, gen⟩
  | gather (job : Job Gid) (gid : Gid) (gen : ℕ)
      (coordinates : job.coordinates = true) :
      Moves state action process
        ⟨job, .locked gid, gen⟩ ⟨job, .gather gid false, gen⟩
  | unlock (job : Job Gid) (gid : Gid) (gen : ℕ) :
      Moves state action process
        ⟨job, .locked gid, gen⟩ ⟨job, .unlocking gid, gen⟩
  | leave (job : Job Gid) (gid : Gid) (left : Bool) (gen : ℕ) :
      Moves state action process
        ⟨job, .gather gid left, gen⟩ ⟨job, .gather gid true, gen⟩
  | free (job : Job Gid) (stage : Stage Gid) (left : Bool) (gen later : ℕ)
      (bounded : later = gen ∨ later = state.current) :
      Moves state action process
        ⟨job, stage, gen⟩ ⟨job, .gatherFree left, later⟩
  | drain (job : Job Gid) (gen : ℕ)
      (drained : ∀ other, ¬ state.Is other Proc.underBarrier) :
      Moves state action process
        ⟨job, .registered, gen⟩ ⟨job, .holding, gen⟩

/-- A process under the barrier was there before, or nobody is switching. -/
theorem Moves.underBarrier
    {state : State Gid Process} {action : Action Gid Process}
    {process : Process} {proc next : Proc Gid}
    (moves : Moves state action process proc next)
    (inside : next.underBarrier = true) :
    proc.underBarrier = true ∨ ∀ other, ¬ state.Is other Proc.switching := by
  cases moves with
  | same => exact Or.inl inside
  | pass job gen unheld => exact Or.inr unheld
  | reach job gid gen mine prepares =>
      exact Or.inl (by simp [Proc.underBarrier, prepares])
  | lock job gid gen => exact Or.inl inside
  | skip job stage gen before => exact Or.inl before
  | gather | unlock | leave | free | drain =>
      simp [Proc.underBarrier] at inside

/-- A process past `AcquirePBByHolder` was there before, or nobody prepares. -/
theorem Moves.holding
    {state : State Gid Process} {action : Action Gid Process}
    {process : Process} {proc next : Proc Gid}
    (moves : Moves state action process proc next)
    (holds : next.stage = .holding) :
    proc.stage = .holding ∨
      (proc.stage = .registered ∧
        ∀ other, ¬ state.Is other Proc.underBarrier) := by
  cases moves with
  | same => exact Or.inl holds
  | drain job gen drained => exact Or.inr ⟨rfl, drained⟩
  | _ => cases holds

theorem start_not_underBarrier (job : Job Gid) (gen : ℕ) :
    Proc.underBarrier ⟨job, job.start, gen⟩ = false := by
  cases job <;> rfl

theorem start_not_holding (job : Job Gid) : job.start ≠ .holding := by
  cases job <;> simp [Job.start]

theorem start_claim (job : Job Gid) (gen current : ℕ) :
    Proc.claim current ⟨job, job.start, gen⟩ = none := by
  cases job <;> rfl

/-- A gid that a process prepares after a move it prepared before, or it has
just asked for the entry. -/
theorem Moves.claim
    {state : State Gid Process} {action : Action Gid Process}
    {process : Process} {proc next : Proc Gid}
    (moves : Moves state action process proc next)
    {current : ℕ} {gid : Gid}
    (claims : next.claim current = some gid) :
    (proc.claim current = some gid ∨ action = .reach process gid) ∧
      next.job = proc.job := by
  cases moves with
  | same => exact ⟨Or.inl claims, rfl⟩
  | reach job asked gen mine prepares =>
      simp only [Proc.claim, prepares, if_true, Option.some.injEq] at claims
      subst claims
      exact ⟨Or.inr mine, rfl⟩
  | lock job wanted gen =>
      refine ⟨Or.inl ?_, rfl⟩
      cases job <;> simp_all [Proc.claim, Job.coordinates, Job.prepares]
  | gather => exact ⟨Or.inl claims, rfl⟩
  | leave => exact ⟨Or.inl claims, rfl⟩
  | _ => cases claims

variable [DecidableEq Gid] [DecidableEq Process]

theorem effect_proc_ne
    (state : State Gid Process) (action : Action Gid Process)
    {other : Process}
    (different : other ≠ action.process) :
    (effect state action).proc other = state.proc other := by
  cases action with
  | switch process num peers => rfl
  | _ => exact Function.update_of_ne different _ _

omit [DecidableEq Process] in
/-- A process that goes on from where it was makes one of the moves. -/
theorem moves_of_nextProc
    {state : State Gid Process} {action : Action Gid Process}
    (enabled : Enabled state action)
    {proc next : Proc Gid}
    (isProc : state.proc action.process = some proc)
    (steps : nextProc state.current proc action = some next) :
    Moves state action action.process proc next := by
  obtain ⟨job, stage, gen⟩ := proc
  cases action with
  | start process other =>
      cases steps
      exact .same _
  | pass process =>
      obtain ⟨atStage, unheld⟩ := enabled
      obtain ⟨proc, isThis, admission⟩ := is_iff.mp atStage
      cases isProc.symm.trans isThis
      cases of_decide_eq_true admission
      cases steps
      exact .pass job gen unheld
  | reach process gid =>
      obtain ⟨proc, isThis, atBarrier⟩ := is_iff.mp enabled
      cases isProc.symm.trans isThis
      rw [Bool.and_eq_true, decide_eq_true_eq] at atBarrier
      obtain ⟨isBarrier, reaches⟩ := atBarrier
      cases isBarrier
      cases steps
      refine .reach job gid gen rfl ?_
      cases job <;> first | rfl | cases reaches
  | lock process =>
      cases stage with
      | acquire gid =>
          cases steps
          exact .lock job gid gen
      | _ =>
          cases steps
          exact .same _
  | missing process =>
      obtain ⟨proc, isThis, wants⟩ := is_iff.mp enabled
      cases isProc.symm.trans isThis
      simp only [nextProc] at steps
      split at steps
      · next isWinner =>
          cases isWinner
          cases steps
          cases stage with
          | acquire gid => exact .skip _ _ _ rfl
          | _ => cases wants
      · cases steps
  | prepared process =>
      cases stage with
      | locked gid =>
          cases steps
          cases coordinates : job.coordinates with
          | true => exact .gather job gid gen coordinates
          | false => exact .unlock job gid gen
      | _ =>
          cases steps
          exact .same _
  | peerLeaves process =>
      cases stage with
      | gather gid left =>
          cases steps
          exact .leave job gid left gen
      | gatherFree left =>
          cases steps
          exact .free job _ true gen gen (Or.inl rfl)
      | _ =>
          cases steps
          exact .same _
  | release process =>
      cases job with
      | twoPhaseCommit gid =>
          cases steps
          exact .free _ stage false gen gen (Or.inl rfl)
      | explicitFinishPrepared gid =>
          cases steps
          exact .free _ stage false gen _ (Or.inr rfl)
      | resolveForRefereeWinner =>
          cases stage with
          | locked gid =>
              cases steps
              exact .skip _ _ _ rfl
          | _ => cases steps
      | _ => cases steps
  | drain process =>
      obtain ⟨atStage, drained⟩ := enabled
      obtain ⟨proc, isThis, registered⟩ := is_iff.mp atStage
      cases isProc.symm.trans isThis
      cases of_decide_eq_true registered
      cases steps
      exact .drain job gen drained
  | switch process num peers =>
      cases steps
      exact .same _
  | done process => cases steps
  | throw process => cases steps

/-- Where a process is after a step. -/
theorem moves_of_effect
    {state : State Gid Process} {action : Action Gid Process}
    (enabled : Enabled state action)
    {process : Process} {next : Proc Gid}
    (isNext : (effect state action).proc process = some next) :
    (∃ job : Job Gid, next = ⟨job, job.start, state.current⟩) ∨
      ∃ proc, state.proc process = some proc ∧
        Moves state action process proc next := by
  by_cases mine : process = action.process
  · subst mine
    cases action with
    | start process job =>
        left
        refine ⟨job, ?_⟩
        simpa [effect, Action.process, eq_comm] using isNext
    | switch process num peers => exact Or.inr ⟨next, isNext, .same _⟩
    | _ =>
        right
        simp only [effect, Action.process, Function.update_self] at isNext
        obtain ⟨proc, isProc, steps⟩ := Option.bind_eq_some_iff.mp isNext
        exact ⟨proc, isProc, moves_of_nextProc enabled isProc steps⟩
  · rw [effect_proc_ne state action mine] at isNext
    exact Or.inr ⟨next, isNext, .same _⟩

theorem effect_generation
    (state : State Gid Process) (action : Action Gid Process) :
    (∃ process num peers, action = .switch process num peers) ∨
      ((effect state action).current = state.current ∧
        (effect state action).peers = state.peers) := by
  cases action with
  | switch process num peers => exact Or.inl ⟨process, num, peers, rfl⟩
  | _ => exact Or.inr ⟨rfl, rfl⟩

/-! ## The invariant -/

/-- What holds in every reachable state. -/
structure Invariant (state : State Gid Process) : Prop where
  /-- Past `AcquirePBByHolder` nobody prepares. -/
  exclusive : ∀ holder preparer,
    (state.Is holder fun proc => proc.stage = .holding) →
      ¬ state.Is preparer Proc.underBarrier
  /-- Nobody gathers in a generation ahead of the node. -/
  gen_le : ∀ process proc,
    state.proc process = some proc → proc.gen ≤ state.current
  /-- Only coordinators gather with an entry. -/
  gathers : ∀ process proc gid left,
    state.proc process = some proc → proc.stage = .gather gid left →
      proc.job.coordinates = true
  /-- Two processes preparing one gid are no coordinators. -/
  distinct : state.peers = true → ∀ first second gid, first ≠ second →
    state.claim first = some gid → state.claim second = some gid →
      ¬ state.Is first fun proc => proc.job.coordinates

/-- The barrier keeps preparers and a switching process apart. -/
theorem effect_exclusive
    {state : State Gid Process} {action : Action Gid Process}
    (invariant : Invariant state)
    (enabled : Enabled state action)
    (holder preparer : Process)
    (holds : (effect state action).Is holder
      fun proc => proc.stage = .holding) :
    ¬ (effect state action).Is preparer Proc.underBarrier := by
  intro prepares
  obtain ⟨next, isNext, holding⟩ := is_iff.mp holds
  obtain ⟨inner, isInner, inside⟩ := is_iff.mp prepares
  have holding := of_decide_eq_true holding
  obtain ⟨job, rfl⟩ | ⟨proc, isProc, moves⟩ := moves_of_effect enabled isNext
  · exact start_not_holding job holding
  obtain ⟨job, rfl⟩ | ⟨outer, isOuter, enters⟩ :=
    moves_of_effect enabled isInner
  · simp [start_not_underBarrier] at inside
  -- The holder was at the barrier before the step, so nobody enters in it.
  have before : proc.stage = .holding ∨
      (proc.stage = .registered ∧
        ∀ other, ¬ state.Is other Proc.underBarrier) := moves.holding holding
  have switching : state.Is holder Proc.switching := by
    refine is_iff.mpr ⟨proc, isProc, ?_⟩
    rcases before with held | ⟨registered, _⟩
    · simp [Proc.switching, held]
    · simp [Proc.switching, registered]
  have wasInside : state.Is preparer Proc.underBarrier := by
    rcases enters.underBarrier inside with within | unheld
    · exact is_iff.mpr ⟨outer, isOuter, within⟩
    · exact absurd switching (unheld holder)
  rcases before with held | ⟨_, drained⟩
  · exact invariant.exclusive holder preparer
      (is_iff.mpr ⟨proc, isProc, decide_eq_true held⟩) wasInside
  · exact drained preparer wasInside

theorem effect_current_le
    {state : State Gid Process} {action : Action Gid Process}
    (enabled : Enabled state action) :
    state.current ≤ (effect state action).current := by
  rcases effect_generation state action with
    ⟨process, num, peers, rfl⟩ | ⟨same, _⟩
  · exact le_of_lt enabled.2
  · exact same.ge

theorem effect_gen_le
    {state : State Gid Process} {action : Action Gid Process}
    (invariant : Invariant state)
    (enabled : Enabled state action)
    (process : Process) (next : Proc Gid)
    (isNext : (effect state action).proc process = some next) :
    next.gen ≤ (effect state action).current := by
  refine le_trans ?_ (effect_current_le enabled)
  obtain ⟨job, rfl⟩ | ⟨proc, isProc, moves⟩ := moves_of_effect enabled isNext
  · exact le_rfl
  have before : proc.gen ≤ state.current := invariant.gen_le process proc isProc
  cases moves with
  | pass => exact le_rfl
  | free job stage left gen later bounded =>
      rcases bounded with rfl | rfl
      · exact before
      · exact le_rfl
  | _ => exact before

theorem effect_gathers
    {state : State Gid Process} {action : Action Gid Process}
    (invariant : Invariant state)
    (enabled : Enabled state action)
    (process : Process) (next : Proc Gid) (gid : Gid) (left : Bool)
    (isNext : (effect state action).proc process = some next)
    (gathers : next.stage = .gather gid left) :
    next.job.coordinates = true := by
  obtain ⟨job, rfl⟩ | ⟨proc, isProc, moves⟩ := moves_of_effect enabled isNext
  · cases job <;> cases gathers
  cases moves with
  | same => exact invariant.gathers process _ gid left isProc gathers
  | gather job gid gen coordinates => exact coordinates
  | leave job gid before gen =>
      exact invariant.gathers process ⟨job, .gather gid before, gen⟩ gid before
        isProc rfl
  | _ => cases gathers

/-- After a switch nobody prepares anything yet: the preparers are gone and the
coordinators still gather in earlier generations. -/
theorem effect_switch_claim
    {state : State Gid Process} {switcher : Process} {num : ℕ} {peers : Bool}
    (invariant : Invariant state)
    (enabled : Enabled state (.switch switcher num peers))
    (process : Process) :
    (effect state (.switch switcher num peers)).claim process = none := by
  obtain ⟨holds, later⟩ := enabled
  cases isClaim :
      (effect state (.switch switcher num peers)).claim process with
  | none => rfl
  | some gid =>
      exfalso
      obtain ⟨proc, isProc, claims⟩ := claim_eq_some.mp isClaim
      have isProc : state.proc process = some proc := isProc
      have claims : proc.claim num = some gid := claims
      have old : proc.gen ≠ num :=
        ne_of_lt (lt_of_le_of_lt (invariant.gen_le process proc isProc) later)
      obtain ⟨job, stage, gen⟩ := proc
      cases stage with
      | acquire wanted =>
          refine invariant.exclusive switcher process holds
            (is_iff.mpr ⟨_, isProc, ?_⟩)
          by_cases prepares : job.prepares = true
          · simp [Proc.underBarrier, prepares]
          · simp [Proc.claim, prepares] at claims
      | locked gid => simp [Proc.claim, old] at claims
      | gather gid left => simp [Proc.claim, old] at claims
      | _ => cases claims

/-- A gid that a process prepares after a step it prepared before, or it asks
for the entry in this step; and it runs the same job. -/
theorem effect_claim
    {state : State Gid Process} {action : Action Gid Process}
    (enabled : Enabled state action)
    (same : (effect state action).current = state.current)
    {process : Process} {gid : Gid}
    (claims : (effect state action).claim process = some gid) :
    (state.claim process = some gid ∨ action = .reach process gid) ∧
      (((effect state action).Is process fun proc => proc.job.coordinates) →
        state.Is process fun proc => proc.job.coordinates) := by
  obtain ⟨next, isNext, claims⟩ := claim_eq_some.mp claims
  rw [same] at claims
  obtain ⟨job, rfl⟩ | ⟨proc, isProc, moves⟩ := moves_of_effect enabled isNext
  · rw [start_claim] at claims
    cases claims
  obtain ⟨origin, sameJob⟩ := moves.claim claims
  refine ⟨origin.imp_left fun before =>
    claim_eq_some.mpr ⟨proc, isProc, before⟩, fun coordinates => ?_⟩
  obtain ⟨other, isOther, coordinates⟩ := is_iff.mp coordinates
  cases isNext.symm.trans isOther
  exact is_iff.mpr ⟨proc, isProc, by simpa [sameJob] using coordinates⟩

theorem effect_distinct
    {state : State Gid Process} {action : Action Gid Process}
    (invariant : Invariant state)
    (enabled : Enabled state action)
    (permitted : DistinctGids state action)
    (peers : (effect state action).peers = true)
    (first second : Process) (gid : Gid)
    (different : first ≠ second)
    (firstClaims : (effect state action).claim first = some gid)
    (secondClaims : (effect state action).claim second = some gid) :
    ¬ (effect state action).Is first fun proc => proc.job.coordinates := by
  intro coordinates
  rcases effect_generation state action with
    ⟨process, num, peers, rfl⟩ | ⟨sameCurrent, samePeers⟩
  · rw [effect_switch_claim invariant enabled first] at firstClaims
    cases firstClaims
  rw [samePeers] at peers
  obtain ⟨firstOrigin, firstJob⟩ := effect_claim enabled sameCurrent firstClaims
  obtain ⟨secondOrigin, _⟩ := effect_claim enabled sameCurrent secondClaims
  rcases firstOrigin with firstBefore | rfl
  · rcases secondOrigin with secondBefore | rfl
    · exact invariant.distinct peers first second gid different firstBefore
        secondBefore (firstJob coordinates)
    · exact (permitted peers first different firstBefore).2
        (firstJob coordinates)
  · rcases secondOrigin with secondBefore | reaches
    · exact (permitted peers second different.symm secondBefore).1
        (firstJob coordinates)
    · cases reaches
      exact different rfl

/-- The invariant holds along every run whose gids are distinct. -/
theorem invariant_of_reachable
    {state : State Gid Process}
    (reachable : (machine Gid Process).Reachable DistinctGids state) :
    Invariant state := by
  refine @Machine.Reachable.invariant _ _ _ _ Invariant ?_ ?_ _ reachable
  · exact {
      exclusive := fun _ _ holds => by cases holds
      gen_le := fun _ _ isProc => by cases isProc
      gathers := fun _ _ _ _ isProc => by cases isProc
      distinct := fun _ _ _ _ _ claims => by cases claims }
  · intro state action invariant enabled permitted
    exact {
      exclusive := effect_exclusive invariant enabled
      gen_le := effect_gen_le invariant enabled
      gathers := effect_gathers invariant enabled
      distinct := effect_distinct invariant enabled permitted }

/-! ## The order of the waits -/

/-- The place of a process in the order of waits.  A coordinator that gathers in
the current generation stands above the switch, everything under the barrier
below it. -/
def Proc.rank (current : ℕ) (peers : Bool) (proc : Proc Gid) : ℕ :=
  match proc.stage with
  | .admission => 5
  | .acquire _ => if proc.job.prepares then 2 else 5
  | .gather _ _ => if proc.gen = current ∧ peers then 4 else 1
  | .gatherFree _ => if proc.gen = current ∧ peers then 4 else 1
  | .registered => 3
  | .locked _ => 1
  | .unlocking _ => 1
  | .barrier => 0
  | .holding => 0

/-- The place of a process in the order of waits. -/
def State.rank (state : State Gid Process) (process : Process) : ℕ :=
  ((state.proc process).map (Proc.rank state.current state.peers)).getD 0

omit [DecidableEq Gid] [DecidableEq Process] in
theorem rank_eq
    {state : State Gid Process} {process : Process} {proc : Proc Gid}
    (isProc : state.proc process = some proc) :
    state.rank process = proc.rank state.current state.peers := by
  simp [State.rank, isProc]

omit [DecidableEq Gid] [DecidableEq Process] in
theorem rank_underBarrier_lt
    {current : ℕ} {peers : Bool} {proc : Proc Gid}
    (inside : proc.underBarrier = true) :
    proc.rank current peers < 3 := by
  obtain ⟨job, stage, gen⟩ := proc
  rw [Proc.underBarrier, Bool.and_eq_true] at inside
  obtain ⟨prepares, atStage⟩ := inside
  have prepares : job.prepares = true := prepares
  cases stage with
  | acquire gid => simp [Proc.rank, prepares]
  | barrier => simp [Proc.rank]
  | locked gid => simp [Proc.rank]
  | _ => cases atStage

omit [DecidableEq Gid] [DecidableEq Process] in
theorem rank_switching_lt
    {current : ℕ} {peers : Bool} {proc : Proc Gid}
    (switches : proc.switching = true) :
    proc.rank current peers < 4 := by
  obtain ⟨job, stage, gen⟩ := proc
  cases stage with
  | registered => simp [Proc.rank]
  | holding => simp [Proc.rank]
  | _ => cases switches

omit [DecidableEq Gid] [DecidableEq Process] in
theorem rank_stuck
    {current : ℕ} {peers : Bool} {proc : Proc Gid}
    (stuck : proc.stuck current peers = true) :
    proc.rank current peers = 4 := by
  obtain ⟨job, stage, gen⟩ := proc
  simp only [Proc.stuck, Bool.and_eq_true, decide_eq_true_eq] at stuck
  obtain ⟨⟨withPeers, isCurrent⟩, atStage⟩ := stuck
  cases stage with
  | gather gid left => simp [Proc.rank, withPeers, isCurrent]
  | gatherFree left => simp [Proc.rank, withPeers, isCurrent]
  | _ => cases atStage

omit [DecidableEq Process] in
/-- A wait for an entry goes down.  Under the barrier it is here that distinct
gids are needed: a coordinator of the current generation that gathers with the
entry stands above the waiting process. -/
theorem rank_entry_lt
    {state : State Gid Process}
    (invariant : Invariant state)
    {process other : Process} {gid : Gid}
    (waits : state.wanted process = some gid)
    (holds : state.held other = some gid) :
    state.rank other < state.rank process := by
  obtain ⟨waiter, isWaiter, wants⟩ := Option.bind_eq_some_iff.mp waits
  obtain ⟨owner, isOwner, owns⟩ := Option.bind_eq_some_iff.mp holds
  rw [rank_eq isWaiter, rank_eq isOwner]
  obtain ⟨job, stage, gen⟩ := waiter
  obtain ⟨jobOwner, stageOwner, genOwner⟩ := owner
  cases stage with
  | acquire wanted =>
      cases wants
      by_cases prepares : job.prepares = true
      · cases stageOwner with
        | locked held => simp [Proc.rank, prepares]
        | unlocking held => simp [Proc.rank, prepares]
        | gather held left =>
            cases owns
            by_cases above : genOwner = state.current ∧ state.peers = true
            · exfalso
              have coordinates : jobOwner.coordinates = true :=
                invariant.gathers other _ gid left isOwner rfl
              have different : other ≠ process := by
                rintro rfl
                cases isWaiter.symm.trans isOwner
              refine invariant.distinct above.2 other process gid different
                (claim_eq_some.mpr ⟨_, isOwner, ?_⟩)
                (claim_eq_some.mpr ⟨_, isWaiter, ?_⟩)
                (is_iff.mpr ⟨_, isOwner, coordinates⟩)
              · simp [Proc.claim, coordinates, above.1]
              · simp [Proc.claim, prepares]
            · simp [Proc.rank, prepares, above]
        | _ => cases owns
      · have top : Proc.rank state.current state.peers
            ⟨job, .acquire gid, gen⟩ = 5 := by
          simp [Proc.rank, prepares]
        rw [top]
        cases stageOwner with
        | gather held left =>
            simp only [Proc.rank]
            split <;> decide
        | locked held => simp [Proc.rank]
        | unlocking held => simp [Proc.rank]
        | _ => cases owns
  | _ => cases wants

omit [DecidableEq Process] in
/-- Every wait goes down. -/
theorem rank_lt_of_waitsFor
    {state : State Gid Process}
    (invariant : Invariant state)
    {process other : Process}
    (waits : WaitsFor state process other) :
    state.rank other < state.rank process := by
  cases waits with
  | preparer atStage inside =>
      obtain ⟨proc, isProc, registered⟩ := is_iff.mp atStage
      obtain ⟨inner, isInner, inside⟩ := is_iff.mp inside
      rw [rank_eq isProc, rank_eq isInner]
      have three : proc.rank state.current state.peers = 3 := by
        simp [Proc.rank, of_decide_eq_true registered]
      rw [three]
      exact rank_underBarrier_lt inside
  | holder atStage switches =>
      obtain ⟨proc, isProc, admission⟩ := is_iff.mp atStage
      obtain ⟨switcher, isSwitcher, switches⟩ := is_iff.mp switches
      rw [rank_eq isProc, rank_eq isSwitcher]
      have five : proc.rank state.current state.peers = 5 := by
        simp [Proc.rank, of_decide_eq_true admission]
      rw [five]
      exact lt_trans (rank_switching_lt switches) (by decide)
  | entry gid wants holds => exact rank_entry_lt invariant wants holds
  | switch stuck switches =>
      obtain ⟨proc, isProc, stuck⟩ := is_iff.mp stuck
      obtain ⟨switcher, isSwitcher, switches⟩ := is_iff.mp switches
      rw [rank_eq isProc, rank_eq isSwitcher, rank_stuck stuck]
      exact rank_switching_lt switches

omit [DecidableEq Process] in
/-- Chains of waits go down. -/
theorem rank_lt_of_chain
    {state : State Gid Process}
    (invariant : Invariant state)
    {process other : Process}
    (chain : Relation.TransGen (WaitsFor state) process other) :
    state.rank other < state.rank process := by
  induction chain with
  | single waits => exact rank_lt_of_waitsFor invariant waits
  | tail _ waits inductionHypothesis =>
      exact lt_trans (rank_lt_of_waitsFor invariant waits) inductionHypothesis

/-- While gids prepared at the same time are distinct, no process of the node
waits for itself through others. -/
theorem waits_acyclic
    {state : State Gid Process}
    (reachable : (machine Gid Process).Reachable DistinctGids state)
    (process : Process) :
    ¬ Relation.TransGen (WaitsFor state) process process := by
  intro cycle
  exact lt_irrefl _
    (rank_lt_of_chain (invariant_of_reachable reachable) cycle)

/-- Process 0 prepares a gid and gathers, process 1 asks for the entry of a gid
under the barrier, the peer of process 0 leaves the generation and process 2
starts to switch it. -/
def twoPrepares (first second : ℕ) : List (Action ℕ (Fin 3)) :=
  [.start 0 (.explicitPrepare first), .pass 0, .reach 0 first, .lock 0,
    .prepared 0,
    .start 1 (.explicitPrepare second), .pass 1, .reach 1 second,
    .peerLeaves 0, .start 2 .genSwitch]

theorem twoPrepares_completes :
    ((machine ℕ (Fin 3)).execute DistinctGids (machine ℕ (Fin 3)).init
      (twoPrepares 7 8)).isSome = true := by
  decide +kernel

theorem waits_acyclic_twoPrepares :
    ¬ Relation.TransGen
      (WaitsFor (((machine ℕ (Fin 3)).execute DistinctGids
        (machine ℕ (Fin 3)).init (twoPrepares 7 8)).get twoPrepares_completes))
      1 1 :=
  waits_acyclic
    (Machine.reachable_of_execute (twoPrepares 7 8) twoPrepares_completes) 1

theorem samePrepares_completes :
    ((machine ℕ (Fin 3)).execute Machine.Always (machine ℕ (Fin 3)).init
      (twoPrepares 7 7)).isSome = true := by
  decide +kernel

/-- With one gid for both the second preparer waits for the entry of the first,
the first for the switch and the switch for the second preparer. -/
theorem samePrepares_deadlock :
    let state := ((machine ℕ (Fin 3)).execute Machine.Always
      (machine ℕ (Fin 3)).init (twoPrepares 7 7)).get samePrepares_completes
    (machine ℕ (Fin 3)).Reachable Machine.Always state ∧
      Relation.TransGen (WaitsFor state) 1 1 := by
  intro state
  refine ⟨Machine.reachable_of_execute (twoPrepares 7 7)
    samePrepares_completes, ?_⟩
  have entry : WaitsFor state 1 0 :=
    .entry 7 (by decide +kernel) (by decide +kernel)
  have gather : WaitsFor state 0 2 :=
    .switch (by decide +kernel) (by decide +kernel)
  have drain : WaitsFor state 2 1 :=
    .preparer (by decide +kernel) (by decide +kernel)
  exact .tail (.tail (.single entry) gather) drain

end Waits
end Multimaster
