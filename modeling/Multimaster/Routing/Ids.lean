import Multimaster.Routing.Defs

/-!
# The generations of processes

A generation is issued to one process only, and every subscription carries one
that was issued, also after its process is gone.
-/

namespace Multimaster
namespace Routing

open Subscription

/-- The generations that were issued, and who has them. -/
structure Ids
    (dmq : Dmq) (processes : ℕ → Option Process) (nextPid : ℕ)
    (issued : List (ℕ × Subscriber)) : Prop where
  pid : ∀ procno process, processes procno = some process → process.pid < nextPid
  distinct : ∀ procno other pid, (processes procno).map Process.pid = some pid →
    (processes other).map Process.pid = some pid → procno = other
  own : ∀ procno process, processes procno = some process →
    process.locals.myProcnoGen ≠ 0 →
    (process.pid,
      { procno := procno, procnoGen := process.locals.myProcnoGen }) ∈ issued
  valid : ∀ entry ∈ issued, entry.1 < nextPid ∧ entry.2.procnoGen ≠ 0 ∧
    entry.2.procnoGen ≤ dmq.procnoGens entry.2.procno
  unique : ∀ first ∈ issued, ∀ second ∈ issued, first.2 = second.2 →
    first.1 = second.1
  subscribed : ∀ stream subscriber, dmq.subscriptions stream = some subscriber →
    ∃ pid, (pid, subscriber) ∈ issued

namespace Ids

variable {dmq dmq' : Dmq} {processes : ℕ → Option Process} {nextPid procno : ℕ}
variable {issued : List (ℕ × Subscriber)} {process next : Process}

theorem map_pid_update
    (isProcess : processes procno = some process)
    (samePid : next.pid = process.pid)
    (other : ℕ) :
    (Function.update processes procno (some next) other).map Process.pid =
      (processes other).map Process.pid := by
  rcases eq_or_ne other procno with rfl | different
  · rw [Function.update_self, isProcess, Option.map_some,
      Option.map_some, samePid]
  · rw [Function.update_of_ne different]

/-- A process goes on with the same generation, and subscriptions may be taken
out. -/
theorem replace
    (ids : Ids dmq processes nextPid issued)
    (isProcess : processes procno = some process)
    (samePid : next.pid = process.pid)
    (sameGen : next.locals.myProcnoGen = process.locals.myProcnoGen)
    (sameGens : dmq'.procnoGens = dmq.procnoGens)
    (fewer : ∀ stream subscriber, dmq'.subscriptions stream = some subscriber →
      dmq.subscriptions stream = some subscriber) :
    Ids dmq' (Function.update processes procno (some next)) nextPid issued where
  pid := by
    apply forall_update_some
    · rw [samePid]
      exact ids.pid procno process isProcess
    · exact ids.pid
  distinct := by
    intro first second pid isFirst isSecond
    rw [map_pid_update isProcess samePid] at isFirst isSecond
    exact ids.distinct first second pid isFirst isSecond
  own := by
    apply forall_update_some
    · rw [samePid, sameGen]
      exact ids.own procno process isProcess
    · exact ids.own
  valid := by
    rw [sameGens]
    exact ids.valid
  unique := ids.unique
  subscribed := by
    intro stream subscriber isEntry
    exact ids.subscribed stream subscriber (fewer stream subscriber isEntry)

/-- A process starts, without a generation. -/
theorem start
    (ids : Ids dmq processes nextPid issued) {locals : DmqLocal}
    {inhandles : ℕ → Inhandle} (noGen : locals.myProcnoGen = 0) :
    Ids dmq
      (Function.update processes procno
        (some { pid := nextPid, locals := locals, inhandles := inhandles }))
      (nextPid + 1) issued where
  pid := by
    apply forall_update_some
    · exact Nat.lt_succ_self nextPid
    · intro other process isProcess
      exact Nat.lt_succ_of_lt (ids.pid other process isProcess)
  distinct := by
    have older : ∀ other, (processes other).map Process.pid ≠ some nextPid := by
      intro other isPid
      obtain ⟨process, isProcess, same⟩ := Option.map_eq_some_iff.mp isPid
      exact Nat.lt_irrefl _ (same ▸ ids.pid other process isProcess)
    intro first second pid isFirst isSecond
    rcases eq_or_ne first procno with rfl | firstOther
    · rcases eq_or_ne second first with rfl | secondOther
      · rfl
      · rw [Function.update_self] at isFirst
        rw [Function.update_of_ne secondOther, ← isFirst] at isSecond
        exact absurd isSecond (older second)
    · rw [Function.update_of_ne firstOther] at isFirst
      rcases eq_or_ne second procno with rfl | secondOther
      · rw [Function.update_self] at isSecond
        rw [← isSecond] at isFirst
        exact absurd isFirst (older first)
      · rw [Function.update_of_ne secondOther] at isSecond
        exact ids.distinct first second pid isFirst isSecond
  own := by
    apply forall_update_some
    · exact fun notZero => absurd noGen notZero
    · exact ids.own
  valid := by
    intro entry isEntry
    obtain ⟨isPid, notZero, bound⟩ := ids.valid entry isEntry
    exact ⟨Nat.lt_succ_of_lt isPid, notZero, bound⟩
  unique := ids.unique
  subscribed := ids.subscribed

/-- A process is gone, and subscriptions may be taken out. -/
theorem exit
    (ids : Ids dmq processes nextPid issued)
    (sameGens : dmq'.procnoGens = dmq.procnoGens)
    (fewer : ∀ stream subscriber, dmq'.subscriptions stream = some subscriber →
      dmq.subscriptions stream = some subscriber) :
    Ids dmq' (Function.update processes procno none) nextPid issued := by
  constructor
  case pid =>
    intro other process isProcess
    exact ids.pid other process (update_none_cases isProcess).2
  case distinct =>
    intro first second pid isFirst isSecond
    obtain ⟨firstProcess, isFirstProcess, firstPid⟩ :=
      Option.map_eq_some_iff.mp isFirst
    obtain ⟨secondProcess, isSecondProcess, secondPid⟩ :=
      Option.map_eq_some_iff.mp isSecond
    apply ids.distinct first second pid
    · rw [(update_none_cases isFirstProcess).2, Option.map_some, firstPid]
    · rw [(update_none_cases isSecondProcess).2, Option.map_some, secondPid]
  case own =>
    intro other process isProcess
    exact ids.own other process (update_none_cases isProcess).2
  case valid =>
    rw [sameGens]
    exact ids.valid
  case unique => exact ids.unique
  case subscribed =>
    intro stream subscriber isEntry
    exact ids.subscribed stream subscriber (fewer stream subscriber isEntry)

theorem mem_issuedAfter
    {entry : ℕ × Subscriber} (isEntry : entry ∈ issued) :
    entry ∈ issuedAfter dmq process procno issued := by
  rw [issuedAfter]
  split_ifs
  · exact List.mem_cons_of_mem _ isEntry
  · exact isEntry

theorem mem_issuedAfter_cases
    {entry : ℕ × Subscriber}
    (isEntry : entry ∈ issuedAfter dmq process procno issued) :
    entry ∈ issued ∨
      entry = (process.pid,
        { procno := procno, procnoGen := issuedGen dmq process.locals procno }) ∧
      process.locals.myProcnoGen = 0 := by
  rw [issuedAfter] at isEntry
  split_ifs at isEntry with isZero
  · rcases List.mem_cons.mp isEntry with same | wasEntry
    · exact Or.inr ⟨same, isZero⟩
    · exact Or.inl wasEntry
  · exact Or.inl isEntry

/-- A process subscribes, or fails to. -/
theorem subscribe
    (ids : Ids dmq processes nextPid issued)
    (isProcess : processes procno = some process)
    (samePid : next.pid = process.pid)
    (sameGen : next.locals.myProcnoGen = issuedGen dmq process.locals procno)
    (sameGens : dmq'.procnoGens = issuedGens dmq process.locals procno)
    (entries : ∀ stream subscriber, dmq'.subscriptions stream = some subscriber →
      dmq.subscriptions stream = some subscriber ∨
      subscriber =
        { procno := procno,
          procnoGen := issuedGen dmq process.locals procno }) :
    Ids dmq' (Function.update processes procno (some next)) nextPid
      (issuedAfter dmq process procno issued) := by
  have isOwn : (process.pid,
      { procno := procno, procnoGen := issuedGen dmq process.locals procno }) ∈
        issuedAfter dmq process procno issued := by
    rw [issuedAfter, issuedGen]
    split_ifs with isZero
    · exact List.mem_cons_self
    · exact ids.own procno process isProcess isZero
  constructor
  case pid =>
    apply forall_update_some
    · rw [samePid]
      exact ids.pid procno process isProcess
    · exact ids.pid
  case distinct =>
    intro first second pid isFirst isSecond
    rw [map_pid_update isProcess samePid] at isFirst isSecond
    exact ids.distinct first second pid isFirst isSecond
  case own =>
    apply forall_update_some
    · intro _
      rw [samePid, sameGen]
      exact isOwn
    · intro other second isSecond notZero
      exact mem_issuedAfter (ids.own other second isSecond notZero)
  case valid =>
    intro entry isEntry
    rw [sameGens]
    rcases mem_issuedAfter_cases isEntry with wasEntry | ⟨rfl, isZero⟩
    · obtain ⟨isPid, notZero, bound⟩ := ids.valid entry wasEntry
      exact ⟨isPid, notZero, Nat.le_trans bound (le_issuedGens _ _ _ _)⟩
    · refine ⟨ids.pid procno process isProcess, ?_, ?_⟩
      · rw [issuedGen, if_pos isZero]
        exact Nat.succ_ne_zero _
      · rw [issuedGen, issuedGens, if_pos isZero, if_pos isZero,
          Function.update_self]
  case unique =>
    have older : ∀ entry ∈ issued, process.locals.myProcnoGen = 0 →
        entry.2 ≠
          { procno := procno,
            procnoGen := issuedGen dmq process.locals procno } := by
      intro entry isEntry isZero same
      have bound := (ids.valid entry isEntry).2.2
      rw [same, issuedGen, if_pos isZero] at bound
      exact Nat.not_succ_le_self _ bound
    intro first isFirst second isSecond same
    rcases mem_issuedAfter_cases isFirst with wasFirst | ⟨rfl, isZero⟩
    · rcases mem_issuedAfter_cases isSecond with wasSecond | ⟨rfl, isZero⟩
      · exact ids.unique first wasFirst second wasSecond same
      · exact absurd same (older first wasFirst isZero)
    · rcases mem_issuedAfter_cases isSecond with wasSecond | ⟨rfl, -⟩
      · exact absurd same.symm (older second wasSecond isZero)
      · rfl
  case subscribed =>
    intro stream subscriber isEntry
    rcases entries stream subscriber isEntry with wasEntry | rfl
    · obtain ⟨pid, isIssued⟩ := ids.subscribed stream subscriber wasEntry
      exact ⟨pid, mem_issuedAfter isIssued⟩
    · exact ⟨process.pid, isOwn⟩

end Ids

end Routing
end Multimaster
