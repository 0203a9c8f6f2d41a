import Multimaster.Routing.Ids
import Multimaster.Routing.Served

/-!
# The readers of queues

A process attaches only to segments that were made for its generation, and no
segment is attached twice.
-/

namespace Multimaster
namespace Routing

open Subscription

/-- The entry of `inhandles` is about the segment. -/
def Inhandle.About (inhandle : Inhandle) (handle : ℕ) : Prop :=
  inhandle = .found handle ∨ inhandle = .attached handle

/-- No process has the generation. -/
def Gone (processes : ℕ → Option Process) (subscriber : Subscriber) : Prop :=
  ∀ process, processes subscriber.procno = some process →
    process.locals.myProcnoGen ≠ subscriber.procnoGen

/-- The segments that processes are attached to, or about to attach to. -/
structure Attached
    (processes : ℕ → Option Process) (owners : ℕ → Option Owner)
    (readers : ℕ → Option ℕ) (writers : ℕ → Bool)
    (attachments : List ℕ) : Prop where
  about : ∀ procno process sender handle, processes procno = some process →
    (process.inhandles sender).About handle →
    ∃ owner, owners handle = some owner ∧ owner.sender = sender ∧
      owner.subscriber =
        { procno := procno, procnoGen := process.locals.myProcnoGen }
  reader : ∀ procno process sender handle, processes procno = some process →
    process.inhandles sender = .attached handle →
      readers handle = some process.pid
  process : ∀ handle pid, readers handle = some pid →
    ∃ procno process owner, processes procno = some process ∧ process.pid = pid ∧
      owners handle = some owner ∧
        process.inhandles owner.sender = .attached handle
  once : ∀ handle ∈ attachments, ∃ owner, owners handle = some owner ∧
    (readers handle ≠ none ∨ writers handle = false ∨
      Gone processes owner.subscriber)
  nodup : attachments.Nodup

namespace Attached

variable {processes : ℕ → Option Process} {owners owners' : ℕ → Option Owner}
variable {readers readers' : ℕ → Option ℕ} {writers writers' : ℕ → Bool}
variable {attachments : List ℕ} {procno sender handle : ℕ}
  {process next : Process}

/-- A generation that nobody has is not had by the others. -/
theorem gone_update
    {subscriber : Subscriber} {process : Option Process}
    (gone : Gone processes subscriber)
    (notNew : ∀ next, process = some next → subscriber.procno = procno →
      next.locals.myProcnoGen ≠ subscriber.procnoGen) :
    Gone (Function.update processes procno process) subscriber := by
  intro second isSecond
  rcases eq_or_ne subscriber.procno procno with same | different
  · rw [same, Function.update_self] at isSecond
    exact notNew second isSecond same
  · rw [Function.update_of_ne different] at isSecond
    exact gone second isSecond

/-- Segments are created, and receivers leave them. -/
theorem grow
    (attached : Attached processes owners readers writers attachments)
    (growOwners : ∀ handle owner, owners handle = some owner →
      owners' handle = some owner)
    (leave : ∀ handle owner, owners handle = some owner → writers handle = false →
      writers' handle = false) :
    Attached processes owners' readers writers' attachments where
  about := by
    intro procno process sender handle isProcess isAbout
    obtain ⟨owner, isOwner, rest⟩ :=
      attached.about procno process sender handle isProcess isAbout
    exact ⟨owner, growOwners handle owner isOwner, rest⟩
  reader := attached.reader
  process := by
    intro handle pid isReader
    obtain ⟨procno, process, owner, isProcess, isPid, isOwner, isAttached⟩ :=
      attached.process handle pid isReader
    exact ⟨procno, process, owner, isProcess, isPid,
      growOwners handle owner isOwner,
      isAttached⟩
  once := by
    intro handle isAttachment
    obtain ⟨owner, isOwner, hasReader | left | gone⟩ :=
      attached.once handle isAttachment
    · exact ⟨owner, growOwners handle owner isOwner, Or.inl hasReader⟩
    · exact ⟨owner, growOwners handle owner isOwner,
        Or.inr (Or.inl (leave handle owner isOwner left))⟩
    · exact ⟨owner, growOwners handle owner isOwner, Or.inr (Or.inr gone)⟩
  nodup := attached.nodup

/-- A receiver leaves a segment. -/
theorem leave
    (attached : Attached processes owners readers writers attachments)
    (handle : ℕ) :
    Attached processes owners readers (Function.update writers handle false)
      attachments := by
  apply attached.grow fun _ _ => id
  intro other _ _ wasLeft
  rcases eq_or_ne other handle with rfl | different
  · exact Function.update_self ..
  · rwa [Function.update_of_ne different]

/-- A process starts. -/
theorem start
    (attached : Attached processes owners readers writers attachments)
    (isFree : processes procno = none)
    (notZero : ∀ handle owner, owners handle = some owner →
      owner.subscriber.procnoGen ≠ 0)
    (noGen : next.locals.myProcnoGen = 0)
    (noHandle : ∀ sender, next.inhandles sender = .detached) :
    Attached (Function.update processes procno (some next)) owners readers writers
      attachments where
  about := by
    intro other process sender handle isProcess isAbout
    obtain ⟨rfl, rfl⟩ | ⟨-, wasProcess⟩ := update_some_cases isProcess
    · rw [noHandle] at isAbout
      rcases isAbout with isFound | isAttached
      · exact nomatch isFound
      · exact nomatch isAttached
    · exact attached.about other process sender handle wasProcess isAbout
  reader := by
    intro other process sender handle isProcess isAttached
    obtain ⟨rfl, rfl⟩ | ⟨-, wasProcess⟩ := update_some_cases isProcess
    · rw [noHandle] at isAttached
      exact nomatch isAttached
    · exact attached.reader other process sender handle wasProcess isAttached
  process := by
    intro handle pid isReader
    obtain ⟨other, process, owner, isProcess, rest⟩ :=
      attached.process handle pid isReader
    exact ⟨other, process, owner, update_of_free isFree isProcess, rest⟩
  once := by
    intro handle isAttachment
    obtain ⟨owner, isOwner, hasReader | left | gone⟩ :=
      attached.once handle isAttachment
    · exact ⟨owner, isOwner, Or.inl hasReader⟩
    · exact ⟨owner, isOwner, Or.inr (Or.inl left)⟩
    · refine ⟨owner, isOwner, Or.inr (Or.inr (gone_update gone ?_))⟩
      intro second isSecond _
      obtain rfl := Option.some.inj isSecond
      rw [noGen]
      exact (notZero handle owner isOwner).symm
  nodup := attached.nodup

/-- A process goes on with the segments it is attached to. -/
theorem keep
    (attached : Attached processes owners readers writers attachments)
    (isProcess : processes procno = some process)
    (samePid : next.pid = process.pid)
    (sameAttached : ∀ sender handle, next.inhandles sender = .attached handle ↔
      process.inhandles sender = .attached handle)
    (about : ∀ sender handle, (next.inhandles sender).About handle →
      ∃ owner, owners handle = some owner ∧ owner.sender = sender ∧
        owner.subscriber =
          { procno := procno, procnoGen := next.locals.myProcnoGen })
    (gens : ∀ handle owner, owners handle = some owner →
      owner.subscriber.procno = procno →
      process.locals.myProcnoGen ≠ owner.subscriber.procnoGen →
      next.locals.myProcnoGen ≠ owner.subscriber.procnoGen) :
    Attached (Function.update processes procno (some next)) owners readers writers
      attachments where
  about := by
    intro other second sender handle isSecond isAbout
    obtain ⟨rfl, rfl⟩ | ⟨-, wasSecond⟩ := update_some_cases isSecond
    · exact about sender handle isAbout
    · exact attached.about other second sender handle wasSecond isAbout
  reader := by
    intro other second sender handle isSecond isAttached
    obtain ⟨rfl, rfl⟩ | ⟨-, wasSecond⟩ := update_some_cases isSecond
    · rw [samePid]
      exact attached.reader other process sender handle isProcess
        ((sameAttached sender handle).mp isAttached)
    · exact attached.reader other second sender handle wasSecond isAttached
  process := by
    intro handle pid isReader
    obtain ⟨other, second, owner, isSecond, isPid, isOwner, isAttached⟩ :=
      attached.process handle pid isReader
    rcases eq_or_ne other procno with rfl | different
    · obtain rfl := Option.some.inj (isProcess.symm.trans isSecond)
      exact ⟨other, next, owner, Function.update_self ..,
        samePid.trans isPid, isOwner,
        (sameAttached _ handle).mpr isAttached⟩
    · exact ⟨other, second, owner, by rwa [Function.update_of_ne different],
        isPid, isOwner,
        isAttached⟩
  once := by
    intro handle isAttachment
    obtain ⟨owner, isOwner, hasReader | left | gone⟩ :=
      attached.once handle isAttachment
    · exact ⟨owner, isOwner, Or.inl hasReader⟩
    · exact ⟨owner, isOwner, Or.inr (Or.inl left)⟩
    · refine ⟨owner, isOwner, Or.inr (Or.inr (gone_update gone ?_))⟩
      intro second isSecond isProcno
      obtain rfl := Option.some.inj isSecond
      have notBefore := gone process (by rwa [isProcno])
      exact gens handle owner isOwner isProcno notBefore
  nodup := attached.nodup

/-- A process finds a segment or gives one up, without being attached. -/
theorem setInhandle
    (attached : Attached processes owners readers writers attachments)
    (isProcess : processes procno = some process) {inhandle : Inhandle}
    (wasOut : ∀ handle, process.inhandles sender ≠ .attached handle)
    (isOut : ∀ handle, inhandle ≠ .attached handle)
    (about : ∀ handle, inhandle = .found handle →
      ∃ owner, owners handle = some owner ∧ owner.sender = sender ∧
        owner.subscriber =
          { procno := procno, procnoGen := process.locals.myProcnoGen }) :
    Attached
      (Function.update processes procno (some { process with
        inhandles := Function.update process.inhandles sender inhandle }))
      owners readers writers attachments := by
  apply attached.keep isProcess
  case samePid => rfl
  case sameAttached =>
    intro other handle
    dsimp only
    rcases eq_or_ne other sender with rfl | different
    · rw [Function.update_self]
      exact iff_of_false (isOut handle) (wasOut handle)
    · rw [Function.update_of_ne different]
  case about =>
    intro other handle isAbout
    dsimp only at isAbout ⊢
    rcases eq_or_ne other sender with rfl | different
    · rw [Function.update_self] at isAbout
      exact about handle (isAbout.resolve_right (isOut handle))
    · rw [Function.update_of_ne different] at isAbout
      exact attached.about procno process other handle isProcess isAbout
  case gens => exact fun _ _ _ _ => id

/-- Two processes that are about one segment are the same, at the same sender. -/
theorem about_unique
    (attached : Attached processes owners readers writers attachments)
    {other otherSender : ℕ} {second : Process}
    (isProcess : processes procno = some process)
    (isSecond : processes other = some second)
    (firstAbout : (process.inhandles sender).About handle)
    (secondAbout : (second.inhandles otherSender).About handle) :
    other = procno ∧ otherSender = sender := by
  obtain ⟨owner, isOwner, isSender, isSubscriber⟩ :=
    attached.about procno process sender handle isProcess firstAbout
  obtain ⟨same, isSame, sameSender, sameSubscriber⟩ :=
    attached.about other second otherSender handle isSecond secondAbout
  obtain rfl := Option.some.inj (isOwner.symm.trans isSame)
  exact ⟨congrArg Subscriber.procno (sameSubscriber.symm.trans isSubscriber),
    sameSender.symm.trans isSender⟩

/-- A process that is gone leaves its segments. -/
theorem exit
    (attached : Attached processes owners readers writers attachments)
    (isProcess : processes procno = some process)
    (distinct : ∀ other second, processes other = some second →
      second.pid = process.pid → other = procno) :
    Attached (Function.update processes procno none) owners
      (fun handle => if readers handle = some process.pid then none
        else readers handle)
      writers attachments := by
  constructor
  case about =>
    intro other second sender handle isSecond
    exact attached.about other second sender handle (update_none_cases isSecond).2
  case reader =>
    intro other second sender handle isSecond isAttached
    obtain ⟨different, wasSecond⟩ := update_none_cases isSecond
    have isReader :=
      attached.reader other second sender handle wasSecond isAttached
    have otherPid : readers handle ≠ some process.pid := by
      rw [isReader]
      intro samePid
      exact different (distinct other second wasSecond (Option.some.inj samePid))
    rw [if_neg otherPid]
    exact isReader
  case process =>
    intro handle pid isReader
    split_ifs at isReader with isOwn
    obtain ⟨other, second, owner, isSecond, isPid, rest⟩ :=
      attached.process handle pid isReader
    have different : other ≠ procno := by
      rintro rfl
      obtain rfl := Option.some.inj (isProcess.symm.trans isSecond)
      rw [isPid] at isOwn
      exact isOwn isReader
    exact ⟨other, second,
      owner, by rwa [Function.update_of_ne different], isPid, rest⟩
  case once =>
    intro handle isAttachment
    obtain ⟨owner, isOwner, hasReader | left | gone⟩ :=
      attached.once handle isAttachment
    · refine ⟨owner, isOwner, ?_⟩
      by_cases isOwn : readers handle = some process.pid
      · refine Or.inr (Or.inr ?_)
        obtain ⟨other, second, same, isSecond, isPid, isSame, isAttached⟩ :=
          attached.process handle process.pid isOwn
        obtain rfl := Option.some.inj (isOwner.symm.trans isSame)
        obtain rfl := distinct other second isSecond isPid
        obtain ⟨third, isThird, -, isSubscriber⟩ :=
          attached.about other second _ handle isSecond (Or.inr isAttached)
        obtain rfl := Option.some.inj (isOwner.symm.trans isThird)
        intro left isLeft
        rw [isSubscriber, Function.update_self] at isLeft
        exact nomatch isLeft
      · rw [if_neg isOwn]
        exact Or.inl hasReader
    · exact ⟨owner, isOwner, Or.inr (Or.inl left)⟩
    · exact ⟨owner, isOwner, Or.inr (Or.inr (gone_update gone fun _ => nofun))⟩
  case nodup => exact attached.nodup

/-- The segment that a process is about to attach to was never attached before,
if it is still there. -/
theorem not_mem_attachments
    (attached : Attached processes owners readers writers attachments)
    (isProcess : processes procno = some process)
    (isFound : process.inhandles sender = .found handle)
    (isThere : (writers handle || (readers handle).isSome) = true) :
    handle ∉ attachments := by
  have noReader : readers handle = none := by
    by_contra hasReader
    obtain ⟨pid, isReader⟩ := Option.ne_none_iff_exists'.mp hasReader
    obtain ⟨other, second, owner, isSecond, -, -, isAttached⟩ :=
      attached.process handle pid isReader
    obtain ⟨rfl, isSender⟩ :=
      attached.about_unique isProcess isSecond (Or.inl isFound)
        (Or.inr isAttached)
    obtain rfl := Option.some.inj (isProcess.symm.trans isSecond)
    rw [isSender, isFound] at isAttached
    exact nomatch isAttached
  intro isAttachment
  obtain ⟨owner, isOwner, hasReader | left | gone⟩ :=
    attached.once handle isAttachment
  · exact hasReader noReader
  · rw [left, noReader] at isThere
    exact nomatch isThere
  · obtain ⟨same, isSame, -, isSubscriber⟩ :=
      attached.about procno process sender handle isProcess (Or.inl isFound)
    obtain rfl := Option.some.inj (isOwner.symm.trans isSame)
    rw [isSubscriber] at gone
    exact gone process isProcess rfl

/-- A process attaches to a segment or leaves it. -/
theorem change
    (attached : Attached processes owners readers writers attachments)
    (isProcess : processes procno = some process)
    (isAbout : (process.inhandles sender).About handle)
    {inhandle : Inhandle} {reader : Option ℕ} {attachments' : List ℕ}
    (isChange : inhandle = .attached handle ∧ reader = some process.pid ∨
      inhandle = .detached ∧ reader = none ∧ writers handle = false)
    (within : ∀ other ∈ attachments', other = handle ∨ other ∈ attachments)
    (nodup : attachments'.Nodup) :
    Attached
      (Function.update processes procno (some { process with
        inhandles := Function.update process.inhandles sender inhandle }))
      owners (Function.update readers handle reader) writers attachments' := by
  obtain ⟨owner, isOwner, isSender, isSubscriber⟩ :=
    attached.about procno process sender handle isProcess isAbout
  have isValue : ∀ other, inhandle.About other → other = handle := by
    intro other otherAbout
    rcases isChange with ⟨rfl, -⟩ | ⟨rfl, -, -⟩
    · exact (by simpa [Inhandle.About] using otherAbout : handle = other).symm
    · exact absurd otherAbout (by simp [Inhandle.About])
  constructor
  case about =>
    intro other second otherSender otherHandle isSecond secondAbout
    obtain ⟨rfl, rfl⟩ | ⟨-, wasSecond⟩ := update_some_cases isSecond
    · dsimp only at secondAbout ⊢
      rcases eq_or_ne otherSender sender with rfl | differentSender
      · rw [Function.update_self] at secondAbout
        obtain rfl := isValue otherHandle secondAbout
        exact ⟨owner, isOwner, isSender, isSubscriber⟩
      · rw [Function.update_of_ne differentSender] at secondAbout
        exact attached.about other process otherSender otherHandle
          isProcess secondAbout
    · exact attached.about other second otherSender otherHandle
        wasSecond secondAbout
  case reader =>
    intro other second otherSender otherHandle isSecond isAttached
    obtain ⟨rfl, rfl⟩ | ⟨different, wasSecond⟩ := update_some_cases isSecond
    · dsimp only at isAttached ⊢
      rcases eq_or_ne otherSender sender with rfl | differentSender
      · rw [Function.update_self] at isAttached
        rcases isChange with ⟨rfl, isReader⟩ | ⟨rfl, -, -⟩
        · obtain rfl := Inhandle.attached.inj isAttached
          rw [Function.update_self, isReader]
        · exact nomatch isAttached
      · rw [Function.update_of_ne differentSender] at isAttached
        have differentHandle : otherHandle ≠ handle := by
          rintro rfl
          exact differentSender
            (attached.about_unique isProcess isProcess isAbout
              (Or.inr isAttached)).2
        rw [Function.update_of_ne differentHandle]
        exact attached.reader other process otherSender otherHandle
          isProcess isAttached
    · have differentHandle : otherHandle ≠ handle := by
        rintro rfl
        exact different
          (attached.about_unique isProcess wasSecond isAbout
            (Or.inr isAttached)).1
      rw [Function.update_of_ne differentHandle]
      exact attached.reader other second otherSender otherHandle
        wasSecond isAttached
  case process =>
    intro otherHandle pid isReader
    rcases eq_or_ne otherHandle handle with rfl | differentHandle
    · rw [Function.update_self] at isReader
      rcases isChange with ⟨rfl, rfl⟩ | ⟨-, rfl, -⟩
      · refine ⟨procno, _, owner, Function.update_self ..,
          Option.some.inj isReader, isOwner,
          ?_⟩
        dsimp only
        rw [isSender, Function.update_self]
      · exact nomatch isReader
    · rw [Function.update_of_ne differentHandle] at isReader
      obtain ⟨other, second, otherOwner, isSecond, isPid, isOther, isAttached⟩ :=
        attached.process otherHandle pid isReader
      rcases eq_or_ne other procno with rfl | different
      · obtain rfl := Option.some.inj (isProcess.symm.trans isSecond)
        refine ⟨other, _, otherOwner, Function.update_self .., isPid, isOther, ?_⟩
        have differentSender : otherOwner.sender ≠ sender := by
          intro sameSender
          rw [sameSender] at isAttached
          rcases isAbout with isFound | wasAttached
          · exact nomatch isFound.symm.trans isAttached
          · exact differentHandle
              (Inhandle.attached.inj (isAttached.symm.trans wasAttached))
        dsimp only
        rwa [Function.update_of_ne differentSender]
      · exact ⟨other, second,
          otherOwner, by rwa [Function.update_of_ne different], isPid,
          isOther, isAttached⟩
  case once =>
    intro otherHandle isAttachment
    rcases eq_or_ne otherHandle handle with rfl | differentHandle
    · refine ⟨owner, isOwner, ?_⟩
      rcases isChange with ⟨-, rfl⟩ | ⟨-, -, left⟩
      · rw [Function.update_self]
        exact Or.inl nofun
      · exact Or.inr (Or.inl left)
    · have wasAttachment :=
        (within otherHandle isAttachment).resolve_left differentHandle
      obtain ⟨otherOwner, isOther, hasReader | left | gone⟩ :=
        attached.once otherHandle wasAttachment
      · refine ⟨otherOwner, isOther, Or.inl ?_⟩
        rwa [Function.update_of_ne differentHandle]
      · exact ⟨otherOwner, isOther, Or.inr (Or.inl left)⟩
      · refine ⟨otherOwner, isOther, Or.inr (Or.inr (gone_update gone ?_))⟩
        intro next isNext isProcno
        obtain rfl := Option.some.inj isNext
        exact gone process (by rwa [isProcno])
  case nodup => exact nodup

/-- A process attaches to the segment it has found. -/
theorem attach
    (attached : Attached processes owners readers writers attachments)
    (isProcess : processes procno = some process)
    (isFound : process.inhandles sender = .found handle)
    (isThere : (writers handle || (readers handle).isSome) = true) :
    Attached
      (Function.update processes procno (some { process with
        inhandles :=
          Function.update process.inhandles sender (.attached handle) }))
      owners (Function.update readers handle (some process.pid)) writers
      (handle :: attachments) := by
  have notAttachment := attached.not_mem_attachments isProcess isFound isThere
  exact attached.change isProcess (Or.inl isFound) (Or.inl ⟨rfl, rfl⟩)
    (fun _ => List.mem_cons.mp)
      (List.nodup_cons.mpr ⟨notAttachment, attached.nodup⟩)

/-- A process leaves a segment that its receiver has left. -/
theorem release
    (attached : Attached processes owners readers writers attachments)
    (isProcess : processes procno = some process)
    (isAttached : process.inhandles sender = .attached handle)
    (left : writers handle = false) :
    Attached
      (Function.update processes procno (some { process with
        inhandles := Function.update process.inhandles sender .detached }))
      owners (Function.update readers handle none) writers attachments :=
  attached.change isProcess (Or.inr isAttached) (Or.inr ⟨rfl, rfl, left⟩)
    (fun _ => Or.inr) attached.nodup

end Attached

end Routing
end Multimaster
