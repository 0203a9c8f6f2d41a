import Multimaster.Routing.Defs

/-!
# The queues of a receiver

The queue that a receiver holds for a process slot was made for the generation
that it has published, except between the creation and the publication of a new
one.
-/

namespace Multimaster
namespace Routing

open Subscription

/-- The subscription that a receiver is at. -/
def Task.subscriber? : Task → Option Subscriber
  | .idle => none
  | .found subscriber _ | .released subscriber _ | .created subscriber _
  | .ready subscriber _ => some subscriber

/-- What a receiver holds and has published. -/
structure Serves
    (published : ReceiverSlot) (slot : Slot) (receiver : Receiver)
    (owners : ℕ → Option Owner) (issued : List (ℕ × Subscriber)) : Prop where
  name : published.name = some receiver.sender
  queue : ∀ procno handle, receiver.mqHandles procno = some handle →
    ∃ owner, owners handle = some owner ∧ owner.slot = slot ∧
      owner.sender = receiver.sender ∧ owner.subscriber.procno = procno ∧
      (owner.subscriber.procnoGen = published.procnoGens procno ∨
        ∃ message, receiver.task = .created owner.subscriber message)
  handles : ∀ procno handle, published.handles procno = some handle →
    ∃ owner, owners handle = some owner ∧ owner.sender = receiver.sender ∧
      owner.subscriber =
        { procno := procno, procnoGen := published.procnoGens procno }
  created : ∀ subscriber message, receiver.task = .created subscriber message →
    ∃ handle owner, receiver.mqHandles subscriber.procno = some handle ∧
      owners handle = some owner ∧ owner.subscriber = subscriber
  ready : ∀ subscriber message, receiver.task = .ready subscriber message →
    (∃ handle, receiver.mqHandles subscriber.procno = some handle) ∧
      published.procnoGens subscriber.procno = subscriber.procnoGen
  task : ∀ subscriber, receiver.task.subscriber? = some subscriber →
    ∃ pid, (pid, subscriber) ∈ issued

/-- All receivers, and the segments created so far. -/
structure Served
    (slots : Slot → ReceiverSlot) (receivers : Slot → Option Receiver)
    (owners : ℕ → Option Owner) (issued : List (ℕ × Subscriber)) : Prop where
  serves : ∀ slot receiver, receivers slot = some receiver →
    Serves (slots slot) slot receiver owners issued
  live : ∀ slot sender, (slots slot).name = some sender →
    ∃ receiver, receivers slot = some receiver
  owned : ∀ handle owner, owners handle = some owner →
    ∃ pid, (pid, owner.subscriber) ∈ issued

section

variable {published : ReceiverSlot} {slot : Slot} {receiver : Receiver}
variable {slots : Slot → ReceiverSlot} {receivers : Slot → Option Receiver}
variable {owners owners' : ℕ → Option Owner}
  {issued issued' : List (ℕ × Subscriber)}
variable {subscriber : Subscriber} {message : Option Message}

/-- Segments and generations only come in addition. -/
theorem Serves.mono
    (serves : Serves published slot receiver owners issued)
    (growOwners : ∀ handle owner, owners handle = some owner →
      owners' handle = some owner)
    (growIssued : ∀ entry ∈ issued, entry ∈ issued') :
    Serves published slot receiver owners' issued' where
  name := serves.name
  queue := by
    intro procno handle isQueue
    obtain ⟨owner, isOwner, rest⟩ := serves.queue procno handle isQueue
    exact ⟨owner, growOwners handle owner isOwner, rest⟩
  handles := by
    intro procno handle isHandle
    obtain ⟨owner, isOwner, rest⟩ := serves.handles procno handle isHandle
    exact ⟨owner, growOwners handle owner isOwner, rest⟩
  created := by
    intro subscriber message isTask
    obtain ⟨handle, owner, isQueue, isOwner, same⟩ :=
      serves.created subscriber message isTask
    exact ⟨handle, owner, isQueue, growOwners handle owner isOwner, same⟩
  ready := serves.ready
  task := by
    intro subscriber isTask
    obtain ⟨pid, isIssued⟩ := serves.task subscriber isTask
    exact ⟨pid, growIssued _ isIssued⟩

namespace Served

/-- A generation is issued. -/
theorem mono
    (served : Served slots receivers owners issued)
    (growIssued : ∀ entry ∈ issued, entry ∈ issued') :
    Served slots receivers owners issued' where
  serves := fun slot receiver isReceiver =>
    (served.serves slot receiver isReceiver).mono (fun _ _ => id) growIssued
  live := served.live
  owned := by
    intro handle owner isOwner
    obtain ⟨pid, isIssued⟩ := served.owned handle owner isOwner
    exact ⟨pid, growIssued _ isIssued⟩

/-- A receiver is replaced, with its slot. -/
theorem update
    (served : Served slots receivers owners issued)
    (serves : Serves published slot receiver owners' issued)
    (growOwners : ∀ handle owner, owners handle = some owner →
      owners' handle = some owner)
    (owned : ∀ handle owner, owners' handle = some owner →
      ∃ pid, (pid, owner.subscriber) ∈ issued) :
    Served (Function.update slots slot published)
      (Function.update receivers slot (some receiver)) owners' issued where
  serves := by
    intro other second isSecond
    obtain ⟨rfl, rfl⟩ | ⟨different, wasSecond⟩ := update_some_cases isSecond
    · rw [Function.update_self]
      exact serves
    · rw [Function.update_of_ne different]
      exact (served.serves other second wasSecond).mono growOwners fun _ => id
  live := by
    intro other sender isName
    rcases eq_or_ne other slot with rfl | different
    · exact ⟨receiver, Function.update_self ..⟩
    · rw [Function.update_of_ne different] at isName ⊢
      exact served.live other sender isName
  owned := owned

/-- Only what a receiver is doing changes. -/
theorem setReceiver
    (served : Served slots receivers owners issued)
    (serves : Serves (slots slot) slot receiver owners issued) :
    Served slots (Function.update receivers slot (some receiver))
      owners issued := by
  have updated := served.update serves (fun _ _ => id) served.owned
  rwa [Function.update_eq_self] at updated

/-- A receiver exits. -/
theorem exit
    (served : Served slots receivers owners issued)
    (noName : published.name = none) :
    Served (Function.update slots slot published)
      (Function.update receivers slot none)
      owners issued where
  serves := by
    intro other second isSecond
    obtain ⟨different, wasSecond⟩ := update_none_cases isSecond
    rw [Function.update_of_ne different]
    exact served.serves other second wasSecond
  live := by
    intro other sender isName
    rcases eq_or_ne other slot with rfl | different
    · rw [Function.update_self, noName] at isName
      exact nomatch isName
    · rw [Function.update_of_ne different] at isName ⊢
      exact served.live other sender isName
  owned := served.owned

end Served

namespace Serves

/-- Outside of a creation the queue is that of the published generation. -/
theorem queue_published
    (serves : Serves published slot receiver owners issued) {procno handle : ℕ}
    (isQueue : receiver.mqHandles procno = some handle)
    (notCreated : ∀ subscriber message, subscriber.procno = procno →
      receiver.task ≠ .created subscriber message) :
    ∃ owner, owners handle = some owner ∧ owner.slot = slot ∧
      owner.sender = receiver.sender ∧
      owner.subscriber =
        { procno := procno, procnoGen := published.procnoGens procno } := by
  obtain ⟨owner, isOwner, isSlot, isSender, isProcno,
      isGen | ⟨message, isCreated⟩⟩ :=
    serves.queue procno handle isQueue
  · refine ⟨owner, isOwner, isSlot, isSender, ?_⟩
    rw [← isGen, ← isProcno]
  · exact absurd isCreated (notCreated _ message isProcno)

/-- A receiver takes up a task that is neither a creation nor a good queue. -/
theorem setTask
    (serves : Serves published slot receiver owners issued) {task : Task}
    (notCreated : ∀ subscriber message,
      receiver.task ≠ .created subscriber message)
    (begins : ∀ subscriber message, task ≠ .created subscriber message)
    (ready : ∀ subscriber message, task = .ready subscriber message →
      (∃ handle, receiver.mqHandles subscriber.procno = some handle) ∧
        published.procnoGens subscriber.procno = subscriber.procnoGen)
    (isIssued : ∀ subscriber, task.subscriber? = some subscriber →
      ∃ pid, (pid, subscriber) ∈ issued) :
    Serves published slot { receiver with task := task } owners issued where
  name := serves.name
  queue := by
    intro procno handle isQueue
    obtain ⟨owner, isOwner, isSlot, isSender, isSubscriber⟩ :=
      serves.queue_published isQueue fun subscriber message _ =>
        notCreated subscriber message
    exact ⟨owner, isOwner, isSlot, isSender, by rw [isSubscriber],
      Or.inl (by rw [isSubscriber])⟩
  handles := serves.handles
  created :=
    fun subscriber message isTask => absurd isTask (begins subscriber message)
  ready := ready
  task := isIssued

/-- The previous segment is released. -/
theorem release
    (serves : Serves published slot receiver owners issued)
    (isTask : receiver.task = .found subscriber message) :
    Serves published slot
      { receiver with
        mqHandles := Function.update receiver.mqHandles subscriber.procno none
        task := .released subscriber message } owners issued := by
  have began : Serves published slot { receiver with
      task := .released subscriber message } owners issued :=
    serves.setTask (fun _ _ same => nomatch isTask.symm.trans same)
      (fun _ _ => nofun) (fun _ _ => nofun) fun other same =>
        serves.task other (isTask ▸ same)
  constructor
  case name => exact began.name
  case queue =>
    intro procno handle isQueue
    exact began.queue procno handle (update_none_cases isQueue).2
  case handles => exact began.handles
  case created => exact fun _ _ => nofun
  case ready => exact fun _ _ => nofun
  case task => exact began.task

/-- A queue is created for the subscription. -/
theorem create
    (serves : Serves published slot receiver owners issued)
    (isTask : receiver.task = .released subscriber message) {handle : ℕ}
    (isFree : owners handle = none) :
    Serves published slot
      { receiver with
        mqHandles :=
          Function.update receiver.mqHandles subscriber.procno (some handle)
        task := .created subscriber message }
      (Function.update owners handle
        (some { slot := slot, sender := receiver.sender,
                subscriber := subscriber }))
      issued := by
  have grown : Serves published slot receiver
      (Function.update owners handle
        (some { slot := slot, sender := receiver.sender,
                subscriber := subscriber }))
      issued :=
    serves.mono (fun _ _ => update_of_free isFree) fun _ => id
  constructor
  case name => exact grown.name
  case queue =>
    intro procno other isQueue
    dsimp only at isQueue
    obtain ⟨rfl, rfl⟩ | ⟨-, wasQueue⟩ := update_some_cases isQueue
    · exact ⟨_, Function.update_self .., rfl, rfl, rfl, Or.inr ⟨message, rfl⟩⟩
    · obtain ⟨owner, isOwner, isSlot, isSender, isSubscriber⟩ :=
        grown.queue_published wasQueue fun _ _ _ same =>
          nomatch isTask.symm.trans same
      exact ⟨owner, isOwner, isSlot, isSender, by rw [isSubscriber],
        Or.inl (by rw [isSubscriber])⟩
  case handles => exact grown.handles
  case created =>
    intro other second isCreated
    obtain ⟨rfl, rfl⟩ := Task.created.inj isCreated
    exact ⟨handle, _, Function.update_self .., Function.update_self .., rfl⟩
  case ready => exact fun _ _ => nofun
  case task =>
    intro other isSubscriber
    exact serves.task other (isTask ▸ isSubscriber)

/-- The queue is published. -/
theorem publish
    (serves : Serves published slot receiver owners issued)
    (isTask : receiver.task = .created subscriber message) :
    Serves
      { published with
        handles := Function.update published.handles subscriber.procno
          (receiver.mqHandles subscriber.procno)
        procnoGens := Function.update published.procnoGens subscriber.procno
          subscriber.procnoGen }
      slot { receiver with task := .ready subscriber message } owners issued := by
  obtain ⟨handle, owner, isQueue, isOwner, rfl⟩ :=
    serves.created subscriber message isTask
  obtain ⟨same, isSame, isSlot, isSender, -, -⟩ := serves.queue _ handle isQueue
  obtain rfl := Option.some.inj (isOwner.symm.trans isSame)
  constructor
  case name => exact serves.name
  case queue =>
    intro procno other isOther
    dsimp only at isOther ⊢
    rcases eq_or_ne procno owner.subscriber.procno with rfl | different
    · obtain rfl := Option.some.inj (isQueue.symm.trans isOther)
      refine ⟨owner, isOwner, isSlot, isSender, rfl, Or.inl ?_⟩
      rw [Function.update_self]
    · obtain ⟨second, isSecond, secondSlot, secondSender, secondSubscriber⟩ :=
        serves.queue_published isOther fun other message isProcno isCreated => by
          obtain ⟨rfl, -⟩ := Task.created.inj (isTask.symm.trans isCreated)
          exact different isProcno.symm
      refine ⟨second, isSecond, secondSlot,
        secondSender, by rw [secondSubscriber], Or.inl ?_⟩
      rw [Function.update_of_ne different, secondSubscriber]
  case handles =>
    intro procno other isHandle
    dsimp only at isHandle ⊢
    rcases eq_or_ne procno owner.subscriber.procno with rfl | different
    · rw [Function.update_self, isQueue] at isHandle
      obtain rfl := Option.some.inj isHandle
      rw [Function.update_self]
      exact ⟨owner, isOwner, isSender, rfl⟩
    · rw [Function.update_of_ne different] at isHandle
      rw [Function.update_of_ne different]
      exact serves.handles procno other isHandle
  case created => exact fun _ _ => nofun
  case ready =>
    intro other second isReady
    obtain ⟨rfl, rfl⟩ := Task.ready.inj isReady
    exact ⟨⟨handle, isQueue⟩, Function.update_self ..⟩
  case task =>
    intro other isSubscriber
    exact serves.task other (isTask ▸ isSubscriber)

end Serves

end

end Routing
end Multimaster
