import Multimaster.Routing.Attached

/-!
# The messages sent and received

What a process receives from a queue is a prefix of what was put into it, in the
order of arrival, and it was put there for the generation of this process.
-/

namespace Multimaster
namespace Routing

open Subscription

/-- The messages put into a queue. -/
def sentTo (sent : List (ℕ × Message)) (handle : ℕ) : List Message :=
  (sent.filter fun entry => entry.1 == handle).map Prod.snd

/-- The messages received from a queue. -/
def receivedFrom (received : List Reception) (handle : ℕ) : List Message :=
  (received.filter fun entry => entry.handle == handle).map Reception.message

/-- The message that a receiver is handing over. -/
def Task.message? : Task → Option Message
  | .idle => none
  | .found _ message | .released _ message | .created _ message
  | .ready _ message => message

/-- What was sent and received. -/
structure Logged
    (receivers : Slot → Option Receiver) (owners : ℕ → Option Owner)
    (queues : ℕ → List Message) (arrivals : Slot → ℕ) (sent : List (ℕ × Message))
    (received : List Reception) (issued : List (ℕ × Subscriber)) : Prop where
  order : ∀ handle,
    sentTo sent handle = receivedFrom received handle ++ queues handle
  routed : ∀ entry ∈ sent, ∃ owner, owners entry.1 = some owner ∧
    owner.slot = entry.2.slot ∧ owner.subscriber = entry.2.subscriber
  number : ∀ entry ∈ sent, entry.2.number < arrivals entry.2.slot
  pending : ∀ slot receiver message, receivers slot = some receiver →
    receiver.task.message? = some message →
    message.slot = slot ∧ message.number < arrivals slot ∧
      receiver.task.subscriber? = some message.subscriber ∧
      ∀ entry ∈ sent, entry.2.slot = slot → entry.2.number < message.number
  sorted : sent.Pairwise fun first second =>
    first.2.slot = second.2.slot → first.2.number < second.2.number
  reader : ∀ entry ∈ received, (entry.pid, entry.message.subscriber) ∈ issued

namespace Logged

variable {receivers : Slot → Option Receiver} {owners owners' : ℕ → Option Owner}
variable {queues : ℕ → List Message} {arrivals : Slot → ℕ}
  {sent : List (ℕ × Message)}
variable {received : List Reception} {issued issued' : List (ℕ × Subscriber)}
variable {slot : Slot} {receiver next : Receiver} {handle : ℕ} {message : Message}

/-- Segments and generations only come in addition. -/
theorem mono
    (logged : Logged receivers owners queues arrivals sent received issued)
    (growOwners : ∀ handle owner, owners handle = some owner →
      owners' handle = some owner)
    (growIssued : ∀ entry ∈ issued, entry ∈ issued') :
    Logged receivers owners' queues arrivals sent received issued' where
  order := logged.order
  routed := by
    intro entry isEntry
    obtain ⟨owner, isOwner, rest⟩ := logged.routed entry isEntry
    exact ⟨owner, growOwners entry.1 owner isOwner, rest⟩
  number := logged.number
  pending := logged.pending
  sorted := logged.sorted
  reader := fun entry isEntry => growIssued _ (logged.reader entry isEntry)

/-- A receiver starts, exits or goes on with a message. -/
theorem setReceiver
    (logged : Logged receivers owners queues arrivals sent received issued)
    {receiver : Option Receiver}
    (goesOn : ∀ next message, receiver = some next →
      next.task.message? = some message →
      ∃ before, receivers slot = some before ∧
        before.task.message? = some message ∧
        before.task.subscriber? = next.task.subscriber?) :
    Logged (Function.update receivers slot receiver)
      owners queues arrivals sent received
      issued where
  order := logged.order
  routed := logged.routed
  number := logged.number
  pending := by
    intro other second message isSecond isMessage
    rcases eq_or_ne other slot with rfl | different
    · rw [Function.update_self] at isSecond
      obtain ⟨before, isBefore, wasMessage, sameSubscriber⟩ :=
        goesOn second message isSecond isMessage
      rw [← sameSubscriber]
      exact logged.pending other before message isBefore wasMessage
    · rw [Function.update_of_ne different] at isSecond
      exact logged.pending other second message isSecond isMessage
  sorted := logged.sorted
  reader := logged.reader

/-- A message arrives. -/
theorem count
    (logged : Logged receivers owners queues arrivals sent received issued)
    (slot : Slot) :
    Logged receivers owners queues
      (Function.update arrivals slot (arrivals slot + 1)) sent
      received issued := by
  have grow : ∀ other, arrivals other ≤
      Function.update arrivals slot (arrivals slot + 1) other := by
    intro other
    rcases eq_or_ne other slot with rfl | different
    · rw [Function.update_self]
      exact Nat.le_succ _
    · rw [Function.update_of_ne different]
  constructor
  case order => exact logged.order
  case routed => exact logged.routed
  case number =>
    intro entry isEntry
    exact Nat.lt_of_lt_of_le (logged.number entry isEntry) (grow _)
  case pending =>
    intro other second message isSecond isMessage
    obtain ⟨isSlot, isNumber, rest⟩ :=
      logged.pending other second message isSecond isMessage
    exact ⟨isSlot, Nat.lt_of_lt_of_le isNumber (grow other), rest⟩
  case sorted => exact logged.sorted
  case reader => exact logged.reader

/-- The message that has arrived is taken up. -/
theorem takeUp
    (logged : Logged receivers owners queues arrivals sent received issued)
    (isMessage : next.task.message? = some message)
    (isSubscriber : next.task.subscriber? = some message.subscriber)
    (isSlot : message.slot = slot) (isNumber : message.number = arrivals slot) :
    Logged (Function.update receivers slot (some next)) owners queues
      (Function.update arrivals slot (arrivals slot + 1))
        sent received issued := by
  have counted := logged.count slot
  constructor
  case order => exact counted.order
  case routed => exact counted.routed
  case number => exact counted.number
  case pending =>
    intro other second otherMessage isSecond isOther
    obtain ⟨rfl, rfl⟩ | ⟨-, wasSecond⟩ := update_some_cases isSecond
    · rw [Function.update_self]
      obtain rfl := Option.some.inj (isMessage.symm.trans isOther)
      refine ⟨isSlot, by omega, isSubscriber, ?_⟩
      intro entry isEntry sameSlot
      rw [isNumber, ← sameSlot]
      exact logged.number entry isEntry
    · exact counted.pending other second otherMessage wasSecond isOther
  case sorted => exact counted.sorted
  case reader => exact counted.reader

/-- The message is put into a queue of its subscriber. -/
theorem send
    (logged : Logged receivers owners queues arrivals sent received issued)
    (isReceiver : receivers slot = some receiver)
    (isMessage : receiver.task.message? = some message)
    (done : next.task.message? = none) {owner : Owner}
    (isOwner : owners handle = some owner) (isSlot : owner.slot = slot)
    (isSubscriber : owner.subscriber = message.subscriber) :
    Logged (Function.update receivers slot (some next)) owners
      (Function.update queues handle (queues handle ++ [message])) arrivals
      (sent ++ [(handle, message)]) received issued := by
  obtain ⟨messageSlot, isNumber, -, later⟩ :=
    logged.pending slot receiver message isReceiver isMessage
  constructor
  case order =>
    intro other
    have appended : sentTo (sent ++ [(handle, message)]) other =
        sentTo sent other ++ sentTo [(handle, message)] other := by
      rw [sentTo, List.filter_append, List.map_append]
      rfl
    rw [appended, logged.order]
    rcases eq_or_ne other handle with rfl | different
    · rw [Function.update_self, List.append_assoc]
      simp [sentTo]
    · rw [Function.update_of_ne different]
      simp [sentTo, different.symm]
  case routed =>
    intro entry isEntry
    rcases List.mem_append.mp isEntry with wasEntry | isNew
    · exact logged.routed entry wasEntry
    · obtain rfl := List.mem_singleton.mp isNew
      exact ⟨owner, isOwner, isSlot.trans messageSlot.symm, isSubscriber⟩
  case number =>
    intro entry isEntry
    rcases List.mem_append.mp isEntry with wasEntry | isNew
    · exact logged.number entry wasEntry
    · obtain rfl := List.mem_singleton.mp isNew
      rw [messageSlot]
      exact isNumber
  case pending =>
    intro other second otherMessage isSecond isOther
    obtain ⟨rfl, rfl⟩ | ⟨different, wasSecond⟩ := update_some_cases isSecond
    · exact nomatch done.symm.trans isOther
    · obtain ⟨otherSlot, otherNumber, otherSubscriber, otherLater⟩ :=
        logged.pending other second otherMessage wasSecond isOther
      refine ⟨otherSlot, otherNumber, otherSubscriber, ?_⟩
      intro entry isEntry sameSlot
      rcases List.mem_append.mp isEntry with wasEntry | isNew
      · exact otherLater entry wasEntry sameSlot
      · obtain rfl := List.mem_singleton.mp isNew
        exact absurd (sameSlot.symm.trans messageSlot) different
  case sorted =>
    rw [List.pairwise_append]
    refine ⟨logged.sorted, List.pairwise_singleton _ _, ?_⟩
    intro entry isEntry last isLast sameSlot
    obtain rfl := List.mem_singleton.mp isLast
    exact later entry isEntry (sameSlot.trans messageSlot)
  case reader => exact logged.reader

/-- The first message of a queue is received. -/
theorem receive
    (logged : Logged receivers owners queues arrivals sent received issued)
    {rest : List Message} {pid : ℕ} (isQueue : queues handle = message :: rest)
    (isReader : (pid, message.subscriber) ∈ issued) :
    Logged receivers owners (Function.update queues handle rest) arrivals sent
      (received ++ [{ pid := pid, handle := handle, message := message }])
        issued where
  order := by
    intro other
    have appended : receivedFrom
        (received ++ [{ pid := pid, handle := handle, message := message }])
          other =
        receivedFrom received other ++
          receivedFrom [{ pid := pid, handle := handle, message := message }]
            other := by
      rw [receivedFrom, List.filter_append, List.map_append]
      rfl
    rw [appended, logged.order]
    rcases eq_or_ne other handle with rfl | different
    · rw [Function.update_self, isQueue]
      simp [receivedFrom]
    · rw [Function.update_of_ne different]
      simp [receivedFrom, different.symm]
  routed := logged.routed
  number := logged.number
  pending := logged.pending
  sorted := logged.sorted
  reader := by
    intro entry isEntry
    rcases List.mem_append.mp isEntry with wasEntry | isNew
    · exact logged.reader entry wasEntry
    · obtain rfl := List.mem_singleton.mp isNew
      exact isReader

/-- The messages of a queue were sent to it. -/
theorem mem_sent
    (logged : Logged receivers owners queues arrivals sent received issued)
    (isQueued : message ∈ queues handle) : (handle, message) ∈ sent := by
  have inSent : message ∈ sentTo sent handle := by
    rw [logged.order]
    exact List.mem_append_right _ isQueued
  obtain ⟨entry, isEntry, rfl⟩ := List.mem_map.mp inSent
  obtain ⟨wasSent, isHandle⟩ := List.mem_filter.mp isEntry
  obtain rfl := beq_iff_eq.mp isHandle
  exact wasSent

/-- A message is put into one queue, once. -/
theorem nodup_sent
    (logged : Logged receivers owners queues arrivals sent received issued) :
    (sent.map Prod.snd).Nodup := by
  rw [List.Nodup, List.pairwise_map]
  refine logged.sorted.imp ?_
  intro first second earlier same
  exact Nat.lt_irrefl _ (same ▸ earlier (congrArg Message.slot same))

/-- The messages of a queue are in the order of their arrival. -/
theorem sorted_sentTo
    (logged : Logged receivers owners queues arrivals sent received issued)
    (handle : ℕ) :
    (sentTo sent handle).Pairwise fun first second =>
      first.number < second.number := by
  rw [sentTo, List.pairwise_map]
  refine List.Pairwise.imp_of_mem ?_ (logged.sorted.filter _)
  intro first second isFirst isSecond earlier
  apply earlier
  obtain ⟨firstSent, firstHandle⟩ := List.mem_filter.mp isFirst
  obtain ⟨secondSent, secondHandle⟩ := List.mem_filter.mp isSecond
  obtain ⟨owner, isOwner, firstSlot, -⟩ := logged.routed first firstSent
  obtain ⟨same, isSame, secondSlot, -⟩ := logged.routed second secondSent
  rw [beq_iff_eq.mp firstHandle] at isOwner
  rw [beq_iff_eq.mp secondHandle] at isSame
  obtain rfl := Option.some.inj (isOwner.symm.trans isSame)
  exact firstSlot.symm.trans secondSlot

/-- What was received from a queue is a prefix of what was put into it. -/
theorem prefix_sentTo
    (logged : Logged receivers owners queues arrivals sent received issued)
    (handle : ℕ) : receivedFrom received handle <+: sentTo sent handle := by
  rw [logged.order]
  exact List.prefix_append _ _

theorem sorted_receivedFrom
    (logged : Logged receivers owners queues arrivals sent received issued)
    (handle : ℕ) :
    (receivedFrom received handle).Pairwise fun first second =>
      first.number < second.number :=
  (logged.sorted_sentTo handle).sublist (logged.prefix_sentTo handle).sublist

/-- Receptions of one message are from one queue. -/
theorem received_handle
    (logged : Logged receivers owners queues arrivals sent received issued)
    {first second : Reception} (isFirst : first ∈ received)
    (isSecond : second ∈ received)
    (same : first.message = second.message) : first.handle = second.handle := by
  have wasSent : ∀ entry ∈ received, (entry.handle, entry.message) ∈ sent := by
    intro entry isEntry
    have inReceived : entry.message ∈ receivedFrom received entry.handle := by
      refine List.mem_map.mpr ⟨entry, List.mem_filter.mpr ⟨isEntry, ?_⟩, rfl⟩
      exact beq_self_eq_true _
    have inSent := (logged.prefix_sentTo entry.handle).subset inReceived
    obtain ⟨source, isSource, isMessage⟩ := List.mem_map.mp inSent
    obtain ⟨isSent, isHandle⟩ := List.mem_filter.mp isSource
    rw [← isMessage, ← beq_iff_eq.mp isHandle]
    exact isSent
  have sameEntry :=
    List.inj_on_of_nodup_map logged.nodup_sent (wasSent first isFirst)
    (wasSent second isSecond) same
  exact congrArg Prod.fst sameEntry

end Logged

/-- Messages that are received once from each queue, and from one queue only, are
received once. -/
theorem nodup_received
    (received : List Reception)
    (once : ∀ handle, (receivedFrom received handle).Nodup)
    (oneQueue : ∀ first ∈ received, ∀ second ∈ received,
      first.message = second.message → first.handle = second.handle) :
    (received.map Reception.message).Nodup := by
  induction received with
  | nil => exact List.nodup_nil
  | cons first rest ih =>
    have shorter : ∀ handle, (receivedFrom rest handle).Sublist
        (receivedFrom (first :: rest) handle) := by
      intro handle
      exact ((List.sublist_cons_self first rest).filter _).map _
    rw [List.map_cons, List.nodup_cons]
    refine ⟨?_, ih (fun handle => (once handle).sublist (shorter handle)) ?_⟩
    · intro again
      obtain ⟨second, isSecond, same⟩ := List.mem_map.mp again
      have sameHandle := oneQueue second (List.mem_cons_of_mem _ isSecond) first
        List.mem_cons_self same
      have isFirst : receivedFrom (first :: rest) first.handle =
          first.message :: receivedFrom rest first.handle := by
        simp [receivedFrom]
      have both := once first.handle
      rw [isFirst, List.nodup_cons] at both
      apply both.1
      rw [← same]
      refine List.mem_map.mpr ⟨second, List.mem_filter.mpr ⟨isSecond, ?_⟩, rfl⟩
      exact beq_iff_eq.mpr sameHandle
    · intro second isSecond third isThird
      exact oneQueue second (List.mem_cons_of_mem _ isSecond) third
        (List.mem_cons_of_mem _ isThird)

end Routing
end Multimaster
