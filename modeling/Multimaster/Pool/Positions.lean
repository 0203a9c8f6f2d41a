import Multimaster.Pool.Fifo

/-!
# The positions of the queue

Whatever is pushed and popped, also after a push that filled the queue exactly,
the head and the tail stay word-aligned inside the buffer and nothing is written
or read outside of it.  The receiver chooses the layout of a message from the
tail, a worker chooses it again from the head when the message comes to be read:
the two choices agree.
-/

namespace Multimaster
namespace Pool

/-! ## Layouts -/

/-- How a message lies in the buffer. -/
inductive Layout
  /-- In one piece behind the size word. -/
  | straight
  /-- The size word at the end, the rest at the beginning. -/
  | wrapped
  deriving DecidableEq

/-- Where the position in the list of transactions stands, from the place of the
size word. -/
def Layout.txlistPos (place : ℕ) : Layout → ℕ
  | .straight => place + 4
  | .wrapped => 0

/-- Where the work stands. -/
def Layout.work (place : ℕ) : Layout → ℕ
  | .straight => place + 2 * 4
  | .wrapped => 4

/-- The choice of `BgwPoolExecute`. -/
def Queue.writeLayout (queue : Queue) (message : Message) : Layout :=
  if message.len ≤ queue.size - queue.tail then .straight else .wrapped

/-- The size that a worker reads at the head. -/
def Queue.readSize (queue : Queue) : ℕ :=
  (queue.memory.loadWord queue.head).toNat

/-- The choice of `BgwPoolMainLoop`. -/
def Queue.readLayout (queue : Queue) : Layout :=
  if queue.size < queue.head + msgLen queue.readSize then .wrapped else .straight

/-- A push writes where its layout says. -/
theorem Queue.push_memory (queue : Queue) (message : Message) :
    (queue.push message).memory =
      ((queue.memory.storeWord queue.tail
        (BitVec.ofNat 32 message.work.length)).storeWord
          ((queue.writeLayout message).txlistPos queue.tail)
          message.txlistPos).store
        ((queue.writeLayout message).work queue.tail) message.work := by
  simp only [Queue.push, Queue.writeLayout]
  split <;> rfl

/-- A worker reads where its layout says. -/
theorem Queue.front_eq (queue : Queue) :
    queue.front =
      { txlistPos := queue.memory.loadWord (queue.readLayout.txlistPos queue.head)
        work := queue.memory.load (queue.readLayout.work queue.head)
          queue.readSize } := by
  by_cases wraps : queue.size < queue.head + msgLen queue.readSize
  · have isLayout : queue.readLayout = .wrapped := if_pos wraps
    rw [isLayout]
    exact if_pos wraps
  · have isLayout : queue.readLayout = .straight := if_neg wraps
    rw [isLayout]
    exact if_neg wraps

/-! ## Runs -/

/-- The queue, with the last message whose size word was written at a place and
the layout it was given. -/
structure Ring where
  queue : Queue
  written : ℕ → Option (Message × Layout)

/-- The steps of the queue. -/
def RingEnabled (ring : Ring) : Action → Prop
  | .push message =>
      message.work.length < 2 ^ 31 ∧ message.len ≤ ring.queue.size ∧
        ring.queue.HasRoom message
  | .pop => ring.queue.head ≠ ring.queue.tail

/-- The state after a push or a pop. -/
def ringEffect (ring : Ring) : Action → Ring
  | .push message =>
      { queue := ring.queue.push message
        written := Function.update ring.written ring.queue.tail
          (some (message, ring.queue.writeLayout message)) }
  | .pop => { ring with queue := ring.queue.pop }

/-- A queue of any size. -/
def ringMachine (size : ℕ) (memory : Memory) : Machine Ring Action where
  init :=
    { queue := { memory := memory, head := 0, tail := 0, size := size }
      written := fun _ => none }
  Enabled := RingEnabled
  effect := ringEffect

/-- What a push may rely on. -/
structure PushInBounds (queue : Queue) (message : Message) : Prop where
  sizeWord : queue.tail + 4 ≤ queue.size
  txlistPos : (queue.writeLayout message).txlistPos queue.tail + 4 ≤ queue.size
  work : (queue.writeLayout message).work queue.tail +
    message.work.length ≤ queue.size
  /-- Nothing behind the buffer is written. -/
  outside : ∀ address, queue.size ≤ address →
    (queue.push message).memory address = queue.memory address

/-- What a pop may rely on. -/
structure PopInBounds (ring : Ring) : Prop where
  sizeWord : ring.queue.head + 4 ≤ ring.queue.size
  /-- The assertion on the size. -/
  size : ring.queue.readSize < ring.queue.size
  txlistPos : ring.queue.readLayout.txlistPos ring.queue.head + 4 ≤
    ring.queue.size
  work : ring.queue.readLayout.work ring.queue.head + ring.queue.readSize ≤
    ring.queue.size
  /-- Nothing behind the buffer is read. -/
  inside : ∀ other : Memory,
    (∀ address < ring.queue.size, other address = ring.queue.memory address) →
      ({ ring.queue with memory := other } : Queue).front = ring.queue.front
  /-- The message and its layout are those of the writer. -/
  agrees : ring.written ring.queue.head =
    some (ring.queue.front, ring.queue.readLayout)

/-- The positions are aligned and inside, and so is all that is written and
read. -/
structure RingInBounds (ring : Ring) : Prop where
  headAligned : ring.queue.head % 4 = 0
  tailAligned : ring.queue.tail % 4 = 0
  head : ring.queue.head < ring.queue.size
  tail : ring.queue.tail < ring.queue.size
  sizeWord : ring.queue.tail + 4 ≤ ring.queue.size
  push : ∀ message, RingEnabled ring (.push message) →
    PushInBounds ring.queue message
  pop : RingEnabled ring .pop → PopInBounds ring
  /-- No sum of the code exceeds a `size_t`. -/
  sums : ring.queue.size < 2 ^ 63 →
    (∀ message, RingEnabled ring (.push message) →
      ring.queue.tail + message.len < 2 ^ 64) ∧
    (RingEnabled ring .pop →
      ring.queue.head + msgLen ring.queue.readSize < 2 ^ 64)

/-! ## The invariant -/

/-- The layout of a message at a place. -/
def layoutAt (size place len : ℕ) : Layout :=
  if size < place + len then .wrapped else .straight

/-- The messages that can be popped, each with what was recorded of it. -/
structure Followed (ring : Ring) (alive : State) : Prop where
  sameQueue : alive.queue = ring.queue
  queue : Invariant alive
  positive : 0 < ring.queue.size
  written : ∀ entry ∈ alive.pending, ring.written entry.1 =
    some (entry.2, layoutAt ring.queue.size entry.1 entry.2.len)

variable {ring : Ring} {alive : State}

theorem Queue.writeLayout_eq
    {queue : Queue} (inside : queue.tail < queue.size) (message : Message) :
    queue.writeLayout message = layoutAt queue.size queue.tail message.len := by
  simp only [Queue.writeLayout, layoutAt]
  by_cases wraps : queue.size < queue.tail + message.len
  · rw [if_pos wraps, if_neg (by omega)]
  · rw [if_neg wraps, if_pos (by omega)]

theorem Queue.readLayout_of_stored
    {queue : Queue} {message : Message}
    (stored : Stored queue.memory queue.size (queue.head, message))
    (short : message.work.length < 2 ^ 31) :
    queue.readSize = message.work.length ∧
      queue.readLayout = layoutAt queue.size queue.head message.len := by
  have isSize : queue.readSize = message.work.length := stored.length short
  refine ⟨isSize, ?_⟩
  rw [Queue.readLayout, isSize]
  rfl

/-- No message begins at the tail. -/
theorem Chain.place_ne_tail
    {memory : Memory} {size tail position : ℕ} {entries : List (ℕ × Message)}
    (chain : Chain memory size tail position entries)
    {entry : ℕ × Message} (isEntry : entry ∈ entries) :
    entry.1 ≠ tail := by
  induction entries generalizing position with
  | nil => cases isEntry
  | cons first rest inductionHypothesis =>
      obtain ⟨isPlace, _, _, fits, _, later⟩ := chain
      rcases List.mem_cons.mp isEntry with rfl | isLater
      · unfold Fits at fits
        omega
      · exact inductionHypothesis later isLater

theorem Followed.start
    {size : ℕ} (positive : 0 < size) (aligned : size % 4 = 0) (memory : Memory) :
    Followed (ringMachine size memory).init
      { queue := { memory := memory, head := 0, tail := 0, size := size }
        pushed := []
        popped := [] } where
  sameQueue := rfl
  queue := Invariant.start aligned memory
  positive := positive
  written := fun _ isEntry => by cases isEntry

theorem Followed.inside (followed : Followed ring alive) :
    ring.queue.head < ring.queue.size ∧ ring.queue.tail < ring.queue.size := by
  have inside := followed.queue.inside
  rw [followed.sameQueue] at inside
  exact inside followed.positive

theorem Followed.push
    (followed : Followed ring alive) {message : Message}
    (enabled : RingEnabled ring (.push message)) :
    ∃ alive, Followed (ringEffect ring (.push message)) alive := by
  have canPush : Enabled alive (.push message) := by
    simp only [Enabled, followed.sameQueue]
    exact enabled
  obtain ⟨next, sameQueue, invariant, nowPending⟩ :=
    followed.queue.push_alive canPush
  refine ⟨next, ?_⟩
  constructor
  · rw [sameQueue, followed.sameQueue]
    rfl
  · exact invariant
  · simpa [ringEffect] using followed.positive
  · intro entry isEntry
    simp only [ringEffect, Queue.push_size]
    rcases nowPending with isNil | isNext
    · rw [isNil] at isEntry
      cases isEntry
    · rw [isNext] at isEntry
      rcases List.mem_append.mp isEntry with isOld | isNew
      · have notTail := followed.queue.chain.place_ne_tail isOld
        rw [followed.sameQueue] at notTail
        rw [Function.update_of_ne notTail]
        exact followed.written entry isOld
      · rw [List.mem_singleton.mp isNew, followed.sameQueue, Function.update_self,
          Queue.writeLayout_eq followed.inside.2]

theorem Followed.pop
    (followed : Followed ring alive) (enabled : RingEnabled ring .pop) :
    Followed (ringEffect ring .pop) (effect alive .pop) := by
  have canPop : Enabled alive .pop := by
    simp only [Enabled, followed.sameQueue]
    exact enabled
  constructor
  · rw [effect_pop, followed.sameQueue]
    rfl
  · exact followed.queue.pop canPop
  · simpa [ringEffect] using followed.positive
  · intro entry isEntry
    rw [pending_pop] at isEntry
    simp only [ringEffect, Queue.pop_size]
    exact followed.written entry (List.mem_of_mem_tail isEntry)

theorem followed_of_reachable
    {size : ℕ} (positive : 0 < size) (aligned : size % 4 = 0) {memory : Memory}
    (reachable : (ringMachine size memory).Reachable Machine.Always ring) :
    ∃ alive, Followed ring alive := by
  let IsFollowed (ring : Ring) : Prop := ∃ alive, Followed ring alive
  have initially : IsFollowed (ringMachine size memory).init :=
    ⟨_, Followed.start positive aligned memory⟩
  refine Machine.Reachable.invariant initially ?_ reachable
  rintro ring action ⟨alive, followed⟩ enabled _
  cases action with
  | push message => exact followed.push enabled
  | pop => exact ⟨_, followed.pop enabled⟩

theorem size_of_reachable
    {size : ℕ} {memory : Memory}
    (reachable : (ringMachine size memory).Reachable Machine.Always ring) :
    ring.queue.size = size := by
  let HasSize (ring : Ring) : Prop := ring.queue.size = size
  have initially : HasSize (ringMachine size memory).init := rfl
  refine Machine.Reachable.invariant initially ?_ reachable
  intro ring action sameSize _ _
  cases action with
  | push message => exact (Queue.push_size ring.queue message).trans sameSize
  | pop => exact (Queue.pop_size ring.queue).trans sameSize

/-! ## Bounds -/

/-- The message at the head. -/
theorem Followed.first
    (followed : Followed ring alive) (enabled : RingEnabled ring .pop) :
    ∃ message : Message, message.work.length < 2 ^ 31 ∧
      ring.queue.head % 4 = 0 ∧
      Fits ring.queue.size ring.queue.tail ring.queue.head message.len ∧
      Stored ring.queue.memory ring.queue.size (ring.queue.head, message) ∧
      ring.written ring.queue.head =
        some (message, layoutAt ring.queue.size ring.queue.head message.len) := by
  have chain := followed.queue.chain
  have written := followed.written
  rw [followed.sameQueue] at chain
  cases isPending : alive.pending with
  | nil =>
      rw [isPending] at chain
      exact absurd chain enabled
  | cons entry rest =>
      rw [isPending] at chain written
      obtain ⟨place, message⟩ := entry
      obtain ⟨rfl, aligned, short, fits, stored, _⟩ := chain
      exact ⟨message, short, aligned, fits, stored, written _ List.mem_cons_self⟩

theorem Followed.headAligned (followed : Followed ring alive) :
    ring.queue.head % 4 = 0 := by
  by_cases isEmpty : ring.queue.head = ring.queue.tail
  · have aligned := followed.queue.aligned
    rwa [followed.sameQueue, ← isEmpty] at aligned
  · obtain ⟨_, _, aligned, _⟩ := followed.first isEmpty
    exact aligned

/-- A message ends inside the buffer, whichever way it is laid out. -/
theorem layoutAt_inside
    {size : ℕ} {message : Message} (bounded : message.len - 4 ≤ size)
    (place : ℕ) :
    (layoutAt size place message.len).txlistPos place + 4 ≤ size ∧
      (layoutAt size place message.len).work place +
        message.work.length ≤ size := by
  have enough := work_length_add_le_len message
  have nonempty := eight_le_len message
  simp only [layoutAt]
  split
  · simp only [Layout.txlistPos, Layout.work]
    omega
  · simp only [Layout.txlistPos, Layout.work]
    omega

theorem Followed.pushInBounds
    (followed : Followed ring alive)
    (sizeWord : ring.queue.tail + 4 ≤ ring.queue.size)
    {message : Message} (enabled : RingEnabled ring (.push message)) :
    PushInBounds ring.queue message := by
  obtain ⟨_, bounded, _⟩ := enabled
  have isLayout := Queue.writeLayout_eq followed.inside.2 message
  obtain ⟨txlistPos, work⟩ :=
    layoutAt_inside (Nat.le_trans (Nat.sub_le _ 4) bounded) ring.queue.tail
  rw [← isLayout] at txlistPos work
  refine ⟨sizeWord, txlistPos, work, ?_⟩
  intro address outside
  rw [Queue.push_memory, Memory.store_apply_of_outside (by omega),
    Memory.storeWord_apply_of_outside (by omega),
    Memory.storeWord_apply_of_outside (by omega)]

/-- Bytes behind the buffer do not matter to a pop in bounds. -/
theorem Queue.front_congr
    {queue : Queue} {other : Memory}
    (same : ∀ address < queue.size, other address = queue.memory address)
    (sizeWord : queue.head + 4 ≤ queue.size)
    (txlistPos : queue.readLayout.txlistPos queue.head + 4 ≤ queue.size)
    (work : queue.readLayout.work queue.head + queue.readSize ≤ queue.size) :
    ({ queue with memory := other } : Queue).front = queue.front := by
  have sameWord : ∀ start, start + 4 ≤ queue.size →
      other.loadWord start = queue.memory.loadWord start := by
    intro start inside
    exact Memory.loadWord_congr fun address _ below => same address (by omega)
  have sameSize : ({ queue with memory := other } : Queue).readSize =
      queue.readSize :=
    congrArg BitVec.toNat (sameWord queue.head sizeWord)
  have sameLayout :
      ({ queue with memory := other } : Queue).readLayout = queue.readLayout := by
    simp only [Queue.readLayout, sameSize]
  rw [Queue.front_eq, Queue.front_eq, sameSize, sameLayout]
  dsimp only
  rw [sameWord _ txlistPos]
  congr 1
  exact Memory.load_congr fun address _ below => same address (by omega)

theorem Followed.popInBounds
    (followed : Followed ring alive) (enabled : RingEnabled ring .pop) :
    PopInBounds ring := by
  obtain ⟨message, short, aligned, fits, stored, written⟩ :=
    followed.first enabled
  obtain ⟨isSize, isLayout⟩ := Queue.readLayout_of_stored stored short
  have enough := work_length_add_le_len message
  have isFront := Queue.front_of_stored stored short
  have sizeAligned := followed.queue.sizeAligned
  rw [followed.sameQueue] at sizeAligned
  have inside := followed.inside
  have bounded : message.len - 4 ≤ ring.queue.size := by
    unfold Fits at fits
    omega
  obtain ⟨txlistPos, work⟩ := layoutAt_inside bounded ring.queue.head
  have sizeWord : ring.queue.head + 4 ≤ ring.queue.size := by omega
  rw [← isLayout] at txlistPos work
  rw [← isSize] at work
  refine ⟨sizeWord, ?_, txlistPos, work, ?_, ?_⟩
  · omega
  · intro other same
    exact Queue.front_congr same sizeWord txlistPos work
  · rw [isFront, isLayout]
    exact written

/-- The sums of the code are those of natural numbers. -/
theorem Followed.sums
    (followed : Followed ring alive) (small : ring.queue.size < 2 ^ 63) :
    (∀ message, RingEnabled ring (.push message) →
      ring.queue.tail + message.len < 2 ^ 64) ∧
    (RingEnabled ring .pop →
      ring.queue.head + msgLen ring.queue.readSize < 2 ^ 64) := by
  have inside := followed.inside
  constructor
  · rintro message ⟨_, bounded, _⟩
    omega
  · intro enabled
    obtain ⟨message, short, _, _, stored, _⟩ := followed.first enabled
    rw [(Queue.readLayout_of_stored stored short).1]
    simp only [msgLen, maxAlign]
    omega

/-- In every run of pushes and pops the positions stay in bounds, and a worker
finds every message where and as the receiver put it. -/
theorem ring_in_bounds
    {size : ℕ} (positive : 0 < size) (aligned : size % 4 = 0) {memory : Memory}
    {ring : Ring}
    (reachable : (ringMachine size memory).Reachable Machine.Always ring) :
    ring.queue.size = size ∧ RingInBounds ring := by
  obtain ⟨alive, followed⟩ := followed_of_reachable positive aligned reachable
  have sizeAligned := followed.queue.sizeAligned
  have tailAligned := followed.queue.aligned
  rw [followed.sameQueue] at sizeAligned tailAligned
  obtain ⟨head, tail⟩ := followed.inside
  have sizeWord : ring.queue.tail + 4 ≤ ring.queue.size := by omega
  refine ⟨size_of_reachable reachable, ?_⟩
  exact
    { headAligned := followed.headAligned
      tailAligned := tailAligned
      head := head
      tail := tail
      sizeWord := sizeWord
      push := fun _ enabled => followed.pushInBounds sizeWord enabled
      pop := followed.popInBounds
      sums := followed.sums }

section Schedules

variable {size : ℕ} {memory : Memory}

instance (ring : Ring) (action : Action) :
    Decidable ((ringMachine size memory).Enabled ring action) :=
  match action with
  | .push _ => inferInstanceAs (Decidable (_ ∧ _ ∧ _))
  | .pop => inferInstanceAs (Decidable (_ ≠ _))

end Schedules

/-- The first two transactions fill the queue exactly and are lost; the last one
wraps. -/
def refilled : List Action :=
  [.push (transaction 0 24), .push (transaction 1 8),
    .push (transaction 2 24), .push (transaction 3 0), .pop,
    .push (transaction 4 16), .pop]

theorem refilled_completes :
    ((ringMachine 48 fun _ => 0).execute Machine.Always
      (ringMachine 48 fun _ => 0).init refilled).isSome = true := by
  decide +kernel

theorem ring_in_bounds_refilled :
    let ring := ((ringMachine 48 fun _ => 0).execute Machine.Always
      (ringMachine 48 fun _ => 0).init refilled).get refilled_completes
    RingInBounds ring ∧ ring.queue.head = 40 ∧ ring.queue.tail = 20 ∧
      ring.queue.front = transaction 4 16 ∧ ring.queue.readLayout = .wrapped := by
  intro ring
  obtain ⟨_, inBounds⟩ := ring_in_bounds (by decide) (by decide)
    (Machine.reachable_of_execute refilled refilled_completes)
  exact ⟨inBounds, by decide +kernel, by decide +kernel, by decide +kernel,
    by decide +kernel⟩

end Pool
end Multimaster
