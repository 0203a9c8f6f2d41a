import Multimaster.Pool.Queue

/-!
# The queue is a lossless FIFO unless it is filled exactly

The messages between the head and the tail form a chain of places.  A push that
leaves a gap extends the chain at the tail and writes outside of it; a pop takes
the first message of the chain.  A push that leaves no gap makes a full queue
look empty.
-/

namespace Multimaster
namespace Pool

/-! ## Places in the buffer -/

/-- The place behind a message. -/
def next (size position len : ℕ) : ℕ :=
  if size < position + len then len - 4 else wrap size (position + len)

/-- A message at this place ends before the tail. -/
def Fits (size tail position len : ℕ) : Prop :=
  position < size ∧
    ((position < tail ∧ position + len ≤ tail) ∨
      (tail < position ∧ (position + len ≤ size ∨ len - 4 ≤ tail)))

/-- The bytes from a place up to the tail. -/
def Used (size head tail address : ℕ) : Prop :=
  if head ≤ tail then head ≤ address ∧ address < tail
  else (head ≤ address ∧ address < size) ∨ address < tail

/-- The new tail does not lie between a place and the old tail. -/
def Ahead (position tail newTail : ℕ) : Prop :=
  (position ≤ tail ∧ (tail < newTail ∨ newTail < position)) ∨
    (tail < newTail ∧ newTail < position)

theorem eight_le_len (message : Message) : 8 ≤ message.len := by
  simp [Message.len, msgLen]

theorem work_length_add_le_len (message : Message) :
    message.work.length + 8 ≤ message.len := by
  simp only [Message.len, msgLen, maxAlign]
  omega

theorem len_mod_four (message : Message) : message.len % 4 = 0 := by
  simp only [Message.len, msgLen, maxAlign]
  omega

theorem next_lt
    {size position len : ℕ}
    (nonempty : 8 ≤ len) (bounded : len ≤ size) :
    next size position len < size := by
  simp only [next, wrap]
  split
  · omega
  · split <;> omega

theorem next_mod_four
    {size position len : ℕ}
    (position_mod : position % 4 = 0) (len_mod : len % 4 = 0) :
    next size position len % 4 = 0 := by
  simp only [next, wrap]
  split
  · omega
  · split <;> omega

/-- A tail that moves ahead leaves room for a message that had room. -/
theorem Fits.ahead
    {size tail newTail position len : ℕ}
    (fits : Fits size tail position len)
    (tail_le : tail ≤ size)
    (ahead : Ahead position tail newTail) :
    Fits size newTail position len := by
  unfold Fits Ahead at *
  omega

theorem Fits.ahead_next
    {size tail newTail position len : ℕ}
    (fits : Fits size tail position len)
    (nonempty : 8 ≤ len) (inside : tail < size)
    (ahead : Ahead position tail newTail) :
    Ahead (next size position len) tail newTail := by
  unfold Fits Ahead at *
  simp only [next, wrap]
  split
  · omega
  · split <;> omega

theorem Fits.next_lt
    {size tail position len : ℕ}
    (fits : Fits size tail position len) (inside : tail < size) :
    next size position len < size := by
  unfold Fits at fits
  simp only [next, wrap]
  split
  · omega
  · split <;> omega

/-- What is used behind a message is used from the message on. -/
theorem Fits.used_of_next
    {size tail position len address : ℕ}
    (fits : Fits size tail position len)
    (nonempty : 8 ≤ len) (inside : tail < size)
    (used : Used size (next size position len) tail address) :
    Used size position tail address := by
  unfold Fits at fits
  simp only [Used, next, wrap] at used ⊢
  split_ifs at used ⊢ <;> omega

/-- The tail behind a message that is pushed does not lie in front of the
messages in the queue, unless the queue is filled exactly. -/
theorem Queue.HasRoom.ahead
    {queue : Queue} {message : Message}
    (room : queue.HasRoom message)
    (notExact : ¬ queue.FillsExactly message)
    (inside : queue.tail < queue.size) (headInside : queue.head < queue.size)
    (bounded : message.len ≤ queue.size) :
    Ahead queue.head queue.tail
        (next queue.size queue.tail message.len) ∧
      Fits queue.size (next queue.size queue.tail message.len) queue.tail
        message.len := by
  have nonempty := eight_le_len message
  unfold Queue.HasRoom at room
  unfold Queue.FillsExactly at notExact
  simp only [Ahead, Fits, next, wrap] at *
  split_ifs at notExact ⊢ <;> omega

/-! ## The chain of messages -/

/-- The queue holds a message at a place. -/
def Stored (memory : Memory) (size : ℕ) (entry : ℕ × Message) : Prop :=
  memory.loadWord entry.1 = BitVec.ofNat 32 entry.2.work.length ∧
    if size < entry.1 + entry.2.len then
      memory.loadWord 0 = entry.2.txlistPos ∧
        memory.load 4 entry.2.work.length = entry.2.work
    else
      memory.loadWord (entry.1 + 4) = entry.2.txlistPos ∧
        memory.load (entry.1 + 8) entry.2.work.length = entry.2.work

/-- The messages from a place up to the tail. -/
def Chain (memory : Memory) (size tail : ℕ) :
    ℕ → List (ℕ × Message) → Prop
  | position, [] => position = tail
  | position, entry :: rest =>
      entry.1 = position ∧ position % 4 = 0 ∧
        entry.2.work.length < 2 ^ 31 ∧
        Fits size tail position entry.2.len ∧
        Stored memory size entry ∧
        Chain memory size tail (next size position entry.2.len) rest

/-- The size word of a message is used. -/
theorem Fits.used_sizeWord
    {size tail position len address : ℕ}
    (fits : Fits size tail position len)
    (nonempty : 8 ≤ len)
    (aligned : position % 4 = 0) (sizeAligned : size % 4 = 0)
    (above : position ≤ address) (below : address < position + 4) :
    Used size position tail address := by
  unfold Fits at fits
  unfold Used
  split_ifs <;> omega

/-- The rest of a message at the beginning of the buffer is used. -/
theorem Fits.used_wrapped
    {size tail position len address : ℕ}
    (fits : Fits size tail position len) (inside : tail < size)
    (wraps : size < position + len) (below : address < len - 4) :
    Used size position tail address := by
  unfold Fits at fits
  unfold Used
  split_ifs <;> omega

/-- A message in one piece is used. -/
theorem Fits.used_whole
    {size tail position len address : ℕ}
    (fits : Fits size tail position len)
    (whole : ¬ size < position + len)
    (above : position ≤ address) (below : address < position + len) :
    Used size position tail address := by
  unfold Fits at fits
  unfold Used
  split_ifs <;> omega

/-- A message is kept by writes outside the used bytes. -/
theorem Stored.congr
    {memory other : Memory} {size tail : ℕ} {entry : ℕ × Message}
    (stored : Stored memory size entry)
    (fits : Fits size tail entry.1 entry.2.len) (inside : tail < size)
    (aligned : entry.1 % 4 = 0) (sizeAligned : size % 4 = 0)
    (same : ∀ address, Used size entry.1 tail address →
      memory address = other address) :
    Stored other size entry := by
  have enough := work_length_add_le_len entry.2
  have nonempty := eight_le_len entry.2
  have sizeWord : memory.loadWord entry.1 = other.loadWord entry.1 :=
    Memory.loadWord_congr fun address above below =>
      same address
        (fits.used_sizeWord nonempty aligned sizeAligned above below)
  refine ⟨sizeWord ▸ stored.1, ?_⟩
  have body := stored.2
  split at body
  · next wraps =>
      have position : memory.loadWord 0 = other.loadWord 0 :=
        Memory.loadWord_congr fun address _ below =>
          same address (fits.used_wrapped inside wraps (by omega))
      have work : memory.load 4 entry.2.work.length =
          other.load 4 entry.2.work.length :=
        Memory.load_congr fun address _ below =>
          same address (fits.used_wrapped inside wraps (by omega))
      rw [if_pos wraps, ← position, ← work]
      exact body
  · next whole =>
      have position : memory.loadWord (entry.1 + 4) =
          other.loadWord (entry.1 + 4) :=
        Memory.loadWord_congr fun address above below =>
          same address (fits.used_whole whole (by omega) (by omega))
      have work : memory.load (entry.1 + 8) entry.2.work.length =
          other.load (entry.1 + 8) entry.2.work.length :=
        Memory.load_congr fun address above below =>
          same address (fits.used_whole whole (by omega) (by omega))
      rw [if_neg whole, ← position, ← work]
      exact body

/-- The chain is kept by writes outside the used bytes. -/
theorem Chain.congr
    {memory other : Memory} {size tail : ℕ}
    (inside : tail < size) (sizeAligned : size % 4 = 0)
    {position : ℕ} {entries : List (ℕ × Message)}
    (chain : Chain memory size tail position entries)
    (same : ∀ address, Used size position tail address →
      memory address = other address) :
    Chain other size tail position entries := by
  induction entries generalizing position with
  | nil => exact chain
  | cons entry rest inductionHypothesis =>
      obtain ⟨place, aligned, short, fits, stored, later⟩ := chain
      subst place
      refine ⟨rfl, aligned, short, fits,
        stored.congr fits inside aligned sizeAligned same, ?_⟩
      apply inductionHypothesis later
      intro address used
      exact same address
        (fits.used_of_next (eight_le_len entry.2) inside used)

/-- The chain with a new message at the old tail. -/
theorem Chain.concat
    {memory : Memory} {size tail newTail : ℕ} (inside : tail < size)
    {position : ℕ} {entries : List (ℕ × Message)} {message : Message}
    (chain : Chain memory size tail position entries)
    (ahead : Ahead position tail newTail)
    (aligned : tail % 4 = 0)
    (short : message.work.length < 2 ^ 31)
    (fits : Fits size newTail tail message.len)
    (stored : Stored memory size (tail, message))
    (isNext : next size tail message.len = newTail) :
    Chain memory size newTail position (entries ++ [(tail, message)]) := by
  induction entries generalizing position with
  | nil =>
      subst chain
      exact ⟨rfl, aligned, short, fits, stored, isNext⟩
  | cons entry rest inductionHypothesis =>
      obtain ⟨place, entryAligned, entryShort, entryFits, entryStored, later⟩ :=
        chain
      refine ⟨place, entryAligned, entryShort,
        entryFits.ahead (Nat.le_of_lt inside) ahead, entryStored, ?_⟩
      exact inductionHypothesis later
        (entryFits.ahead_next (eight_le_len entry.2) inside ahead)

theorem Chain.stored
    {memory : Memory} {size tail position : ℕ}
    {entries : List (ℕ × Message)}
    (chain : Chain memory size tail position entries)
    {entry : ℕ × Message} (isEntry : entry ∈ entries) :
    Stored memory size entry := by
  induction entries generalizing position with
  | nil => cases isEntry
  | cons first rest inductionHypothesis =>
      obtain ⟨_, _, _, _, stored, later⟩ := chain
      rcases List.mem_cons.mp isEntry with isFirst | isLater
      · exact isFirst ▸ stored
      · exact inductionHypothesis later isLater

/-! ## Push -/

/-- A push moves the tail behind the new message. -/
theorem Queue.push_tail
    {queue : Queue} {message : Message}
    (inside : queue.tail < queue.size)
    (bounded : message.len ≤ queue.size) :
    (queue.push message).tail =
      next queue.size queue.tail message.len := by
  have nonempty := eight_le_len message
  simp only [Queue.push, next]
  by_cases whole : message.len ≤ queue.size - queue.tail
  · have notWraps : ¬ queue.size < queue.tail + message.len := by omega
    rw [if_pos whole, if_neg notWraps]
  · have wraps : queue.size < queue.tail + message.len := by omega
    have notEnd : message.len - 4 ≠ queue.size := by omega
    rw [if_neg whole, if_pos wraps, wrap, if_neg notEnd]

@[simp] theorem Queue.push_head (queue : Queue) (message : Message) :
    (queue.push message).head = queue.head := by
  simp only [Queue.push]
  split <;> rfl

@[simp] theorem Queue.push_size (queue : Queue) (message : Message) :
    (queue.push message).size = queue.size := by
  simp only [Queue.push]
  split <;> rfl

/-- A push writes outside the used bytes. -/
theorem Queue.push_memory_of_used
    {queue : Queue} {message : Message}
    (room : queue.HasRoom message)
    (inside : queue.tail < queue.size) (headInside : queue.head < queue.size)
    (aligned : queue.tail % 4 = 0) (sizeAligned : queue.size % 4 = 0)
    {address : ℕ}
    (used : Used queue.size queue.head queue.tail address) :
    queue.memory address = (queue.push message).memory address := by
  have enough := work_length_add_le_len message
  unfold Queue.HasRoom at room
  unfold Used at used
  simp only [Queue.push]
  split
  · dsimp only
    rw [Memory.store_apply_of_outside, Memory.storeWord_apply_of_outside,
      Memory.storeWord_apply_of_outside]
    all_goals split_ifs at used <;> omega
  · dsimp only
    rw [Memory.store_apply_of_outside, Memory.storeWord_apply_of_outside,
      Memory.storeWord_apply_of_outside]
    all_goals split_ifs at used <;> omega

/-- The new message is in the queue. -/
theorem Queue.push_stored
    {queue : Queue} {message : Message}
    (room : queue.HasRoom message)
    (inside : queue.tail < queue.size)
    (headInside : queue.head < queue.size) :
    Stored (queue.push message).memory queue.size (queue.tail, message) := by
  have enough := work_length_add_le_len message
  unfold Queue.HasRoom at room
  simp only [Queue.push, Stored]
  by_cases whole : message.len ≤ queue.size - queue.tail
  · have notWraps : ¬ queue.size < queue.tail + message.len := by omega
    rw [if_pos whole, if_neg notWraps]
    dsimp only
    refine ⟨?_, ?_, Memory.load_store_self _ _ _⟩
    · apply Memory.loadWord_of_storeWord
      intro address _ _
      rw [Memory.store_apply_of_outside (by omega),
        Memory.storeWord_apply_of_outside (by omega)]
    · apply Memory.loadWord_of_storeWord
      intro address _ _
      rw [Memory.store_apply_of_outside (by omega)]
  · have wraps : queue.size < queue.tail + message.len := by omega
    rw [if_neg whole, if_pos wraps]
    dsimp only
    refine ⟨?_, ?_, Memory.load_store_self _ _ _⟩
    · apply Memory.loadWord_of_storeWord
      intro address _ _
      rw [Memory.store_apply_of_outside (by omega),
        Memory.storeWord_apply_of_outside (by omega)]
    · apply Memory.loadWord_of_storeWord
      intro address _ _
      rw [Memory.store_apply_of_outside (by omega)]

/-! ## Pop -/

/-- The size word of a message gives its length. -/
theorem Stored.length
    {memory : Memory} {size : ℕ} {entry : ℕ × Message}
    (stored : Stored memory size entry)
    (short : entry.2.work.length < 2 ^ 31) :
    (memory.loadWord entry.1).toNat = entry.2.work.length := by
  rw [stored.1, BitVec.toNat_ofNat]
  omega

/-- The message at the head is the first of the chain. -/
theorem Queue.front_of_stored
    {queue : Queue} {message : Message}
    (stored : Stored queue.memory queue.size (queue.head, message))
    (short : message.work.length < 2 ^ 31) :
    queue.front = message := by
  have body := stored.2
  simp only [Queue.front, stored.length short]
  split at body
  · next wraps =>
      rw [if_pos (show queue.size < queue.head + msgLen message.work.length
        from wraps), body.1, body.2]
  · next whole =>
      rw [if_neg (show ¬ queue.size < queue.head + msgLen message.work.length
        from whole), body.1, body.2]

theorem Queue.behind_of_stored
    {queue : Queue} {message : Message}
    (stored : Stored queue.memory queue.size (queue.head, message))
    (short : message.work.length < 2 ^ 31)
    (fits : Fits queue.size queue.tail queue.head message.len)
    (inside : queue.tail < queue.size) :
    queue.behind = next queue.size queue.head message.len := by
  have nonempty := eight_le_len message
  simp only [Queue.behind, stored.length short, next]
  unfold Fits at fits
  change wrap queue.size (if queue.size < queue.head + message.len then
    message.len - 4 else queue.head + message.len) = _
  split
  · next wraps =>
      have notEnd : message.len - 4 ≠ queue.size := by omega
      rw [wrap, if_neg notEnd]
  · rfl

/-! ## Runs -/

/-- The invariant of the queue. -/
structure Invariant (state : State) : Prop where
  sizeAligned : state.queue.size % 4 = 0
  aligned : state.queue.tail % 4 = 0
  empty : state.queue.size = 0 →
    state.queue.head = 0 ∧ state.queue.tail = 0
  inside : 0 < state.queue.size →
    state.queue.head < state.queue.size ∧ state.queue.tail < state.queue.size
  inOrder : state.messages = state.popped ++ state.pending.map Prod.snd
  chain : Chain state.queue.memory state.queue.size state.queue.tail
    state.queue.head state.pending

/-- An empty queue, whatever its size. -/
theorem Invariant.start
    {size : ℕ} (sizeAligned : size % 4 = 0) (memory : Memory) :
    Invariant
      { queue := { memory := memory, head := 0, tail := 0, size := size }
        pushed := []
        popped := [] } where
  sizeAligned := sizeAligned
  aligned := rfl
  empty _ := ⟨rfl, rfl⟩
  inside positive := ⟨positive, positive⟩
  inOrder := rfl
  chain := rfl

theorem Invariant.initially (transSpillThreshold : ℕ) (memory : Memory) :
    Invariant (machine transSpillThreshold memory).init :=
  Invariant.start (Nat.mul_mod_left _ _) memory

theorem Invariant.popped_length_le
    {state : State} (invariant : Invariant state) :
    state.popped.length ≤ state.pushed.length := by
  have lengths := congrArg List.length invariant.inOrder
  simp only [State.messages, List.length_map, List.length_append] at lengths
  omega

theorem Invariant.pending_push
    {state : State} (invariant : Invariant state) (message : Message) :
    (effect state (.push message)).pending =
      state.pending ++ [(state.queue.tail, message)] :=
  List.drop_append_of_le_length invariant.popped_length_le

theorem effect_pop (state : State) :
    effect state .pop =
      { state with
        queue := state.queue.pop
        popped := state.popped ++ [state.queue.front] } := rfl

theorem pending_pop (state : State) :
    (effect state .pop).pending = state.pending.tail := by
  simp only [effect_pop, State.pending, List.length_append,
    List.length_singleton, List.tail_drop]

theorem Invariant.push
    {state : State} (invariant : Invariant state) {message : Message}
    (enabled : Enabled state (.push message))
    (notExact : ¬ state.queue.FillsExactly message) :
    Invariant (effect state (.push message)) := by
  obtain ⟨short, bounded, room⟩ := enabled
  have nonempty := eight_le_len message
  have positive : 0 < state.queue.size := Nat.lt_of_lt_of_le (by omega) bounded
  obtain ⟨headInside, tailInside⟩ := invariant.inside positive
  have newTail := Queue.push_tail tailInside bounded
  obtain ⟨ahead, fits⟩ := room.ahead notExact tailInside headInside bounded
  constructor
  · simpa [effect] using invariant.sizeAligned
  · simp only [effect, newTail]
    exact next_mod_four invariant.aligned (len_mod_four message)
  · intro isZero
    simp only [effect, Queue.push_size] at isZero
    exact absurd isZero (Nat.ne_of_gt positive)
  · intro _
    simp only [effect, Queue.push_size, Queue.push_head, newTail]
    exact ⟨headInside, next_lt nonempty bounded⟩
  · rw [invariant.pending_push, List.map_append, ← List.append_assoc]
    change _ = state.popped ++ _ ++ _
    rw [← invariant.inOrder]
    simp [effect, State.messages]
  · have kept := invariant.chain.congr tailInside invariant.sizeAligned
      (fun address used => Queue.push_memory_of_used room tailInside headInside
        invariant.aligned invariant.sizeAligned used)
    have extended := kept.concat tailInside ahead invariant.aligned short fits
      (Queue.push_stored room tailInside headInside) rfl
    rw [invariant.pending_push]
    simpa [effect, newTail] using extended

/-- A queue that is not found empty has a first message. -/
theorem Invariant.pending_ne_nil
    {state : State} (invariant : Invariant state)
    (nonempty : state.queue.head ≠ state.queue.tail) :
    state.pending ≠ [] := by
  intro isNil
  have chain := invariant.chain
  rw [isNil] at chain
  exact nonempty chain

/-- A queue with a message left is not found empty. -/
theorem Invariant.head_ne_tail
    {state : State} (invariant : Invariant state)
    (someLeft : state.pending ≠ []) :
    state.queue.head ≠ state.queue.tail := by
  have chain := invariant.chain
  cases pending : state.pending with
  | nil => exact absurd pending someLeft
  | cons entry rest =>
      rw [pending] at chain
      have fits := chain.2.2.2.1
      unfold Fits at fits
      omega

@[simp] theorem Queue.pop_size (queue : Queue) :
    queue.pop.size = queue.size := by
  simp only [Queue.pop]
  split <;> rfl

@[simp] theorem Queue.pop_memory (queue : Queue) :
    queue.pop.memory = queue.memory := by
  simp only [Queue.pop]
  split <;> rfl

/-- The queue after the first message of its chain is popped. -/
theorem Queue.pop_chain
    {queue : Queue} {message : Message} {rest : List (ℕ × Message)}
    (inside : queue.tail < queue.size) (aligned : queue.tail % 4 = 0)
    (chain : Chain queue.memory queue.size queue.tail queue.head
      ((queue.head, message) :: rest)) :
    Chain queue.memory queue.size queue.pop.tail queue.pop.head rest ∧
      queue.pop.tail % 4 = 0 ∧
      queue.pop.head < queue.size ∧ queue.pop.tail < queue.size := by
  obtain ⟨_, _, short, fits, stored, later⟩ := chain
  have behind := Queue.behind_of_stored stored short fits inside
  simp only [Queue.pop]
  split
  · next isTail =>
      have isLast : rest = [] := by
        cases rest with
        | nil => rfl
        | cons entry others =>
            -- a further message would fit behind this one, not at the tail
            obtain ⟨_, _, _, laterFits, _, _⟩ := later
            rw [← behind, isTail] at laterFits
            unfold Fits at laterFits
            omega
      subst isLast
      exact ⟨rfl, rfl, by dsimp only; omega, by dsimp only; omega⟩
  · rw [← behind] at later
    refine ⟨later, aligned, ?_, inside⟩
    rw [behind]
    exact fits.next_lt inside

theorem Invariant.pop
    {state : State} (invariant : Invariant state)
    (enabled : Enabled state .pop) :
    Invariant (effect state .pop) := by
  have chain := invariant.chain
  have inOrder := invariant.inOrder
  cases pending : state.pending with
  | nil => exact absurd pending (invariant.pending_ne_nil enabled)
  | cons entry rest =>
      rw [pending] at chain inOrder
      obtain ⟨place, message⟩ := entry
      have isHead : place = state.queue.head := chain.1
      subst isHead
      have positive : 0 < state.queue.size :=
        Nat.lt_of_le_of_lt (Nat.zero_le _) chain.2.2.2.1.1
      obtain ⟨laterChain, aligned, inside⟩ := Queue.pop_chain
        (invariant.inside positive).2 invariant.aligned chain
      have front : state.queue.front = message :=
        Queue.front_of_stored chain.2.2.2.2.1 chain.2.2.1
      constructor
      · rw [effect_pop, Queue.pop_size]
        exact invariant.sizeAligned
      · exact aligned
      · intro isZero
        rw [effect_pop, Queue.pop_size] at isZero
        exact absurd isZero (Nat.ne_of_gt positive)
      · intro _
        rw [effect_pop, Queue.pop_size]
        exact inside
      · rw [pending_pop, pending]
        simpa [effect_pop, front, State.messages] using inOrder
      · rw [pending_pop, pending, effect_pop, Queue.pop_size,
          Queue.pop_memory]
        exact laterChain

theorem Invariant.reachable
    {transSpillThreshold : ℕ} {memory : Memory} {state : State}
    (reachable : (machine transSpillThreshold memory).Reachable LeavesGap
      state) :
    Invariant state := by
  refine Machine.Reachable.invariant (Invariant.initially _ _) ?_ reachable
  intro current action invariant enabled gap
  cases action with
  | push message => exact invariant.push enabled gap
  | pop => exact invariant.pop enabled

/-- What was popped is a prefix of what was pushed, the rest is intact in the
queue, and the queue is found empty exactly when there is no rest. -/
structure Lossless (state : State) : Prop where
  inOrder : state.popped <+: state.messages
  intact : ∀ entry ∈ state.pending,
    Stored state.queue.memory state.queue.size entry
  empty : state.queue.head = state.queue.tail ↔
    state.popped = state.messages

/-- As long as no push fills the queue exactly, the queue is a lossless FIFO. -/
theorem queue_lossless
    {transSpillThreshold : ℕ} {memory : Memory} {state : State}
    (reachable : (machine transSpillThreshold memory).Reachable LeavesGap
      state) :
    Lossless state := by
  have invariant := Invariant.reachable reachable
  constructor
  · rw [invariant.inOrder]
    exact List.prefix_append _ _
  · intro entry isPending
    exact invariant.chain.stored isPending
  · rw [invariant.inOrder]
    constructor
    · intro isEmpty
      have noneLeft : state.pending = [] := by
        by_contra someLeft
        exact invariant.head_ne_tail someLeft isEmpty
      simp [noneLeft]
    · intro allPopped
      by_contra nonempty
      apply invariant.pending_ne_nil nonempty
      simpa using allPopped

/-- A push that fills the queue exactly makes it look empty. -/
theorem push_head_eq_tail
    {state : State} {message : Message}
    (enabled : Enabled state (.push message))
    (inside : state.queue.tail < state.queue.size)
    (exact : state.queue.FillsExactly message) :
    (effect state (.push message)).queue.head =
      (effect state (.push message)).queue.tail := by
  have nonempty := eight_le_len message
  obtain ⟨_, bounded, _⟩ := enabled
  simp only [effect, Queue.push_head, Queue.push_tail inside bounded]
  unfold Queue.FillsExactly at exact
  simp only [next, wrap] at *
  split_ifs at exact ⊢ <;> omega

/-- The messages that can be popped after a push. -/
theorem Invariant.push_alive
    {state : State} (invariant : Invariant state) {message : Message}
    (enabled : Enabled state (.push message)) :
    ∃ next : State, next.queue = state.queue.push message ∧ Invariant next ∧
      (next.pending = [] ∨
        next.pending = state.pending ++ [(state.queue.tail, message)]) := by
  by_cases exact : state.queue.FillsExactly message
  · have bounded := enabled.2.1
    have nonempty := eight_le_len message
    have positive : 0 < state.queue.size := by omega
    obtain ⟨headInside, tailInside⟩ := invariant.inside positive
    have newTail := Queue.push_tail tailInside bounded
    have looksEmpty := push_head_eq_tail enabled tailInside exact
    refine ⟨{ queue := state.queue.push message, pushed := [], popped := [] },
      rfl, ?_, Or.inl rfl⟩
    constructor
    · simpa using invariant.sizeAligned
    · simp only [newTail]
      exact next_mod_four invariant.aligned (len_mod_four message)
    · intro isZero
      rw [Queue.push_size] at isZero
      omega
    · intro _
      simp only [Queue.push_size, Queue.push_head, newTail]
      exact ⟨headInside, next_lt nonempty bounded⟩
    · rfl
    · exact looksEmpty
  · exact ⟨effect state (.push message), rfl, invariant.push enabled exact,
      Or.inr (invariant.pending_push message)⟩

section Schedules

variable {transSpillThreshold : ℕ} {memory : Memory}

instance (state : State) (action : Action) :
    Decidable ((machine transSpillThreshold memory).Enabled state action) :=
  match action with
  | .push _ => inferInstanceAs (Decidable (_ ∧ _ ∧ _))
  | .pop => inferInstanceAs (Decidable (_ ≠ _))

instance (state : State) (action : Action) :
    Decidable (LeavesGap state action) :=
  match action with
  | .push _ => inferInstanceAs (Decidable (¬ _))
  | .pop => isTrue trivial

end Schedules

/-- A transaction of some length. -/
def transaction (txlistPos : BitVec 32) (length : ℕ) : Message where
  txlistPos := txlistPos
  work := List.replicate length 7

/-- The third transaction is split between the end and the beginning of the
queue. -/
def wrappingPushes : List Action :=
  [.push (transaction 0 1016), .push (transaction 1 992), .pop,
    .push (transaction 2 500), .pop, .pop, .push (transaction 3 40)]

theorem wrappingPushes_completes :
    ((machine 1 fun _ => 0).execute LeavesGap (machine 1 fun _ => 0).init
      wrappingPushes).isSome = true := by
  decide +kernel

theorem queue_lossless_wrappingPushes :
    let state := ((machine 1 fun _ => 0).execute LeavesGap
      (machine 1 fun _ => 0).init wrappingPushes).get wrappingPushes_completes
    Lossless state ∧ state.popped.length = 3 ∧
      state.popped = (state.messages).take 3 := by
  intro state
  have lossless := queue_lossless
    (Machine.reachable_of_execute wrappingPushes wrappingPushes_completes)
  have count : state.popped.length = 3 := by decide +kernel
  refine ⟨lossless, count, ?_⟩
  rw [← count]
  exact (List.prefix_iff_eq_take.mp lossless.inOrder)

/-- Two transactions that fill the queue exactly. -/
def exactPushes : List Action :=
  [.push (transaction 0 1016), .push (transaction 1 1016)]

theorem exactPushes_completes :
    ((machine 1 fun _ => 0).execute Machine.Always (machine 1 fun _ => 0).init
      exactPushes).isSome = true := by
  decide +kernel

/-- A reachable queue that is found empty with two transactions in it. -/
theorem queue_loses_transactions :
    ∃ state, (machine 1 fun _ => 0).Reachable Machine.Always state ∧
      state.queue.head = state.queue.tail ∧
      state.messages = [transaction 0 1016, transaction 1 1016] ∧
      state.popped = [] ∧ ¬ Lossless state := by
  refine ⟨_, Machine.reachable_of_execute exactPushes exactPushes_completes,
    by decide +kernel, by decide +kernel, by decide +kernel, ?_⟩
  intro lossless
  have allPopped := lossless.empty.mp (by decide +kernel)
  revert allPopped
  decide +kernel

end Pool
end Multimaster
