import Mathlib.Data.List.Basic
import Mathlib.Algebra.GroupWithZero.Nat

/-!
# Byte memory

Writes and reads of byte strings and of four-byte words, in the order of bytes
of the machine.
-/

namespace Multimaster

/-- A byte. -/
abbrev Byte := BitVec 8

/-- Bytes by address. -/
abbrev Memory := ℕ → Byte

namespace Memory

/-- Copy bytes to an address. -/
def store (memory : Memory) (start : ℕ) (bytes : List Byte) : Memory :=
  fun address =>
    if start ≤ address then bytes.getD (address - start) (memory address)
    else memory address

/-- Copy bytes from an address. -/
def load (memory : Memory) (start count : ℕ) : List Byte :=
  (List.range count).map fun offset => memory (start + offset)

/-- A write leaves the bytes before and behind it alone. -/
theorem store_apply_of_outside
    {memory : Memory} {start address : ℕ} {bytes : List Byte}
    (outside : address < start ∨ start + bytes.length ≤ address) :
    memory.store start bytes address = memory address := by
  rcases outside with before | behind
  · simp [store, Nat.not_le.mpr before]
  · have beyond : bytes.length ≤ address - start := by omega
    simp [store, List.getElem?_eq_none beyond]

/-- Bytes that were written are read back. -/
theorem load_store_self
    (memory : Memory) (start : ℕ) (bytes : List Byte) :
    (memory.store start bytes).load start bytes.length = bytes := by
  apply List.ext_getElem
  · simp [load]
  · intro offset _ inBytes
    simp [load, store, inBytes]

/-- Reading depends only on the bytes read. -/
theorem load_congr
    {memory other : Memory} {start count : ℕ}
    (same : ∀ address, start ≤ address → address < start + count →
      memory address = other address) :
    memory.load start count = other.load start count := by
  apply List.map_congr_left
  intro offset inRange
  rw [List.mem_range] at inRange
  exact same _ (by omega) (by omega)

@[simp] theorem length_load (memory : Memory) (start count : ℕ) :
    (memory.load start count).length = count := by
  simp [load]

theorem load_add (memory : Memory) (start first second : ℕ) :
    memory.load start (first + second) =
      memory.load start first ++ memory.load (start + first) second := by
  simp only [load, List.range_add, List.map_append, List.map_map]
  congr 1
  apply List.map_congr_left
  intro offset _
  simp [Nat.add_assoc]

/-- Bytes written behind others are read behind them. -/
theorem load_store_append
    (memory : Memory) (start count : ℕ) (bytes : List Byte) :
    (memory.store (start + count) bytes).load start (count + bytes.length) =
      memory.load start count ++ bytes := by
  rw [load_add, load_store_self]
  congr 1
  apply load_congr
  intro address _ below
  exact store_apply_of_outside (Or.inl below)

end Memory

/-- The four bytes of a word, least significant first. -/
def wordBytes (word : BitVec 32) : List Byte :=
  (List.range 4).map fun index => word.extractLsb' (8 * index) 8

@[simp] theorem wordBytes_length (word : BitVec 32) :
    (wordBytes word).length = 4 := rfl

/-- The word of four bytes. -/
def wordOfBytes (bytes : List Byte) : BitVec 32 :=
  BitVec.ofNat 32
    ((bytes.getD 0 0).toNat + 2 ^ 8 * (bytes.getD 1 0).toNat +
      2 ^ 16 * (bytes.getD 2 0).toNat + 2 ^ 24 * (bytes.getD 3 0).toNat)

theorem wordOfBytes_wordBytes (word : BitVec 32) :
    wordOfBytes (wordBytes word) = word := by
  apply BitVec.eq_of_toNat_eq
  have bound := word.isLt
  simp [wordOfBytes, wordBytes, List.range_succ, Nat.shiftRight_eq_div_pow]
  omega

namespace Memory

/-- Write a word. -/
def storeWord (memory : Memory) (start : ℕ) (word : BitVec 32) : Memory :=
  memory.store start (wordBytes word)

/-- Read a word. -/
def loadWord (memory : Memory) (start : ℕ) : BitVec 32 :=
  wordOfBytes (memory.load start 4)

theorem storeWord_apply_of_outside
    {memory : Memory} {start address : ℕ} {word : BitVec 32}
    (outside : address < start ∨ start + 4 ≤ address) :
    memory.storeWord start word address = memory address :=
  store_apply_of_outside outside

theorem loadWord_storeWord_self
    (memory : Memory) (start : ℕ) (word : BitVec 32) :
    (memory.storeWord start word).loadWord start = word := by
  have read := memory.load_store_self start (wordBytes word)
  rw [wordBytes_length] at read
  rw [loadWord, storeWord, read, wordOfBytes_wordBytes]

theorem loadWord_congr
    {memory other : Memory} {start : ℕ}
    (same : ∀ address, start ≤ address → address < start + 4 →
      memory address = other address) :
    memory.loadWord start = other.loadWord start := by
  rw [loadWord, loadWord, load_congr same]

/-- A word that was written is read back after writes elsewhere. -/
theorem loadWord_of_storeWord
    {memory later : Memory} {start : ℕ} {word : BitVec 32}
    (same : ∀ address, start ≤ address → address < start + 4 →
      later address = memory.storeWord start word address) :
    later.loadWord start = word := by
  rw [loadWord_congr same, loadWord_storeWord_self]

end Memory

end Multimaster
