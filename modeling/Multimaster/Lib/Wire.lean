import Mathlib.Data.List.Basic
import Mathlib.Data.Nat.Basic
import Mathlib.Tactic.Common
import Mathlib.Algebra.GroupWithZero.Nat

/-!
# Bytes on the wire

Readers that take values off the front of their input, and the bytes they read
exactly: `Reads reader bytes value` says that the reader, on these bytes and
whatever follows, gives the value and leaves what follows.  Round trips of
formats are put together from the rules for sequences.

Integers are sent with the most significant byte first, strings end with a zero
byte.
-/

namespace Multimaster
namespace Wire

/-- A reader takes a value off the front of the input, or fails. -/
abbrev Reader (Value : Type) := StateT (List UInt8) Option Value

variable {Value Next : Type}

/-- On these bytes, whatever follows them, the reader gives this value and stops
behind them. -/
def Reads
    (reader : Reader Value) (bytes : List UInt8) (value : Value) : Prop :=
  ∀ rest, reader.run (bytes ++ rest) = some (value, rest)

theorem Reads.pure (value : Value) :
    Reads (Pure.pure value) [] value := by
  intro rest
  rfl

theorem Reads.bind
    {reader : Reader Value} {next : Value → Reader Next}
    {first second : List UInt8} {value : Value} {result : Next}
    (readsFirst : Reads reader first value)
    (readsSecond : Reads (next value) second result) :
    Reads (reader >>= next) (first ++ second) result := by
  intro rest
  rw [StateT.run_bind, List.append_assoc, readsFirst]
  exact readsSecond rest

/-- A format given as the list of its fields is read field by field. -/
theorem Reads.field
    {reader : Reader Value} {next : Value → Reader Next}
    {field : List UInt8} {fields : List (List UInt8)} {value : Value}
    {result : Next}
    (readsField : Reads reader field value)
    (readsFields : Reads (next value) fields.flatten result) :
    Reads (reader >>= next) (field :: fields).flatten result := by
  rw [List.flatten_cons]
  exact readsField.bind readsFields

/-- The last reader of a sequence has the last bytes. -/
theorem Reads.map
    {reader : Reader Value} {bytes : List UInt8} {value : Value}
    (reads : Reads reader bytes value) (finish : Value → Next) :
    Reads (reader >>= fun value => Pure.pure (finish value)) bytes
      (finish value) := by
  have sequence : Reads (reader >>= fun value => Pure.pure (finish value))
      (bytes ++ []) (finish value) :=
    reads.bind (Reads.pure (finish value))
  rwa [List.append_nil] at sequence

/-- On these bytes, whatever follows them, the reader gives this value; it may
stop before their end. -/
def Peeks
    (reader : Reader Value) (bytes : List UInt8) (value : Value) : Prop :=
  ∀ rest, ∃ left, reader.run (bytes ++ rest) = some (value, left)

theorem Reads.peeks
    {reader : Reader Value} {bytes : List UInt8} {value : Value}
    (reads : Reads reader bytes value) (later : List UInt8) :
    Peeks reader (bytes ++ later) value := by
  intro rest
  refine ⟨later ++ rest, ?_⟩
  rw [List.append_assoc]
  exact reads (later ++ rest)

/-- Only the last reader of a sequence may stop early. -/
theorem Peeks.field
    {reader : Reader Value} {next : Value → Reader Next}
    {field : List UInt8} {fields : List (List UInt8)} {value : Value}
    {result : Next}
    (readsField : Reads reader field value)
    (peeks : Peeks (next value) fields.flatten result) :
    Peeks (reader >>= next) (field :: fields).flatten result := by
  intro rest
  obtain ⟨left, last⟩ := peeks rest
  refine ⟨left, ?_⟩
  rw [StateT.run_bind, List.flatten_cons, List.append_assoc, readsField]
  exact last

theorem Peeks.map
    {reader : Reader Value} {bytes : List UInt8} {value : Value}
    (peeks : Peeks reader bytes value) (finish : Value → Next) :
    Peeks (reader >>= fun value => Pure.pure (finish value)) bytes
      (finish value) := by
  intro rest
  obtain ⟨left, run⟩ := peeks rest
  refine ⟨left, ?_⟩
  rw [StateT.run_bind, run]
  rfl

theorem Reads.unique
    {reader : Reader Value} {bytes : List UInt8} {value other : Value}
    (reads : Reads reader bytes value) (readsOther : Reads reader bytes other) :
    value = other := by
  have same := (reads []).symm.trans (readsOther [])
  exact (Prod.mk.inj (Option.some.inj same)).1

/-- Whatever the reader gives has the property. -/
def Gives (reader : Reader Value) (property : Value → Prop) : Prop :=
  ∀ input value rest, reader.run input = some (value, rest) → property value

theorem Gives.pure
    {property : Value → Prop} {value : Value} (holds : property value) :
    Gives (Pure.pure value) property := by
  rintro input other rest ⟨⟩
  exact holds

theorem Gives.bind
    {property : Next → Prop} (reader : Reader Value)
    {next : Value → Reader Next} (gives : ∀ value, Gives (next value) property) :
    Gives (reader >>= next) property := by
  intro input result rest run
  rw [StateT.run_bind] at run
  cases first : reader.run input with
  | none =>
      rw [first] at run
      cases run
  | some taken =>
      rw [first] at run
      exact gives taken.1 taken.2 result rest run

theorem Gives.of_reads
    {property : Value → Prop} {reader : Reader Value}
    (gives : Gives reader property) {bytes : List UInt8} {value : Value}
    (reads : Reads reader bytes value) : property value :=
  gives _ _ _ (reads [])

/-! ## Bytes -/

/-- One byte. -/
def getByte : Reader UInt8 := fun
  | [] => none
  | byte :: rest => some (byte, rest)

/-- A number of bytes. -/
def getBytes (count : ℕ) : Reader (List UInt8) := fun input =>
  if count ≤ input.length then some (input.take count, input.drop count)
  else none

theorem reads_getByte (byte : UInt8) : Reads getByte [byte] byte := by
  intro rest
  rfl

theorem reads_getBytes (bytes : List UInt8) :
    Reads (getBytes bytes.length) bytes bytes := by
  intro rest
  change getBytes bytes.length (bytes ++ rest) = _
  simp [getBytes]

/-! ## Integers -/

/-- The lower bytes of a number, the most significant one first. -/
def sendInt : ℕ → ℕ → List UInt8
  | 0, _ => []
  | width + 1, value =>
      sendInt width (value / 256) ++ [UInt8.ofNat (value % 256)]

/-- The number with these bytes. -/
def intOfBytes (bytes : List UInt8) : ℕ :=
  bytes.foldl (fun value byte => value * 256 + byte.toNat) 0

/-- A number of some bytes. -/
def getInt (width : ℕ) : Reader ℕ := do
  let bytes ← getBytes width
  pure (intOfBytes bytes)

theorem length_sendInt (width value : ℕ) :
    (sendInt width value).length = width := by
  induction width generalizing value with
  | zero => rfl
  | succ width inductionHypothesis =>
      rw [sendInt, List.length_append, inductionHypothesis]
      rfl

theorem intOfBytes_sendInt (width value : ℕ) :
    intOfBytes (sendInt width value) = value % 256 ^ width := by
  induction width generalizing value with
  | zero => simp [sendInt, intOfBytes, Nat.mod_one]
  | succ width inductionHypothesis =>
      have last : (UInt8.ofNat (value % 256)).toNat = value % 256 := by
        simp
      have before : intOfBytes (sendInt width (value / 256)) =
          value / 256 % 256 ^ width :=
        inductionHypothesis (value / 256)
      unfold intOfBytes at before ⊢
      rw [sendInt, List.foldl_append, before, List.foldl_cons, List.foldl_nil,
        last, Nat.pow_succ, Nat.mul_comm (256 ^ width) 256, Nat.mod_mul]
      omega

/-- A number that fits is read back. -/
theorem reads_getInt
    {width value : ℕ} (fits : value < 256 ^ width) :
    Reads (getInt width) (sendInt width value) value := by
  have readsBytes := reads_getBytes (sendInt width value)
  rw [length_sendInt] at readsBytes
  have reads := readsBytes.map intOfBytes
  rwa [intOfBytes_sendInt, Nat.mod_eq_of_lt fits] at reads

/-! ## Strings -/

/-- The bytes up to the first zero byte. -/
def getString : Reader (List UInt8) := fun input =>
  match input.dropWhile (fun byte => byte != 0) with
  | [] => none
  | _ :: rest => some (input.takeWhile (fun byte => byte != 0), rest)

/-- A string without a zero byte is read back. -/
theorem reads_getString
    {string : List UInt8} (noZero : 0 ∉ string) :
    Reads getString (string ++ [0]) string := by
  intro rest
  change getString (string ++ [0] ++ rest) = _
  have all : ∀ byte ∈ string, (byte != 0) = true := by
    intro byte isByte
    simp only [bne_iff_ne, ne_eq]
    rintro rfl
    exact noZero isByte
  unfold getString
  rw [List.append_assoc, List.dropWhile_append_of_pos all,
    List.takeWhile_append_of_pos all]
  simp

end Wire
end Multimaster
