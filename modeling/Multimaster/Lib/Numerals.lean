import Mathlib.Data.Nat.Digits.Lemmas

/-!
# Numerals

Numbers written in a base of at most sixteen, with upper case letters, and read
back up to the first character that is no digit.
-/

namespace Multimaster
namespace Text

/-- The character of a digit. -/
def digitChar (digit : ℕ) : Char :=
  Char.ofNat (if digit < 10 then 48 + digit else 55 + digit)

/-- The value of a character, if it is a decimal digit or a letter up to `F`, in
upper or lower case. -/
def charValue (char : Char) : Option ℕ :=
  if 48 ≤ char.toNat ∧ char.toNat ≤ 57 then some (char.toNat - 48)
  else if 65 ≤ char.toNat ∧ char.toNat ≤ 70 then some (char.toNat - 55)
  else if 97 ≤ char.toNat ∧ char.toNat ≤ 102 then some (char.toNat - 87)
  else none

/-- The value of a digit of a base. -/
def digitValue (base : ℕ) (char : Char) : Option ℕ :=
  (charValue char).filter fun value => value < base

theorem charValue_digitChar_all :
    ∀ digit < 16, charValue (digitChar digit) = some digit := by
  decide

theorem digitValue_digitChar
    {base digit : ℕ} (small : base ≤ 16) (isDigit : digit < base) :
    digitValue base (digitChar digit) = some digit := by
  rw [digitValue, charValue_digitChar_all digit (by omega)]
  simp [isDigit]

/-- The number written with these digits, the first one being the highest. -/
def numberOf (base : ℕ) (digits : List ℕ) : ℕ :=
  digits.foldl (fun value digit => value * base + digit) 0

theorem numberOf_reverse (base : ℕ) (digits : List ℕ) :
    numberOf base digits.reverse = Nat.ofDigits base digits := by
  rw [numberOf, List.foldl_reverse, Nat.ofDigits_eq_foldr]
  congr 1
  funext digit value
  simp only [Nat.cast_id]
  ring

/-- The digits of a number, the first one being the highest. -/
def numeralDigits (base number : ℕ) : List ℕ :=
  if number = 0 then [0] else (Nat.digits base number).reverse

/-- A number as it is written. -/
def numeral (base number : ℕ) : List Char :=
  (numeralDigits base number).map digitChar

variable {base number : ℕ}

theorem numeralDigits_ne_nil (base number : ℕ) :
    numeralDigits base number ≠ [] := by
  unfold numeralDigits
  split
  · exact List.cons_ne_nil _ _
  · next notZero =>
      simpa [Nat.digits_ne_nil_iff_ne_zero] using notZero

theorem lt_of_mem_numeralDigits (positive : 1 < base) :
    ∀ digit ∈ numeralDigits base number, digit < base := by
  unfold numeralDigits
  split
  · intro digit isDigit
    rw [List.mem_singleton.mp isDigit]
    omega
  · intro digit isDigit
    exact Nat.digits_lt_base positive (List.mem_reverse.mp isDigit)

theorem numberOf_numeralDigits (base number : ℕ) :
    numberOf base (numeralDigits base number) = number := by
  unfold numeralDigits
  split
  · next isZero => simp [numberOf, isZero]
  · rw [numberOf_reverse, Nat.ofDigits_digits]

/-- The length of a number that is less than a power of the base. -/
theorem length_numeral_le
    {width : ℕ} (positive : 1 < base) (someDigit : 0 < width)
    (below : number < base ^ width) : (numeral base number).length ≤ width := by
  rw [numeral, List.length_map, numeralDigits]
  split
  · exact someDigit
  · rw [List.length_reverse]
    exact (Nat.digits_length_le_iff positive number).mpr below

/-! ## Reading digits -/

/-- The digits at the beginning of a text, and what is left. -/
def takeDigits (base : ℕ) : List Char → List ℕ × List Char
  | [] => ([], [])
  | char :: rest =>
      match digitValue base char with
      | none => ([], char :: rest)
      | some digit =>
          (digit :: (takeDigits base rest).1, (takeDigits base rest).2)

/-- No digit comes next. -/
def NoDigit (base : ℕ) (rest : List Char) : Prop :=
  ∀ char ∈ rest.head?, digitValue base char = none

/-- A text made of these digits. -/
def Spells (base : ℕ) (text : List Char) (digits : List ℕ) : Prop :=
  text.map (digitValue base) = digits.map some

theorem takeDigits_append
    {text rest : List Char} {digits : List ℕ}
    (spells : Spells base text digits) (stops : NoDigit base rest) :
    takeDigits base (text ++ rest) = (digits, rest) := by
  induction text generalizing digits with
  | nil =>
      have noDigits : digits = [] := by simpa [Spells] using spells.symm
      subst noDigits
      cases rest with
      | nil => rfl
      | cons char later => simp [takeDigits, stops char rfl]
  | cons char text inductionHypothesis =>
      cases digits with
      | nil => cases spells
      | cons digit digits =>
          obtain ⟨isDigit, spellsRest⟩ := List.cons_eq_cons.mp spells
          have later := inductionHypothesis spellsRest
          simp [takeDigits, isDigit, later]

/-- What is taken is spelled, and what is left begins with no digit. -/
theorem takeDigits_spec (base : ℕ) (input : List Char) :
    ∃ text, input = text ++ (takeDigits base input).2 ∧
      Spells base text (takeDigits base input).1 ∧
      NoDigit base (takeDigits base input).2 := by
  induction input with
  | nil => exact ⟨[], rfl, rfl, fun _ isHead => by cases isHead⟩
  | cons char rest inductionHypothesis =>
      cases isDigit : digitValue base char with
      | none =>
          refine ⟨[], ?_, ?_, ?_⟩
          · simp [takeDigits, isDigit]
          · simp [takeDigits, isDigit, Spells]
          · simp [takeDigits, isDigit, NoDigit]
      | some digit =>
          obtain ⟨text, whole, spells, stops⟩ := inductionHypothesis
          refine ⟨char :: text, ?_, ?_, ?_⟩
          · simp only [takeDigits, isDigit, List.cons_append]
            rw [← whole]
          · simp only [takeDigits, isDigit, Spells, List.map_cons,
              List.cons.injEq, true_and]
            exact spells
          · simp only [takeDigits, isDigit]
            exact stops

/-- A numeral spells its digits, also in a greater base. -/
theorem spells_numeral
    {other : ℕ} (positive : 1 < base) (le : base ≤ other) (small : other ≤ 16)
    (number : ℕ) :
    Spells other (numeral base number) (numeralDigits base number) := by
  simp only [Spells, numeral, List.map_map]
  apply List.map_congr_left
  intro digit isDigit
  have below := lt_of_mem_numeralDigits positive digit isDigit
  exact digitValue_digitChar small (by omega)

/-! ## Digits read in a greater base -/

theorem numberOf_numeralDigits_of_lt
    (isDigit : number < base) (other : ℕ) :
    numberOf other (numeralDigits base number) = number := by
  by_cases isZero : number = 0
  · simp [numeralDigits, isZero, numberOf]
  · rw [numeralDigits, if_neg isZero, Nat.digits_of_lt base number isZero isDigit]
    simp [numberOf]

/-- With more than one digit, the number is greater in a greater base. -/
theorem lt_numberOf_numeralDigits
    {other : ℕ} (positive : 1 < base) (lt : base < other)
    (large : base ≤ number) :
    number < numberOf other (numeralDigits base number) := by
  have notZero : number ≠ 0 := by omega
  have someLeft : 0 < number / base := Nat.div_pos large (by omega)
  have higher := Nat.ofDigits_monotone (Nat.digits base (number / base))
    (Nat.le_of_lt lt)
  rw [Nat.ofDigits_digits] at higher
  rw [numeralDigits, if_neg notZero, numberOf_reverse,
    Nat.digits_def' positive (by omega), Nat.ofDigits_cons]
  calc number = number % base + base * (number / base) :=
        (Nat.mod_add_div number base).symm
    _ < number % base + other * (number / base) :=
        Nat.add_lt_add_left (Nat.mul_lt_mul_of_pos_right lt someLeft) _
    _ ≤ number % base + other * Nat.ofDigits other
          (Nat.digits base (number / base)) :=
        Nat.add_le_add_left (Nat.mul_le_mul_left other higher) _

end Text
end Multimaster
