import Multimaster.Lib.Numerals
import Mathlib.Data.List.TakeWhile

/-!
# Formatted input

`sscanf` for formats made of literal characters, decimal and hexadecimal numbers
and words of a bounded length.  A conversion fails to match, or it finds the
input at its end; the value returned depends on which of the two happens first.

`Reads` says what a directive takes off its input without saying how it is
found.
-/

namespace Multimaster
namespace Text

/-- Why a directive fails. -/
inductive Failure
  | matching
  /-- The input is at its end. -/
  | input
  deriving DecidableEq

/-- `isspace`. -/
def isSpace (char : Char) : Bool :=
  char.toNat == 32 || (9 ≤ char.toNat && char.toNat ≤ 13)

/-- The input behind its leading spaces. -/
def skipSpace (input : List Char) : List Char :=
  input.dropWhile isSpace

/-- The sign of a number, and what is left. -/
def takeSign (input : List Char) : Bool × List Char :=
  if input.head? = some '-' then (true, input.tail)
  else if input.head? = some '+' then (false, input.tail)
  else (false, input)

/-- A hexadecimal number may have a prefix. -/
def HexPrefix (base : ℕ) (text : List Char) : Prop :=
  base = 16 ∧ (text = ['0', 'x'] ∨ text = ['0', 'X'])

instance (base : ℕ) (text : List Char) : Decidable (HexPrefix base text) :=
  inferInstanceAs (Decidable (_ ∧ _))

/-- The input behind the prefix of a hexadecimal number. -/
def skipHexPrefix (base : ℕ) (input : List Char) : List Char :=
  if HexPrefix base (input.take 2) then input.drop 2 else input

/-- A sign and a magnitude. -/
structure Number where
  negative : Bool
  magnitude : ℕ
  deriving DecidableEq

/-- A number in a base.  `0x` without a digit behind it fails to match, as in ISO
C; GNU libraries before 2.42 take it as zero. -/
def takeNumber (base : ℕ) (input : List Char) :
    Except Failure (Number × List Char) :=
  if skipSpace input = [] then .error .input
  else
    let signed := takeSign (skipSpace input)
    let taken := takeDigits base (skipHexPrefix base signed.2)
    if taken.1 = [] then .error .matching
    else
      .ok ({ negative := signed.1, magnitude := numberOf base taken.1 }, taken.2)

/-- `strtol`: a `long`. -/
def Number.toLong (number : Number) : ℤ :=
  if number.negative then max (-2 ^ 63) (-number.magnitude)
  else min (2 ^ 63 - 1) number.magnitude

/-- The `int` a `long` is stored in. -/
def Number.toInt32 (number : Number) : Int32 :=
  Int32.ofInt number.toLong

/-- `strtoul`: an `unsigned long`. -/
def Number.toUInt64 (number : Number) : UInt64 :=
  if 2 ^ 64 ≤ number.magnitude then UInt64.ofNat (2 ^ 64 - 1)
  else if number.negative then -UInt64.ofNat number.magnitude
  else UInt64.ofNat number.magnitude

/-- At most `width` characters up to the next space, and what is left. -/
def takeLetters : ℕ → List Char → List Char × List Char
  | 0, input => ([], input)
  | _ + 1, [] => ([], [])
  | width + 1, char :: rest =>
      if isSpace char then ([], char :: rest)
      else (char :: (takeLetters width rest).1, (takeLetters width rest).2)

/-- A word of at most `width` characters. -/
def takeWord (width : ℕ) (input : List Char) :
    Except Failure (List Char × List Char) :=
  if skipSpace input = [] then .error .input
  else .ok (takeLetters width (skipSpace input))

/-- A value that is assigned. -/
inductive Value
  | int (value : Int32)
  | unsigned (value : UInt64)
  | word (value : List Char)
  deriving DecidableEq

/-- What a format consists of. -/
inductive Directive
  | literal (char : Char)
  /-- `%d`. -/
  | int
  /-- `%*d`. -/
  | skipInt
  /-- `%lu` or `%lX`. -/
  | unsigned (base : ℕ)
  /-- `%s` with a width. -/
  | word (width : ℕ)
  deriving DecidableEq

/-- A directive that is no literal. -/
def Directive.isConversion : Directive → Bool
  | .literal _ => false
  | _ => true

/-- The directive, applied to the input: the values that are assigned, and what
is left. -/
def Directive.take : Directive → List Char →
    Except Failure (List Value × List Char)
  | .literal _, [] => .error .input
  | .literal char, head :: rest =>
      if head = char then .ok ([], rest) else .error .matching
  | .int, input => do
      let (number, rest) ← takeNumber 10 input
      pure ([.int number.toInt32], rest)
  | .skipInt, input => do
      let (_, rest) ← takeNumber 10 input
      pure ([], rest)
  | .unsigned base, input => do
      let (number, rest) ← takeNumber base input
      pure ([.unsigned number.toUInt64], rest)
  | .word width, input => do
      let (letters, rest) ← takeWord width input
      pure ([.word letters], rest)

/-- What a call of `sscanf` did. -/
structure Scan where
  values : List Value
  /-- Some conversion was completed. -/
  converted : Bool
  failure : Option Failure
  deriving DecidableEq

/-- `sscanf`. -/
def scan : List Directive → List Char → Scan
  | [], _ =>
      { values := []
        converted := false
        failure := none }
  | directive :: format, input =>
      match directive.take input with
      | .error failure =>
          { values := []
            converted := false
            failure := some failure }
      | .ok (values, rest) =>
          { values := values ++ (scan format rest).values
            converted := directive.isConversion || (scan format rest).converted
            failure := (scan format rest).failure }

/-- When the end of the input makes `sscanf` return `EOF`. -/
inductive EofRule
  /-- Before the first conversion is completed, as the standard has it. -/
  | beforeConversion
  /-- Before the first value is assigned, as the GNU library has it. -/
  | beforeAssignment
  deriving DecidableEq

/-- Whether the end of the input makes the call return `EOF`. -/
def Scan.isEof (rule : EofRule) (scan : Scan) : Bool :=
  scan.failure == some .input && scan.values.isEmpty &&
    (rule == .beforeAssignment || !scan.converted)

/-- The value returned. -/
def Scan.result (rule : EofRule) (scan : Scan) : ℤ :=
  if scan.isEof rule then -1 else scan.values.length

/-- The `int` at an index of what was assigned; what was not assigned keeps its
value. -/
def intAt (values : List Value) (index : ℕ) (old : Int32) : Int32 :=
  match values[index]? with
  | some (.int value) => value
  | _ => old

/-- The unsigned number at an index. -/
def unsignedAt (values : List Value) (index : ℕ) (old : UInt64) : UInt64 :=
  match values[index]? with
  | some (.unsigned value) => value
  | _ => old

/-- The word at an index. -/
def wordAt (values : List Value) (index : ℕ) : List Char :=
  match values[index]? with
  | some (.word letters) => letters
  | _ => []

/-! ## What a directive reads -/

/-- Leading spaces. -/
def Spaces (text : List Char) : Prop :=
  ∀ char ∈ text, isSpace char = true

/-- The text of a sign. -/
def SignText (negative : Bool) (text : List Char) : Prop :=
  (negative = true ∧ text = ['-']) ∨
    (negative = false ∧ (text = ['+'] ∨ text = []))

/-- The input begins with a number. -/
inductive ReadsNumber (base : ℕ) : List Char → Number → List Char → Prop
  | intro {spaces sign hexPrefix text rest : List Char} {digits : List ℕ}
      {negative : Bool}
      (areSpaces : Spaces spaces)
      (isSign : SignText negative sign)
      (isPrefix : hexPrefix = [] ∨ HexPrefix base hexPrefix)
      (spells : Spells base text digits)
      (nonempty : digits ≠ [])
      (stops : NoDigit base rest)
      (noPrefix : hexPrefix = [] → ¬ HexPrefix base ((text ++ rest).take 2)) :
      ReadsNumber base (spaces ++ (sign ++ (hexPrefix ++ (text ++ rest))))
        { negative := negative, magnitude := numberOf base digits } rest

theorem skipSpace_append
    {spaces : List Char} (input : List Char) (areSpaces : Spaces spaces)
    (noSpace : ∀ char ∈ input.head?, isSpace char = false) :
    skipSpace (spaces ++ input) = input := by
  rw [skipSpace, List.dropWhile_append_of_pos areSpaces]
  cases input with
  | nil => rfl
  | cons char rest =>
      exact List.dropWhile_cons_of_neg (by simp [noSpace char rfl])

theorem skipSpace_spec (input : List Char) :
    ∃ spaces, input = spaces ++ skipSpace input ∧ Spaces spaces := by
  refine ⟨input.takeWhile isSpace, ?_, ?_⟩
  · exact (List.takeWhile_append_dropWhile ..).symm
  · intro char isChar
    exact List.mem_takeWhile_imp isChar

/-- The codes of the characters that are digits. -/
theorem codes_of_digitValue
    {base digit : ℕ} {char : Char} (isDigit : digitValue base char = some digit) :
    (48 ≤ char.toNat ∧ char.toNat ≤ 57) ∨
      (65 ≤ char.toNat ∧ char.toNat ≤ 70) ∨
      (97 ≤ char.toNat ∧ char.toNat ≤ 102) := by
  by_contra noCode
  have noValue : charValue char = none := by
    unfold charValue
    rw [if_neg (by omega), if_neg (by omega), if_neg (by omega)]
  simp [digitValue, noValue] at isDigit

/-- A digit is neither a space nor a sign. -/
theorem ne_of_digitValue
    {base digit : ℕ} {char : Char} (isDigit : digitValue base char = some digit) :
    isSpace char = false ∧ char ≠ '-' ∧ char ≠ '+' := by
  have codes := codes_of_digitValue isDigit
  refine ⟨?_, ?_, ?_⟩
  · simp only [isSpace, Bool.or_eq_false_iff, beq_eq_false_iff_ne, ne_eq,
      Bool.and_eq_false_iff, decide_eq_false_iff_not]
    omega
  · rintro rfl
    revert codes
    decide
  · rintro rfl
    revert codes
    decide

/-- A text that spells digits begins with one. -/
theorem Spells.head
    {base : ℕ} {text : List Char} {digits : List ℕ}
    (spells : Spells base text digits) (nonempty : digits ≠ []) :
    ∃ char digit later, text = char :: later ∧
      digitValue base char = some digit := by
  cases text with
  | nil =>
      cases digits with
      | nil => exact absurd rfl nonempty
      | cons digit digits => cases spells
  | cons char later =>
      cases digits with
      | nil => exact absurd rfl nonempty
      | cons digit digits =>
          exact ⟨char, digit, later, rfl, (List.cons_eq_cons.mp spells).1⟩

/-- What comes after the spaces of a number begins with none. -/
theorem head_of_number
    {base : ℕ} {negative : Bool} {sign hexPrefix text : List Char}
    {digits : List ℕ} (rest : List Char) (isSign : SignText negative sign)
    (isPrefix : hexPrefix = [] ∨ HexPrefix base hexPrefix)
    (spells : Spells base text digits) (nonempty : digits ≠ []) :
    ∃ char later, sign ++ (hexPrefix ++ (text ++ rest)) = char :: later ∧
      isSpace char = false ∧
      takeSign (char :: later) = (negative, hexPrefix ++ (text ++ rest)) := by
  obtain ⟨first, digit, later, isText, isDigit⟩ := spells.head nonempty
  obtain ⟨noSpace, noMinus, noPlus⟩ := ne_of_digitValue isDigit
  rcases isSign with ⟨rfl, rfl⟩ | ⟨rfl, rfl | rfl⟩
  · exact ⟨'-', _, rfl, rfl, rfl⟩
  · exact ⟨'+', _, rfl, rfl, rfl⟩
  · rcases isPrefix with rfl | ⟨-, rfl | rfl⟩
    · refine ⟨first, later ++ rest, ?_, noSpace, ?_⟩
      · simp [isText]
      · simp [takeSign, noMinus, noPlus, isText]
    · exact ⟨'0', _, rfl, rfl, rfl⟩
    · exact ⟨'0', _, rfl, rfl, rfl⟩

/-- A number that the input begins with is found. -/
theorem ReadsNumber.takeNumber
    {base : ℕ} {input rest : List Char} {number : Number}
    (reads : ReadsNumber base input number rest) :
    takeNumber base input = .ok (number, rest) := by
  obtain ⟨areSpaces, isSign, isPrefix, spells, nonempty, stops, noPrefix⟩ := reads
  obtain ⟨char, later, whole, noSpace, signed⟩ :=
    head_of_number rest isSign isPrefix spells nonempty
  have skipped := skipSpace_append (char :: later) areSpaces
    (by rintro other ⟨⟩; exact noSpace)
  have unprefixed : ∀ hexPrefix text : List Char,
      (hexPrefix = [] ∨ HexPrefix base hexPrefix) →
      (hexPrefix = [] → ¬ HexPrefix base ((text ++ rest).take 2)) →
      skipHexPrefix base (hexPrefix ++ (text ++ rest)) = text ++ rest := by
    rintro hexPrefix text (rfl | isHex) noPrefix
    · rw [List.nil_append, skipHexPrefix, if_neg (noPrefix rfl)]
    · have two : hexPrefix.length = 2 := by
        rcases isHex.2 with rfl | rfl
        · rfl
        · rfl
      rw [skipHexPrefix, List.take_left' two, if_pos isHex, List.drop_left' two]
  rw [whole, Text.takeNumber, skipped, if_neg (List.cons_ne_nil _ _), signed]
  simp only [unprefixed _ _ isPrefix noPrefix, takeDigits_append spells stops,
    if_neg nonempty]

theorem takeSign_spec (input : List Char) :
    ∃ sign, input = sign ++ (takeSign input).2 ∧
      SignText (takeSign input).1 sign := by
  unfold takeSign
  cases input with
  | nil => exact ⟨[], rfl, Or.inr ⟨rfl, Or.inr rfl⟩⟩
  | cons char rest =>
      simp only [List.head?_cons, List.tail_cons, Option.some.injEq]
      split
      · next isMinus => exact ⟨['-'], by simp [isMinus], Or.inl ⟨rfl, rfl⟩⟩
      · split
        · next isPlus =>
            exact ⟨['+'], by simp [isPlus], Or.inr ⟨rfl, Or.inl rfl⟩⟩
        · exact ⟨[], rfl, Or.inr ⟨rfl, Or.inr rfl⟩⟩

/-- A number that is found is one that the input begins with. -/
theorem readsNumber_of_takeNumber
    {base : ℕ} {input rest : List Char} {number : Number}
    (takes : takeNumber base input = .ok (number, rest)) :
    ReadsNumber base input number rest := by
  unfold takeNumber at takes
  split at takes
  · cases takes
  · simp only at takes
    split at takes
    · cases takes
    · next nonempty =>
        cases takes
        obtain ⟨spaces, whole, areSpaces⟩ := skipSpace_spec input
        obtain ⟨sign, behind, isSign⟩ := takeSign_spec (skipSpace input)
        obtain ⟨text, isText, spells, stops⟩ := takeDigits_spec base
          (skipHexPrefix base (takeSign (skipSpace input)).2)
        by_cases isHex :
            HexPrefix base ((takeSign (skipSpace input)).2.take 2)
        · have prefixed := List.take_append_drop 2 (takeSign (skipSpace input)).2
          have read := ReadsNumber.intro areSpaces isSign (Or.inr isHex) spells
            nonempty stops
            (fun isNil => by rw [isNil] at isHex; simp [HexPrefix] at isHex)
          rw [← isText, skipHexPrefix, if_pos isHex, prefixed, ← behind,
            ← whole] at read
          rw [skipHexPrefix, if_pos isHex]
          exact read
        · have same : skipHexPrefix base (takeSign (skipSpace input)).2 =
              (takeSign (skipSpace input)).2 := by
            rw [skipHexPrefix, if_neg isHex]
          rw [same] at isText spells stops nonempty ⊢
          have read := ReadsNumber.intro areSpaces isSign (Or.inl rfl) spells
            nonempty stops (fun _ => by rw [← isText]; exact isHex)
          rwa [List.nil_append, ← isText, ← behind, ← whole] at read

/-- The input begins with a word. -/
inductive ReadsWord (width : ℕ) : List Char → List Char → List Char → Prop
  | intro {spaces letters rest : List Char}
      (areSpaces : Spaces spaces)
      (nonempty : letters ≠ [])
      (noSpaces : ∀ char ∈ letters, isSpace char = false)
      (fits : letters.length ≤ width)
      (stops : letters.length < width →
        ∀ char ∈ rest.head?, isSpace char = true) :
      ReadsWord width (spaces ++ (letters ++ rest)) letters rest

theorem takeLetters_append
    {width : ℕ} {letters rest : List Char}
    (noSpaces : ∀ char ∈ letters, isSpace char = false)
    (fits : letters.length ≤ width)
    (stops : letters.length < width →
      ∀ char ∈ rest.head?, isSpace char = true) :
    takeLetters width (letters ++ rest) = (letters, rest) := by
  induction letters generalizing width with
  | nil =>
      cases width with
      | zero => rfl
      | succ width =>
          cases rest with
          | nil => rfl
          | cons char later =>
              have isStop := stops (Nat.succ_pos width) char rfl
              simp [takeLetters, isStop]
  | cons char letters inductionHypothesis =>
      cases width with
      | zero => cases fits
      | succ width =>
          have notSpace := noSpaces char List.mem_cons_self
          rw [List.length_cons] at fits stops
          have later := inductionHypothesis
            (fun other isLetter =>
              noSpaces other (List.mem_cons_of_mem _ isLetter))
            (Nat.le_of_succ_le_succ fits)
            (fun shorter => stops (Nat.succ_lt_succ shorter))
          simp [takeLetters, notSpace, later]

theorem takeLetters_spec (width : ℕ) (input : List Char) :
    input = (takeLetters width input).1 ++ (takeLetters width input).2 ∧
      (∀ char ∈ (takeLetters width input).1, isSpace char = false) ∧
      (takeLetters width input).1.length ≤ width ∧
      ((takeLetters width input).1.length < width →
        ∀ char ∈ (takeLetters width input).2.head?, isSpace char = true) := by
  induction width generalizing input with
  | zero => simp [takeLetters]
  | succ width inductionHypothesis =>
      cases input with
      | nil => simp [takeLetters]
      | cons char rest =>
          cases isStop : isSpace char with
          | true => simp [takeLetters, isStop]
          | false =>
              obtain ⟨whole, noSpaces, fits, stops⟩ := inductionHypothesis rest
              simp only [takeLetters, isStop, Bool.false_eq_true, if_false,
                List.cons_append, List.length_cons]
              refine ⟨by rw [← whole], ?_, by omega, ?_⟩
              · intro other isLetter
                rcases List.mem_cons.mp isLetter with rfl | isLater
                · exact isStop
                · exact noSpaces other isLater
              · intro shorter
                exact stops (by omega)

/-- A word that the input begins with is found. -/
theorem ReadsWord.takeWord
    {width : ℕ} {input letters rest : List Char}
    (reads : ReadsWord width input letters rest) :
    takeWord width input = .ok (letters, rest) := by
  obtain ⟨areSpaces, nonempty, noSpaces, fits, stops⟩ := reads
  have skipped := skipSpace_append (letters ++ rest) areSpaces (by
    intro char isHead
    cases letters with
    | nil => exact absurd rfl nonempty
    | cons first later =>
        cases isHead
        exact noSpaces _ List.mem_cons_self)
  rw [Text.takeWord, skipped, if_neg (by simp [nonempty]),
    takeLetters_append noSpaces fits stops]

/-- A word that is found is one that the input begins with. -/
theorem readsWord_of_takeWord
    {width : ℕ} (positive : 0 < width) {input letters rest : List Char}
    (takes : takeWord width input = .ok (letters, rest)) :
    ReadsWord width input letters rest := by
  unfold takeWord at takes
  split at takes
  · cases takes
  · next notEnd =>
      have isTaken : takeLetters width (skipSpace input) = (letters, rest) := by
        simpa using takes
      obtain ⟨spaces, whole, areSpaces⟩ := skipSpace_spec input
      obtain ⟨split, noSpaces, fits, stops⟩ :=
        takeLetters_spec width (skipSpace input)
      rw [isTaken] at split noSpaces fits stops
      have nonempty : letters ≠ [] := by
        rintro rfl
        -- what is left after the spaces begins with no space
        have isSpaceNext := stops positive
        cases isHead : skipSpace input with
        | nil => exact notEnd isHead
        | cons char later =>
            rw [List.nil_append] at split
            have isNext := isSpaceNext char (by rw [← split, isHead]; rfl)
            have noSpace := List.head?_dropWhile_not isSpace input
            have dropped : input.dropWhile isSpace = char :: later := isHead
            rw [dropped, List.head?_cons] at noSpace
            rw [noSpace] at isNext
            cases isNext
      rw [whole, split]
      exact ReadsWord.intro areSpaces nonempty noSpaces fits stops

/-! ## What a format reads -/

/-- What a directive takes off its input. -/
inductive Reads : Directive → List Char → List Value → List Char → Prop
  | literal (char : Char) (rest : List Char) :
      Reads (.literal char) (char :: rest) [] rest
  | int {input rest : List Char} {number : Number}
      (reads : ReadsNumber 10 input number rest) :
      Reads .int input [.int number.toInt32] rest
  | skipInt {input rest : List Char} {number : Number}
      (reads : ReadsNumber 10 input number rest) :
      Reads .skipInt input [] rest
  | unsigned {base : ℕ} {input rest : List Char} {number : Number}
      (reads : ReadsNumber base input number rest) :
      Reads (.unsigned base) input [.unsigned number.toUInt64] rest
  | word {width : ℕ} {input letters rest : List Char}
      (reads : ReadsWord width input letters rest) :
      Reads (.word width) input [.word letters] rest

theorem Reads.take
    {directive : Directive} {input rest : List Char} {values : List Value}
    (reads : Reads directive input values rest) :
    directive.take input = .ok (values, rest) := by
  cases reads with
  | literal char => simp [Directive.take]
  | int reads =>
      rw [Directive.take, reads.takeNumber]
      rfl
  | skipInt reads =>
      rw [Directive.take, reads.takeNumber]
      rfl
  | unsigned reads =>
      rw [Directive.take, reads.takeNumber]
      rfl
  | word reads =>
      rw [Directive.take, reads.takeWord]
      rfl

/-- A word has a width. -/
def Directive.Sensible : Directive → Prop
  | .word width => 0 < width
  | _ => True

theorem reads_of_take
    {directive : Directive} (sensible : directive.Sensible)
    {input rest : List Char} {values : List Value}
    (takes : directive.take input = .ok (values, rest)) :
    Reads directive input values rest := by
  cases directive with
  | literal char =>
      cases input with
      | nil => cases takes
      | cons head later =>
          simp only [Directive.take] at takes
          split at takes
          · next isChar =>
              cases takes
              rw [isChar]
              exact Reads.literal char _
          · cases takes
  | int =>
      simp only [Directive.take] at takes
      cases found : takeNumber 10 input with
      | error failure =>
          rw [found] at takes
          cases takes
      | ok result =>
          rw [found] at takes
          cases takes
          exact Reads.int (readsNumber_of_takeNumber found)
  | skipInt =>
      simp only [Directive.take] at takes
      cases found : takeNumber 10 input with
      | error failure =>
          rw [found] at takes
          cases takes
      | ok result =>
          rw [found] at takes
          cases takes
          exact Reads.skipInt (readsNumber_of_takeNumber found)
  | unsigned base =>
      simp only [Directive.take] at takes
      cases found : takeNumber base input with
      | error failure =>
          rw [found] at takes
          cases takes
      | ok result =>
          rw [found] at takes
          cases takes
          exact Reads.unsigned (readsNumber_of_takeNumber found)
  | word width =>
      simp only [Directive.take] at takes
      cases found : takeWord width input with
      | error failure =>
          rw [found] at takes
          cases takes
      | ok result =>
          rw [found] at takes
          cases takes
          exact Reads.word (readsWord_of_takeWord sensible found)

/-- The input begins with what the format describes. -/
inductive Matches :
    List Directive → List Char → List Value → List Char → Prop
  | nil (input : List Char) : Matches [] input [] input
  | cons {directive : Directive} {format : List Directive}
      {input middle rest : List Char} {values later : List Value}
      (reads : Reads directive input values middle)
      (onward : Matches format middle later rest) :
      Matches (directive :: format) input (values ++ later) rest

/-- A field and the separator behind it. -/
theorem matches_field
    {directive : Directive} {format : List Directive} {separator : Char}
    {text rest last : List Char} {values later : List Value}
    (reads : Reads directive (text ++ separator :: rest) values
      (separator :: rest))
    (onward : Matches format rest later last) :
    Matches (directive :: .literal separator :: format)
      (text ++ separator :: rest) (values ++ later) last :=
  Matches.cons reads (Matches.cons (Reads.literal separator rest) onward)

theorem Matches.scan
    {format : List Directive} {input rest : List Char} {values : List Value}
    (isMatch : Matches format input values rest) :
    (scan format input).values = values ∧
      (scan format input).failure = none := by
  induction isMatch with
  | nil => exact ⟨rfl, rfl⟩
  | cons reads onward inductionHypothesis =>
      obtain ⟨sameValues, noFailure⟩ := inductionHypothesis
      simp only [Text.scan, reads.take]
      exact ⟨by rw [sameValues], noFailure⟩

theorem matches_of_scan
    {format : List Directive} (sensible : ∀ directive ∈ format,
      directive.Sensible) {input : List Char}
    (noFailure : (scan format input).failure = none) :
    ∃ rest, Matches format input (scan format input).values rest := by
  induction format generalizing input with
  | nil => exact ⟨input, Matches.nil input⟩
  | cons directive format inductionHypothesis =>
      cases taken : directive.take input with
      | error failure => simp [scan, taken] at noFailure
      | ok result =>
          obtain ⟨values, middle⟩ := result
          simp only [scan, taken] at noFailure ⊢
          obtain ⟨rest, onward⟩ := inductionHypothesis
            (fun other isDirective =>
              sensible other (List.mem_cons_of_mem _ isDirective)) noFailure
          exact ⟨rest, Matches.cons
            (reads_of_take (sensible directive List.mem_cons_self) taken) onward⟩

/-- What kind of value there is. -/
inductive Kind
  | int
  | unsigned
  | word
  deriving DecidableEq

/-- The kind of a value. -/
def Value.kind : Value → Kind
  | .int _ => .int
  | .unsigned _ => .unsigned
  | .word _ => .word

/-- The kinds of the values a directive assigns. -/
def Directive.kinds : Directive → List Kind
  | .literal _ => []
  | .int => [.int]
  | .skipInt => []
  | .unsigned _ => [.unsigned]
  | .word _ => [.word]

theorem Reads.kinds
    {directive : Directive} {input rest : List Char} {values : List Value}
    (reads : Reads directive input values rest) :
    values.map Value.kind = directive.kinds := by
  cases reads <;> rfl

theorem Matches.kinds
    {format : List Directive} {input rest : List Char} {values : List Value}
    (isMatch : Matches format input values rest) :
    values.map Value.kind = format.flatMap Directive.kinds := by
  induction isMatch with
  | nil => rfl
  | cons reads onward inductionHypothesis =>
      rw [List.map_append, reads.kinds, inductionHypothesis,
        List.flatMap_cons]

/-- A format that ends with a conversion assigns all values only when it does
not fail. -/
theorem length_values_lt_of_failure
    (format : List Directive) (last : Directive) (assigns : last.kinds ≠ [])
    (sensible : ∀ directive ∈ format ++ [last], directive.Sensible)
    {input : List Char}
    (fails : (scan (format ++ [last]) input).failure ≠ none) :
    (scan (format ++ [last]) input).values.length <
      ((format ++ [last]).flatMap Directive.kinds).length := by
  induction format generalizing input with
  | nil =>
      cases taken : last.take input with
      | error failure =>
          simp only [List.nil_append, scan, taken, List.length_nil]
          exact List.length_pos_of_ne_nil (by simpa using assigns)
      | ok result => simp [scan, taken] at fails
  | cons directive format inductionHypothesis =>
      cases taken : directive.take input with
      | error failure =>
          simp only [List.cons_append, scan, taken, List.length_nil]
          have someAssigned := List.length_pos_of_ne_nil assigns
          simp only [List.flatMap_cons, List.flatMap_append, List.flatMap_nil,
            List.length_append]
          omega
      | ok result =>
          obtain ⟨values, middle⟩ := result
          simp only [List.cons_append, scan, taken] at fails ⊢
          have reads := reads_of_take
            (sensible directive (by simp)) taken
          have kinds := congrArg List.length reads.kinds
          rw [List.length_map] at kinds
          have later := inductionHypothesis
            (fun other isDirective =>
              sensible other (List.mem_cons_of_mem _ isDirective)) fails
          rw [List.flatMap_cons, List.length_append, List.length_append]
          omega

theorem skipSpace_eq_nil_iff {input : List Char} :
    skipSpace input = [] ↔ Spaces input := by
  simp [skipSpace, Spaces]

/-- A number is not found at the end of the input only behind spaces. -/
theorem takeNumber_error
    {base : ℕ} {input : List Char} {failure : Failure}
    (fails : takeNumber base input = .error failure) :
    failure = .input ↔ Spaces input := by
  unfold takeNumber at fails
  rw [← skipSpace_eq_nil_iff]
  split at fails
  · next atEnd =>
      cases fails
      exact ⟨fun _ => atEnd, fun _ => rfl⟩
  · next notEnd =>
      simp only at fails
      split at fails
      · cases fails
        exact ⟨fun isInput => Failure.noConfusion isInput,
          fun atEnd => absurd atEnd notEnd⟩
      · cases fails

/-! ## Numbers that were printed -/

/-- `%d`. -/
def printInt (value : ℤ) : List Char :=
  if value < 0 then '-' :: numeral 10 value.natAbs
  else numeral 10 value.natAbs

/-- A separator comes next, or nothing. -/
def Separated (rest : List Char) : Prop :=
  ∀ char ∈ rest.head?, char = '-' ∨ char = ':'

theorem separated_nil : Separated [] :=
  fun _ isHead => by cases isHead

theorem separated_dash (rest : List Char) : Separated ('-' :: rest) := by
  rintro char ⟨⟩
  exact Or.inl rfl

theorem separated_colon (rest : List Char) : Separated (':' :: rest) := by
  rintro char ⟨⟩
  exact Or.inr rfl

theorem Separated.noDigit
    {rest : List Char} (separated : Separated rest) (base : ℕ) :
    NoDigit base rest := by
  intro char isHead
  rcases separated char isHead with rfl | rfl
  · rfl
  · rfl

/-- No numeral that is followed by a separator looks like a prefix. -/
theorem not_hexPrefix
    {base : ℕ} {text rest : List Char} {digits : List ℕ}
    (spells : Spells base text digits) (separated : Separated rest) :
    ¬ HexPrefix base ((text ++ rest).take 2) := by
  rintro ⟨-, isPrefix⟩
  have noLetter : ∀ letter, letter = 'x' ∨ letter = 'X' →
      (text ++ rest).take 2 ≠ ['0', letter] := by
    intro letter isLetter taken
    cases text with
    | nil =>
        cases rest with
        | nil => cases taken
        | cons char later =>
            have isZero : char = '0' := (List.cons_eq_cons.mp taken).1
            rcases separated char rfl with rfl | rfl
            · cases isZero
            · cases isZero
    | cons first text =>
        cases text with
        | nil =>
            cases rest with
            | nil => cases taken
            | cons char later =>
                have same : char = letter := by
                  simp only [List.singleton_append, List.take_succ_cons,
                    List.take_zero, List.cons.injEq, and_true] at taken
                  exact taken.2
                rcases separated char rfl with rfl | rfl
                · rcases isLetter with rfl | rfl
                  · cases same
                  · cases same
                · rcases isLetter with rfl | rfl
                  · cases same
                  · cases same
        | cons second text =>
            have same : second = letter := by
              simp only [List.cons_append, List.take_succ_cons,
                List.take_zero, List.cons.injEq, and_true] at taken
              exact taken.2
            have isDigit : ∃ digit, digitValue base second = some digit := by
              have isMember : digitValue base second ∈ digits.map some := by
                rw [← spells]
                simp
              obtain ⟨digit, -, isDigit⟩ := List.mem_map.mp isMember
              exact ⟨digit, isDigit.symm⟩
            obtain ⟨digit, isDigit⟩ := isDigit
            have codes := codes_of_digitValue isDigit
            rcases isLetter with rfl | rfl
            · rw [same] at codes
              revert codes
              decide
            · rw [same] at codes
              revert codes
              decide
  rcases isPrefix with taken | taken
  · exact noLetter 'x' (Or.inl rfl) taken
  · exact noLetter 'X' (Or.inr rfl) taken

/-- The digits of a number that was written in a base are read in the same or
a greater base, up to the separator. -/
theorem readsNumber_digits
    {base other : ℕ} (positive : 1 < base) (le : base ≤ other)
    (small : other ≤ 16) {negative : Bool} {sign rest : List Char}
    (isSign : SignText negative sign) (number : ℕ)
    (separated : Separated rest) :
    ReadsNumber other (sign ++ (numeral base number ++ rest))
      { negative := negative
        magnitude := numberOf other (numeralDigits base number) } rest := by
  have spells := spells_numeral positive le small number
  have noSpaces : Spaces [] := fun _ isChar => by cases isChar
  exact ReadsNumber.intro noSpaces isSign (Or.inl rfl) spells
    (numeralDigits_ne_nil base number) (separated.noDigit other)
    (fun _ => not_hexPrefix spells separated)

/-- A number that was written is read. -/
theorem readsNumber_numeral
    {base : ℕ} (positive : 1 < base) (small : base ≤ 16) {negative : Bool}
    {sign rest : List Char} (isSign : SignText negative sign) (number : ℕ)
    (separated : Separated rest) :
    ReadsNumber base (sign ++ (numeral base number ++ rest))
      { negative := negative, magnitude := number } rest := by
  have read := readsNumber_digits positive (Nat.le_refl base) small isSign
    number separated
  rwa [numberOf_numeralDigits] at read

/-- The number that is printed. -/
def Number.ofInt (value : ℤ) : Number where
  negative := decide (value < 0)
  magnitude := value.natAbs

theorem readsNumber_printInt
    (value : ℤ) {rest : List Char} (separated : Separated rest) :
    ReadsNumber 10 (printInt value ++ rest) (Number.ofInt value) rest := by
  unfold printInt
  split
  · next isNegative =>
      exact readsNumber_numeral (by decide) (by decide)
        (Or.inl ⟨decide_eq_true isNegative, rfl⟩) _ separated
  · next notNegative =>
      exact readsNumber_numeral (by decide) (by decide)
        (Or.inr ⟨decide_eq_false notNegative, Or.inr rfl⟩) _ separated

/-- Decimal numbers have no prefix: any character that is no digit ends them. -/
theorem readsNumber_printInt_of_noDigit
    (value : ℤ) {rest : List Char} (stops : NoDigit 10 rest) :
    ReadsNumber 10 (printInt value ++ rest) (Number.ofInt value) rest := by
  have noSpaces : Spaces [] := fun _ isChar => by cases isChar
  have spells := spells_numeral (by decide : 1 < 10) (Nat.le_refl 10)
    (by decide) value.natAbs
  have noPrefix : ([] : List Char) = [] → ¬ HexPrefix 10
      ((numeral 10 value.natAbs ++ rest).take 2) :=
    fun _ isPrefix => absurd isPrefix.1 (by decide)
  have reads {negative : Bool} {sign : List Char}
      (isSign : SignText negative sign) :
      ReadsNumber 10 (sign ++ (numeral 10 value.natAbs ++ rest))
        { negative := negative, magnitude := value.natAbs } rest := by
    have read := ReadsNumber.intro noSpaces isSign (Or.inl rfl) spells
      (numeralDigits_ne_nil 10 value.natAbs) stops noPrefix
    rwa [numberOf_numeralDigits] at read
  unfold printInt
  split
  · next isNegative =>
      exact reads (Or.inl ⟨decide_eq_true isNegative, rfl⟩)
  · next notNegative =>
      exact reads (Or.inr ⟨decide_eq_false notNegative, Or.inr rfl⟩)

/-- An `int` fits a `long`. -/
theorem toInt32_ofInt (value : Int32) :
    (Number.ofInt value.toInt).toInt32 = value := by
  have above := value.toInt_lt
  have below := value.le_toInt
  have isLong : (Number.ofInt value.toInt).toLong = value.toInt := by
    unfold Number.toLong Number.ofInt
    split
    · next isNegative =>
        have negative := of_decide_eq_true isNegative
        simp only
        omega
    · next notNegative =>
        have positive : ¬ value.toInt < 0 := by simpa using notNegative
        simp only
        omega
  rw [Number.toInt32, isLong, Int32.ofInt_toInt]

theorem reads_int
    (value : Int32) {rest : List Char} (separated : Separated rest) :
    Reads .int (printInt value.toInt ++ rest) [.int value] rest := by
  have read := Reads.int (readsNumber_printInt value.toInt separated)
  rwa [toInt32_ofInt] at read

theorem reads_int_of_noDigit
    (value : Int32) {rest : List Char} (stops : NoDigit 10 rest) :
    Reads .int (printInt value.toInt ++ rest) [.int value] rest := by
  have read := Reads.int (readsNumber_printInt_of_noDigit value.toInt stops)
  rwa [toInt32_ofInt] at read

theorem reads_skipInt
    (value : ℤ) {rest : List Char} (separated : Separated rest) :
    Reads .skipInt (printInt value ++ rest) [] rest :=
  Reads.skipInt (readsNumber_printInt value separated)

theorem reads_unsigned
    {base : ℕ} (positive : 1 < base) (small : base ≤ 16) (value : UInt64)
    {rest : List Char} (separated : Separated rest) :
    Reads (.unsigned base) (numeral base value.toNat ++ rest)
      [.unsigned value] rest := by
  have read := Reads.unsigned (readsNumber_numeral positive small
    (Or.inr ⟨rfl, Or.inr rfl⟩ : SignText false []) value.toNat separated)
  have bound := value.toNat_lt
  have same : Number.toUInt64 { negative := false, magnitude := value.toNat } =
      value := by
    simp [Number.toUInt64, Nat.not_le.mpr bound]
  rwa [same] at read

end Text
end Multimaster
