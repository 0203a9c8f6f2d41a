import Mathlib.Data.Fintype.Card
import Mathlib.Data.Finset.Card
import Mathlib.Logic.Function.Basic

/-!
# Counting processes by mode

Every process is in at most one mode.  The number of processes in a mode changes
with one process as a counter does that is moved by the process itself.
-/

namespace Multimaster

variable {Process : Type*} {Mode : Type*}

section Count

variable [Fintype Process] [DecidableEq Mode]

/-- The number of processes in a mode. -/
def countIn (modeOf : Process → Option Mode) (mode : Mode) : ℕ :=
  (Finset.univ.filter fun process => modeOf process = some mode).card

theorem countIn_eq_zero
    {modeOf : Process → Option Mode} {mode : Mode} :
    countIn modeOf mode = 0 ↔ ∀ process, modeOf process ≠ some mode := by
  simp [countIn, Finset.filter_eq_empty_iff]

theorem countIn_pos
    {modeOf : Process → Option Mode} {mode : Mode} {process : Process}
    (inMode : modeOf process = some mode) :
    0 < countIn modeOf mode :=
  Finset.card_pos.mpr ⟨process, by simp [inMode]⟩

/-- What a process in a mode, or in none, adds to the count of a mode. -/
def share (own : Option Mode) (mode : Mode) : ℤ :=
  if own = some mode then 1 else 0

@[simp] theorem share_none (mode : Mode) :
    share none mode = 0 := rfl

variable [DecidableEq Process]

/-- The other processes of a mode. -/
theorem countIn_eq_share_add
    (modeOf : Process → Option Mode) (process : Process) (mode : Mode) :
    (countIn modeOf mode : ℤ) =
      share (modeOf process) mode +
        (Finset.univ.filter fun other =>
          other ≠ process ∧ modeOf other = some mode).card := by
  have erased :
      (Finset.univ.filter fun other =>
        other ≠ process ∧ modeOf other = some mode) =
      (Finset.univ.filter fun other => modeOf other = some mode).erase
        process := by
    ext other
    simp
  rw [erased, countIn, share]
  by_cases inMode : modeOf process = some mode
  · have isMember : process ∈
        Finset.univ.filter fun other => modeOf other = some mode := by
      simp [inMode]
    rw [if_pos inMode, ← Finset.card_erase_add_one isMember]
    omega
  · have notMember : process ∉
        Finset.univ.filter fun other => modeOf other = some mode := by
      simp [inMode]
    rw [if_neg inMode, Finset.erase_eq_of_notMem notMember]
    omega

/-- A process that changes its mode takes its share from one count to another. -/
theorem countIn_update
    (modeOf : Process → Option Mode) (process : Process)
    (own : Option Mode) (mode : Mode) :
    (countIn (Function.update modeOf process own) mode : ℤ) =
      countIn modeOf mode - share (modeOf process) mode + share own mode := by
  have others :
      (Finset.univ.filter fun other => other ≠ process ∧
        Function.update modeOf process own other = some mode) =
      Finset.univ.filter fun other =>
        other ≠ process ∧ modeOf other = some mode := by
    ext other
    simp only [Finset.mem_filter, Finset.mem_univ, true_and]
    constructor
    · rintro ⟨different, inMode⟩
      rw [Function.update_of_ne different] at inMode
      exact ⟨different, inMode⟩
    · rintro ⟨different, inMode⟩
      rw [Function.update_of_ne different]
      exact ⟨different, inMode⟩
  rw [countIn_eq_share_add _ process, countIn_eq_share_add modeOf process,
    others, Function.update_self]
  omega

end Count

end Multimaster
