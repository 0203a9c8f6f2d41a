import Mathlib.Logic.Function.Basic

/-!
# Optional entries

A family of entries, each of which may be absent, after one of them was replaced.
-/

namespace Multimaster

variable {Index Entry : Type*} [DecidableEq Index]
variable {entries : Index → Option Entry} {index other : Index}
  {entry next : Entry}

/-- An entry after one was put in is the new one or was there before. -/
theorem update_some_cases
    (isEntry : Function.update entries index (some next) other = some entry) :
    (other = index ∧ entry = next) ∨
      (other ≠ index ∧ entries other = some entry) := by
  rcases eq_or_ne other index with rfl | different
  · rw [Function.update_self] at isEntry
    exact Or.inl ⟨rfl, (Option.some.inj isEntry).symm⟩
  · rw [Function.update_of_ne different] at isEntry
    exact Or.inr ⟨different, isEntry⟩

/-- What holds of the new entry and of those that were there before. -/
theorem forall_update_some
    {Property : Index → Entry → Prop} (isNext : Property index next)
    (others : ∀ other entry, entries other = some entry → Property other entry) :
    ∀ other entry, Function.update entries index (some next) other = some entry →
      Property other entry := by
  intro other entry isEntry
  obtain ⟨rfl, rfl⟩ | ⟨-, wasEntry⟩ := update_some_cases isEntry
  · exact isNext
  · exact others other entry wasEntry

/-- An entry after one was taken out was there before. -/
theorem update_none_cases
    (isEntry : Function.update entries index none other = some entry) :
    other ≠ index ∧ entries other = some entry := by
  rcases eq_or_ne other index with rfl | different
  · rw [Function.update_self] at isEntry
    exact nomatch isEntry
  · rw [Function.update_of_ne different] at isEntry
    exact ⟨different, isEntry⟩

/-- Entries stay when a free place is filled. -/
theorem update_of_free
    {value : Option Entry} (isFree : entries index = none)
    (isEntry : entries other = some entry) :
    Function.update entries index value other = some entry := by
  have different : other ≠ index := by
    rintro rfl
    exact nomatch isFree.symm.trans isEntry
  rwa [Function.update_of_ne different]

end Multimaster
