import Mathlib.Data.Finset.Basic
import Mathlib.Data.Finset.Lattice.Lemmas
import Mathlib.Data.List.Basic

/-!
# Ledgers of openings and closings

A ledger is a sequence of openings and closings of items.  It is in order when no
open item is opened again and no item is closed that is not open, and then it
leaves a set of open items.
-/

namespace Multimaster
namespace Ledger

/-- An entry of a ledger. -/
inductive Entry (Item : Type*)
  | opening (item : Item)
  | closing (item : Item)
  deriving DecidableEq

variable {Item : Type*} [DecidableEq Item]

/-- The items open after an entry, or `none` when the entry is out of order. -/
def post (items : Finset Item) : Entry Item → Option (Finset Item)
  | .opening item => if item ∈ items then none else some (insert item items)
  | .closing item => if item ∈ items then some (items.erase item) else none

/-- The items open after a sequence of entries, or `none` when one of them was
out of order. -/
def balance (items : Finset Item) : List (Entry Item) → Option (Finset Item)
  | [] => some items
  | entry :: rest => (post items entry).bind fun next => balance next rest

theorem balance_append (items : Finset Item) (first second : List (Entry Item)) :
    balance items (first ++ second) =
      (balance items first).bind fun next => balance next second := by
  induction first generalizing items with
  | nil => rfl
  | cons entry rest inductionHypothesis =>
      simp only [List.cons_append, balance, Option.bind_assoc,
        inductionHypothesis]

/-- Distinct items that are not open can all be opened. -/
theorem balance_openings
    {opened : List Item} (distinct : opened.Nodup)
    (items : Finset Item) (closed : ∀ item ∈ opened, item ∉ items) :
    balance items (opened.map Entry.opening) =
      some (items ∪ opened.toFinset) := by
  induction opened generalizing items with
  | nil => simp [balance]
  | cons item rest inductionHypothesis =>
      obtain ⟨notInRest, restDistinct⟩ := List.nodup_cons.mp distinct
      have itemClosed : item ∉ items := closed item List.mem_cons_self
      have restClosed : ∀ other ∈ rest, other ∉ insert item items := by
        intro other inRest isOpen
        rcases Finset.mem_insert.mp isOpen with same | wasOpen
        · exact notInRest (same ▸ inRest)
        · exact closed other (List.mem_cons_of_mem _ inRest) wasOpen
      simp only [List.map_cons, balance, post, if_neg itemClosed,
        Option.bind_some]
      rw [inductionHypothesis restDistinct _ restClosed, List.toFinset_cons,
        Finset.insert_union, Finset.union_insert]

/-- Distinct items that are open can all be closed. -/
theorem balance_closings
    {closed : List Item} (distinct : closed.Nodup)
    (items : Finset Item) (opened : ∀ item ∈ closed, item ∈ items) :
    balance items (closed.map Entry.closing) =
      some (items \ closed.toFinset) := by
  induction closed generalizing items with
  | nil => simp [balance]
  | cons item rest inductionHypothesis =>
      obtain ⟨notInRest, restDistinct⟩ := List.nodup_cons.mp distinct
      have itemOpen : item ∈ items := opened item List.mem_cons_self
      have restOpen : ∀ other ∈ rest, other ∈ items.erase item := by
        intro other inRest
        refine Finset.mem_erase.mpr
          ⟨?_, opened other (List.mem_cons_of_mem _ inRest)⟩
        intro same
        exact notInRest (same ▸ inRest)
      simp only [List.map_cons, balance, post, if_pos itemOpen, Option.bind_some]
      rw [inductionHypothesis restDistinct _ restOpen, List.toFinset_cons,
        Finset.sdiff_insert, Finset.erase_sdiff_comm]

end Ledger
end Multimaster
