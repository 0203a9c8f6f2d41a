import Mathlib.Data.List.Nodup
import Mathlib.Order.Defs.LinearOrder
import Mathlib.Order.Lattice

/-!
# Searches that keep the best candidate seen

A search comes to candidates one after the other and keeps the best one: the
larger size wins, and among equal sizes the smaller key.  It may leave out a part
in which nothing is larger than the incumbent.  That costs the candidates of a
part which can only tie: a part that holds a single candidate of its largest size
loses it when the incumbent has the same size already.
-/

namespace Multimaster

/-- A candidate in the order of the search; it is alone if it is the only one of
the largest size that some part of the search could hold. -/
structure Listed (Candidate : Type*) where
  candidate : Candidate
  alone : Bool
  deriving Repr, DecidableEq

variable {Candidate Key : Type*} [LinearOrder Key]

section Keep

variable (size : Candidate → ℕ) (key : Candidate → Key)

/-- The candidate beats the incumbent. -/
def Beats (candidate incumbent : Candidate) : Prop :=
  size incumbent < size candidate ∨
    size incumbent = size candidate ∧ key candidate < key incumbent

instance (candidate incumbent : Candidate) :
    Decidable (Beats size key candidate incumbent) :=
  inferInstanceAs (Decidable (_ ∨ _))

/-- The incumbent after a candidate was offered. -/
def keepBetter (incumbent candidate : Candidate) : Candidate :=
  if Beats size key candidate incumbent then candidate else incumbent

/-- The incumbent after the search came to a candidate, or left out the part that
holds it alone. -/
def consider (incumbent : Candidate) (listed : Listed Candidate) : Candidate :=
  if listed.alone = true ∧ size listed.candidate ≤ size incumbent then incumbent
  else keepBetter size key incumbent listed.candidate

/-- A part that could hold candidates of this size is entered. -/
def Listed.enter (largest : ℕ) (listed : Listed Candidate) :
    Listed Candidate :=
  { listed with
    alone := listed.alone || decide (size listed.candidate = largest) }

end Keep

variable {size : Candidate → ℕ} {key : Candidate → Key}

theorem size_le_keepBetter (incumbent candidate : Candidate) :
    size incumbent ≤ size (keepBetter size key incumbent candidate) ∧
      size candidate ≤ size (keepBetter size key incumbent candidate) := by
  unfold keepBetter
  split
  · next beats =>
      refine ⟨?_, Nat.le_refl _⟩
      rcases beats with smaller | ⟨same, -⟩
      · exact Nat.le_of_lt smaller
      · exact Nat.le_of_eq same
  · next notBeats =>
      exact ⟨Nat.le_refl _, Nat.le_of_not_lt fun smaller =>
        notBeats (.inl smaller)⟩

variable (size key) in
/-- Nothing that is left out is larger than the incumbent. -/
theorem size_le_consider
    (incumbent : Candidate) (listed : Listed Candidate) :
    size incumbent ≤ size (consider size key incumbent listed) ∧
      size listed.candidate ≤ size (consider size key incumbent listed) := by
  unfold consider
  split
  · next leftOut => exact ⟨Nat.le_refl _, leftOut.2⟩
  · exact size_le_keepBetter incumbent listed.candidate

theorem keepBetter_eq_or (incumbent candidate : Candidate) :
    keepBetter size key incumbent candidate = incumbent ∨
      keepBetter size key incumbent candidate = candidate := by
  unfold keepBetter
  split
  · exact .inr rfl
  · exact .inl rfl

variable (size key) in
theorem consider_eq_or (incumbent : Candidate) (listed : Listed Candidate) :
    consider size key incumbent listed = incumbent ∨
      consider size key incumbent listed = listed.candidate := by
  unfold consider
  split
  · exact .inl rfl
  · exact keepBetter_eq_or incumbent listed.candidate

/-- A larger candidate is taken. -/
theorem consider_of_lt
    {incumbent : Candidate} {listed : Listed Candidate}
    (larger : size incumbent < size listed.candidate) :
    consider size key incumbent listed = listed.candidate := by
  unfold consider keepBetter
  rw [if_neg fun leftOut => Nat.not_le_of_lt larger leftOut.2,
    if_pos (.inl larger)]

/-- A smaller one is not. -/
theorem consider_of_gt
    {incumbent : Candidate} {listed : Listed Candidate}
    (smaller : size listed.candidate < size incumbent) :
    consider size key incumbent listed = incumbent := by
  have notBeats : ¬ Beats size key listed.candidate incumbent := by
    rintro (larger | ⟨same, -⟩)
    · omega
    · omega
  unfold consider keepBetter
  rw [if_neg notBeats, ite_self]

/-- A candidate of the same size is not taken if it is alone. -/
theorem consider_of_alone
    {incumbent : Candidate} {listed : Listed Candidate}
    (alone : listed.alone = true)
    (noLarger : size listed.candidate ≤ size incumbent) :
    consider size key incumbent listed = incumbent :=
  if_pos ⟨alone, noLarger⟩

/-! ## A part that is left out -/

/-- What a search over a listing leaves as the incumbent. -/
def searchListing
    (size : Candidate → ℕ) (key : Candidate → Key)
    (incumbent : Candidate) (listing : List (Listed Candidate)) : Candidate :=
  listing.foldl (consider size key) incumbent

theorem searchListing_cons
    (incumbent : Candidate) (listed : Listed Candidate)
    (rest : List (Listed Candidate)) :
    searchListing size key incumbent (listed :: rest) =
      searchListing size key (consider size key incumbent listed) rest :=
  rfl

theorem searchListing_append
    (incumbent : Candidate) (first second : List (Listed Candidate)) :
    searchListing size key incumbent (first ++ second) =
      searchListing size key (searchListing size key incumbent first)
        second :=
  List.foldl_append

/-- A part without larger candidates than the incumbent, whose candidates of the
same size are alone, does not change it. -/
theorem searchListing_eq_self
    {incumbent : Candidate} {listing : List (Listed Candidate)}
    (noLarger : ∀ listed ∈ listing,
      size listed.candidate ≤ size incumbent ∧
        (size listed.candidate = size incumbent → listed.alone = true)) :
    searchListing size key incumbent listing = incumbent := by
  induction listing with
  | nil => rfl
  | cons listed rest inductionHypothesis =>
      obtain ⟨atMost, alone⟩ := noLarger listed List.mem_cons_self
      have unchanged : consider size key incumbent listed = incumbent := by
        rcases Nat.lt_or_eq_of_le atMost with smaller | same
        · exact consider_of_gt smaller
        · exact consider_of_alone (alone same) atMost
      rw [searchListing_cons, unchanged]
      exact inductionHypothesis fun other isOther =>
        noLarger other (List.mem_cons_of_mem _ isOther)

theorem Listed.enter_of_ne
    {largest : ℕ} {listed : Listed Candidate}
    (notLargest : size listed.candidate ≠ largest) :
    listed.enter size largest = listed := by
  rw [Listed.enter, decide_eq_false notLargest, Bool.or_false]

/-- To enter a part of which only one candidate can have the largest size is to
leave it out unless the incumbent is smaller. -/
theorem searchListing_enter
    {largest : ℕ} {incumbent : Candidate} {listing : List (Listed Candidate)}
    (atMost : ∀ listed ∈ listing, size listed.candidate ≤ largest)
    (onlyOne : listing.Pairwise fun first second =>
      size first.candidate = largest → size second.candidate ≠ largest) :
    searchListing size key incumbent
        (listing.map (Listed.enter size largest)) =
      if size incumbent < largest then
        searchListing size key incumbent listing
      else incumbent := by
  split
  · next smaller =>
      induction listing generalizing incumbent with
      | nil => rfl
      | cons listed rest inductionHypothesis =>
          obtain ⟨isOnly, restOnly⟩ := List.pairwise_cons.mp onlyOne
          have restAtMost : ∀ other ∈ rest, size other.candidate ≤ largest :=
            fun other isOther => atMost other (List.mem_cons_of_mem _ isOther)
          rw [List.map_cons, searchListing_cons, searchListing_cons]
          rcases Nat.lt_or_eq_of_le (atMost listed List.mem_cons_self) with
            less | isLargest
          · have stillSmaller :
                size (consider size key incumbent listed) < largest := by
              rcases consider_eq_or size key incumbent listed with same | same
              · rwa [same]
              · rwa [same]
            rw [Listed.enter_of_ne (Nat.ne_of_lt less)]
            exact inductionHypothesis restAtMost restOnly stillSmaller
          · -- the largest candidate is taken, and nothing later is as large
            have sameRest : rest.map (Listed.enter size largest) = rest := by
              conv_rhs => rw [← List.map_id rest]
              exact List.map_congr_left fun other isOther =>
                Listed.enter_of_ne (isOnly other isOther isLargest)
            have larger : size incumbent < size listed.candidate :=
              smaller.trans_eq isLargest.symm
            have entered : consider size key incumbent
                (listed.enter size largest) = listed.candidate :=
              consider_of_lt larger
            rw [sameRest, entered, consider_of_lt larger]
  · next notSmaller =>
      apply searchListing_eq_self
      intro listed isListed
      obtain ⟨other, isOther, rfl⟩ := List.mem_map.mp isListed
      have otherAtMost : size other.candidate ≤ largest := atMost other isOther
      have largestAtMost := Nat.le_of_not_lt notSmaller
      refine ⟨Nat.le_trans otherAtMost largestAtMost, fun same => ?_⟩
      have isLargest : size other.candidate = largest :=
        Nat.le_antisymm otherAtMost
          (Nat.le_trans largestAtMost (Nat.le_of_eq same.symm))
      simp [Listed.enter, isLargest]

/-! ## What a whole search keeps -/

variable (size key) in
/-- The incumbent of a search is at least as large as all it came to. -/
theorem size_le_searchListing
    (incumbent : Candidate) (listing : List (Listed Candidate)) :
    size incumbent ≤ size (searchListing size key incumbent listing) ∧
      ∀ listed ∈ listing, size listed.candidate ≤
        size (searchListing size key incumbent listing) := by
  induction listing generalizing incumbent with
  | nil => exact ⟨Nat.le_refl _, fun _ isListed => by cases isListed⟩
  | cons listed rest inductionHypothesis =>
      obtain ⟨kept, others⟩ :=
        inductionHypothesis (consider size key incumbent listed)
      obtain ⟨before, here⟩ :=
        size_le_consider size key incumbent listed
      rw [searchListing_cons]
      refine ⟨Nat.le_trans before kept, ?_⟩
      intro other isOther
      rcases List.mem_cons.mp isOther with rfl | later
      · exact Nat.le_trans here kept
      · exact others other later

variable (size key) in
/-- It is the first incumbent or one of those it came to. -/
theorem searchListing_mem
    (incumbent : Candidate) (listing : List (Listed Candidate)) :
    searchListing size key incumbent listing = incumbent ∨
      ∃ listed ∈ listing,
        searchListing size key incumbent listing = listed.candidate := by
  induction listing generalizing incumbent with
  | nil => exact .inl rfl
  | cons listed rest inductionHypothesis =>
      rw [searchListing_cons]
      rcases inductionHypothesis (consider size key incumbent listed) with
        same | ⟨other, isOther, same⟩
      · rw [same]
        rcases consider_eq_or size key incumbent listed with
          unchanged | taken
        · exact .inl unchanged
        · exact .inr ⟨listed, List.mem_cons_self, taken⟩
      · exact .inr ⟨other, List.mem_cons_of_mem _ isOther, same⟩

/-- An incumbent that nothing beats stays. -/
theorem searchListing_of_best
    {incumbent : Candidate} {listing : List (Listed Candidate)}
    (best : ∀ listed ∈ listing,
      ¬ Beats size key listed.candidate incumbent) :
    searchListing size key incumbent listing = incumbent := by
  induction listing with
  | nil => rfl
  | cons listed rest inductionHypothesis =>
      have unchanged : consider size key incumbent listed = incumbent := by
        unfold consider keepBetter
        rw [if_neg (best listed List.mem_cons_self), ite_self]
      rw [searchListing_cons, unchanged]
      exact inductionHypothesis fun other isOther =>
        best other (List.mem_cons_of_mem _ isOther)

/-- A search over candidates with different keys keeps the smallest key of the
largest size exactly when this candidate is not alone or comes before the others
of its size. -/
theorem searchListing_eq_iff
    {incumbent : Candidate} {front back : List (Listed Candidate)}
    {least : Listed Candidate}
    (start : size incumbent < size least.candidate)
    (largest : ∀ listed ∈ front ++ back,
      size listed.candidate ≤ size least.candidate)
    (smallest : ∀ listed ∈ front ++ back,
      size listed.candidate = size least.candidate →
        key least.candidate < key listed.candidate) :
    searchListing size key incumbent (front ++ least :: back) =
        least.candidate ↔
      (least.alone = true →
        ∀ earlier ∈ front,
          size earlier.candidate < size least.candidate) := by
  have laterWorse : ∀ listed ∈ back,
      ¬ Beats size key listed.candidate least.candidate := by
    rintro listed isListed (larger | ⟨same, keyLt⟩)
    · have atMost := largest listed (List.mem_append_right _ isListed)
      omega
    · have keyGt := smallest listed (List.mem_append_right _ isListed) same.symm
      exact lt_asymm keyLt keyGt
  have keeps {between : Candidate}
      (taken : consider size key between least = least.candidate) :
      searchListing size key between (least :: back) = least.candidate := by
    rw [searchListing_cons, taken]
    exact searchListing_of_best laterWorse
  have notLeast : ∀ listed ∈ front ++ back,
      listed.candidate ≠ least.candidate := by
    intro listed isListed same
    have keyLt := smallest listed isListed (congrArg size same)
    rw [same] at keyLt
    exact lt_irrefl _ keyLt
  rw [searchListing_append]
  have seen := (size_le_searchListing size key incumbent front).2
  have cases := searchListing_mem size key incumbent front
  generalize searchListing size key incumbent front = between at seen cases ⊢
  by_cases isFirst : ∀ earlier ∈ front,
      size earlier.candidate < size least.candidate
  · have smaller : size between < size least.candidate := by
      rcases cases with same | ⟨found, isFound, same⟩
      · rwa [same]
      · rw [same]
        exact isFirst found isFound
    exact iff_of_true (keeps (consider_of_lt smaller)) fun _ => isFirst
  · -- a candidate of the same size was taken before
    obtain ⟨earlier, isEarlier, notSmaller⟩ :
        ∃ earlier ∈ front,
          ¬ size earlier.candidate < size least.candidate := by
      simpa only [not_forall, exists_prop] using isFirst
    have seenEarlier := seen earlier isEarlier
    obtain ⟨found, isFound, rfl⟩ : ∃ found ∈ front,
        between = found.candidate := by
      rcases cases with same | found
      · rw [same] at seenEarlier
        omega
      · exact found
    have inListing := List.mem_append_left back isFound
    have sameSize : size found.candidate = size least.candidate := by
      have atMost := largest found inListing
      omega
    cases isAlone : least.alone with
    | true =>
        rw [searchListing_cons,
          consider_of_alone isAlone (Nat.le_of_eq sameSize.symm)]
        refine iff_of_false ?_ fun allSmaller =>
          notSmaller (allSmaller rfl earlier isEarlier)
        intro isLeast
        rcases searchListing_mem size key found.candidate back with
          same | ⟨later, isLater, same⟩
        · exact notLeast found inListing (same.symm.trans isLeast)
        · exact notLeast later (List.mem_append_right _ isLater)
            (same.symm.trans isLeast)
    | false =>
        have beats : Beats size key least.candidate found.candidate :=
          .inr ⟨sameSize, smallest found inListing sameSize⟩
        refine iff_of_true (keeps ?_) fun alone => by cases alone
        unfold consider keepBetter
        rw [isAlone, if_pos beats, if_neg (fun leftOut => by cases leftOut.1)]

end Multimaster
