import Mathlib.Data.Finset.Card
import Mathlib.Data.Finset.Filter
import Mathlib.Data.Finset.Range

/-!
# Node masks

A mask of 64 bits, of which only the first `MTM_MAX_NODES` stand for nodes.
-/

namespace Multimaster

/-- `nodemask_t` -/
abbrev Nodemask := BitVec 64

/-- `MAX_NODES` -/
def maxNodes : ℕ := 64

/-- `BIT_CHECK` -/
def bitCheck (mask : Nodemask) (bit : ℕ) : Bool :=
  mask &&& (1#64 <<< bit) != 0#64

/-- `BIT_SET` -/
def bitSet (mask : Nodemask) (bit : ℕ) : Nodemask :=
  mask ||| (1#64 <<< bit)

/-- `MTM_MAX_NODES` -/
def mtmMaxNodes : ℕ := 16

/-- `BIT_CLEAR` -/
def bitClear (mask : Nodemask) (bit : ℕ) : Nodemask :=
  mask &&& ~~~(1#64 <<< bit)

/-- `popcount` counts the nodes of the mask. -/
def popcount (mask : Nodemask) : ℕ :=
  (List.range mtmMaxNodes).countP fun i => bitCheck mask i

/-- `first_set_bit`, with `none` for -1. -/
def firstSetBit (mask : Nodemask) : Option ℕ :=
  (List.range mtmMaxNodes).find? fun i => bitCheck mask i

/-! ## Bits -/

theorem bitCheck_eq_getLsbD (mask : Nodemask) (bit : ℕ) :
    bitCheck mask bit = mask.getLsbD bit := by
  rw [bitCheck, Bool.eq_iff_iff, bne_iff_ne]
  constructor
  · intro notZero
    by_contra isClear
    apply notZero
    ext position inRange
    have otherBit (same : position = bit) : mask.getLsbD position = false := by
      rw [same]
      exact Bool.eq_false_iff.mpr isClear
    grind
  · intro isSet isZero
    have zeroBit := congrArg (BitVec.getLsbD · bit) isZero
    have inRange : bit < 64 := BitVec.lt_of_getLsbD isSet
    simp only [BitVec.getLsbD_and, BitVec.getLsbD_shiftLeft, isSet,
      inRange] at zeroBit
    simp at zeroBit

theorem getLsbD_bitSet (mask : Nodemask) (bit position : ℕ) :
    (bitSet mask bit).getLsbD position =
      (mask.getLsbD position || decide (position < 64 ∧ position = bit)) := by
  rw [bitSet, BitVec.getLsbD_or]
  congr 1
  grind

theorem getLsbD_bitClear (mask : Nodemask) (bit position : ℕ) :
    (bitClear mask bit).getLsbD position =
      (mask.getLsbD position && decide (position ≠ bit)) := by
  rw [bitClear, BitVec.getLsbD_and]
  by_cases inRange : position < 64
  · congr 1
    grind
  · simp [BitVec.getLsbD_of_ge, not_lt.mp inRange]

theorem bitCheck_of_bitClear
    {mask : Nodemask} {bit position : ℕ}
    (isSet : bitCheck (bitClear mask bit) position = true) :
    bitCheck mask position = true := by
  rw [bitCheck_eq_getLsbD, getLsbD_bitClear] at isSet
  rw [bitCheck_eq_getLsbD]
  exact (Bool.and_eq_true_iff.mp isSet).1

theorem bitCheck_bitClear
    {mask : Nodemask} {bit position : ℕ} :
    bitCheck (bitClear mask bit) position =
      (bitCheck mask position && decide (position ≠ bit)) := by
  rw [bitCheck_eq_getLsbD, getLsbD_bitClear, bitCheck_eq_getLsbD]

theorem bitCheck_bitSet
    {mask : Nodemask} {bit position : ℕ} (inRange : position < 64) :
    bitCheck (bitSet mask bit) position =
      (bitCheck mask position || decide (position = bit)) := by
  rw [bitCheck_eq_getLsbD, getLsbD_bitSet, bitCheck_eq_getLsbD]
  simp [inRange]

/-- The vertices in a mask. -/
def members (mask : Nodemask) : Finset ℕ :=
  (Finset.range maxNodes).filter fun vertex => bitCheck mask vertex

theorem mem_members {mask : Nodemask} {vertex : ℕ} :
    vertex ∈ members mask ↔ mask.getLsbD vertex = true := by
  simp only [members, maxNodes, bitCheck_eq_getLsbD, Finset.mem_filter,
    Finset.mem_range, and_iff_right_iff_imp]
  exact BitVec.lt_of_getLsbD

/-! ## The nodes of a mask -/

/-- The nodes of a mask. -/
def nodes (mask : Nodemask) : Finset ℕ :=
  (Finset.range mtmMaxNodes).filter fun i => bitCheck mask i

theorem card_nodes (mask : Nodemask) :
    (nodes mask).card = popcount mask := by
  have isList : nodes mask =
      ((List.range mtmMaxNodes).filter fun i => bitCheck mask i).toFinset := by
    ext i
    simp [nodes]
  rw [popcount, List.countP_eq_length_filter, isList, List.toFinset_card_of_nodup]
  exact List.nodup_range.filter _

theorem mem_nodes {mask : Nodemask} {i : ℕ} :
    i ∈ nodes mask ↔ i < mtmMaxNodes ∧ mask.getLsbD i = true := by
  rw [nodes, Finset.mem_filter, Finset.mem_range, bitCheck_eq_getLsbD]

end Multimaster
