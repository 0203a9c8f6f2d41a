import Multimaster.Lib.Scanf

/-!
# Generated transaction identifiers

`MtmGenerateGid` writes the node, the xid and the number of the generation into
the identifier of a transaction; three functions read them back.  The number of
the generation is written as a decimal number and read as a hexadecimal one.
-/

namespace Multimaster
namespace Gtx

open Text

/-- `MtmGenerateGid`. -/
def mtmGenerateGid (nodeId : Int32) (xid genNum : UInt64) : List Char :=
  'M' :: 'T' :: 'M' :: '-' :: (printInt nodeId.toInt ++ '-' ::
    (numeral 10 xid.toNat ++ '-' :: numeral 10 genNum.toNat))

/-- The directives for the beginning of an identifier. -/
def gidFormat (fields : List Directive) : List Directive :=
  .literal 'M' :: .literal 'T' :: .literal 'M' :: .literal '-' :: fields

/-- `MtmGidParseGenNum`. -/
def mtmGidParseGenNum (gid : List Char) : UInt64 :=
  unsignedAt (scan (gidFormat [.skipInt, .literal '-', .unsigned 10,
    .literal '-', .unsigned 16]) gid).values 1 0

/-- `MtmGidParseNodeId`. -/
def mtmGidParseNodeId (gid : List Char) : Int32 :=
  intAt (scan (gidFormat [.int, .literal '-', .skipInt]) gid).values 0 (-1)

/-- `MtmGidParseXid`. -/
def mtmGidParseXid (gid : List Char) : UInt64 :=
  unsignedAt (scan (gidFormat [.skipInt, .literal '-', .unsigned 10])
    gid).values 0 0

theorem matches_gidFormat
    {fields : List Directive} {text rest : List Char} {values : List Value}
    (isMatch : Matches fields text values rest) :
    Matches (gidFormat fields) ('M' :: 'T' :: 'M' :: '-' :: text) values rest :=
  Matches.cons (Reads.literal _ _) (Matches.cons (Reads.literal _ _)
    (Matches.cons (Reads.literal _ _) (Matches.cons (Reads.literal _ _) isMatch)))

theorem mtmGidParseNodeId_eq (nodeId : Int32) (xid genNum : UInt64) :
    mtmGidParseNodeId (mtmGenerateGid nodeId xid genNum) = nodeId := by
  have second := readsNumber_numeral (by decide : 1 < 10) (by decide)
    (Or.inr ⟨rfl, Or.inr rfl⟩ : SignText false []) xid.toNat
    (separated_dash (numeral 10 genNum.toNat))
  rw [List.nil_append] at second
  have isMatch := matches_gidFormat (matches_field
    (reads_int nodeId (separated_dash _))
    (Matches.cons (Reads.skipInt second) (Matches.nil _)))
  unfold mtmGidParseNodeId
  rw [mtmGenerateGid, isMatch.scan.1]
  rfl

theorem mtmGidParseXid_eq (nodeId : Int32) (xid genNum : UInt64) :
    mtmGidParseXid (mtmGenerateGid nodeId xid genNum) = xid := by
  have second := reads_unsigned (by decide : 1 < 10) (by decide) xid
    (separated_dash (numeral 10 genNum.toNat))
  have isMatch := matches_gidFormat (matches_field
    (reads_skipInt nodeId.toInt (separated_dash _))
    (Matches.cons second (Matches.nil _)))
  unfold mtmGidParseXid
  rw [mtmGenerateGid, isMatch.scan.1]
  rfl

/-- The number of the generation that is read: the decimal digits as hexadecimal
ones. -/
theorem mtmGidParseGenNum_eq (nodeId : Int32) (xid genNum : UInt64) :
    mtmGidParseGenNum (mtmGenerateGid nodeId xid genNum) =
      Number.toUInt64 ⟨false, numberOf 16 (numeralDigits 10 genNum.toNat)⟩ := by
  have third :=
    readsNumber_digits (by decide : 1 < 10) (by decide : 10 ≤ 16) (by decide)
    (Or.inr ⟨rfl, Or.inr rfl⟩ : SignText false []) genNum.toNat separated_nil
  rw [List.append_nil] at third
  have isMatch := matches_gidFormat (matches_field
    (reads_skipInt nodeId.toInt (separated_dash _))
    (matches_field
      (reads_unsigned (by decide : 1 < 10) (by decide) xid (separated_dash _))
      (Matches.cons (Reads.unsigned third) (Matches.nil []))))
  unfold mtmGidParseGenNum
  rw [mtmGenerateGid]
  exact congrArg (fun values => unsignedAt values 1 0) isMatch.scan.1

theorem parseGenNum_eq_iff (genNum : UInt64) :
    Number.toUInt64 ⟨false, numberOf 16 (numeralDigits 10 genNum.toNat)⟩ =
        genNum ↔
      genNum.toNat < 10 ∨ genNum.toNat = 2 ^ 64 - 1 := by
  have bound := genNum.toNat_lt
  by_cases small : genNum.toNat < 10
  · simp [numberOf_numeralDigits_of_lt small, Number.toUInt64,
      Nat.not_le.mpr bound, small]
  · have greater := lt_numberOf_numeralDigits (by decide)
      (by decide : 10 < 16) (Nat.le_of_not_lt small)
    simp only [small, false_or]
    unfold Number.toUInt64
    split
    · -- `strtoul` stops at the greatest number
      constructor
      · intro same
        rw [← same]
        decide
      · intro isMax
        apply UInt64.toNat_inj.mp
        rw [isMax]
        decide
    · next fits =>
        simp only at fits greater
        constructor
        · intro same
          have values := congrArg UInt64.toNat same
          simp only [Bool.false_eq_true, if_false, UInt64.toNat_ofNat'] at values
          omega
        · intro isMax
          omega

/-- An identifier determines what it was generated from. -/
theorem mtmGenerateGid_injective
    {nodeId other : Int32} {xid otherXid genNum otherGenNum : UInt64}
    (same : mtmGenerateGid nodeId xid genNum =
      mtmGenerateGid other otherXid otherGenNum) :
    nodeId = other ∧ xid = otherXid ∧ genNum = otherGenNum := by
  -- with a decimal number at the end, all three values are read back
  have isMatch : ∀ (nodeId : Int32) (xid genNum : UInt64), Matches
      (gidFormat [.int, .literal '-', .unsigned 10, .literal '-', .unsigned 10])
      (mtmGenerateGid nodeId xid genNum)
      [.int nodeId, .unsigned xid, .unsigned genNum] [] := by
    intro nodeId xid genNum
    have third := reads_unsigned (by decide : 1 < 10) (by decide) genNum
      separated_nil
    rw [List.append_nil] at third
    exact matches_gidFormat (matches_field
      (reads_int nodeId (separated_dash _))
      (matches_field
        (reads_unsigned (by decide : 1 < 10) (by decide) xid
          (separated_dash _))
        (Matches.cons third (Matches.nil []))))
  have first := (isMatch nodeId xid genNum).scan.1
  rw [same, (isMatch other otherXid otherGenNum).scan.1] at first
  simp only [List.cons.injEq, Value.int.injEq, Value.unsigned.injEq,
    and_true] at first
  exact ⟨first.1.symm, first.2.1.symm, first.2.2.symm⟩

/-- The three values are read back exactly for numbers of generations with one
digit, and for the greatest one; no other triple ever has the same identifier. -/
theorem gid_round_trip_iff (nodeId : Int32) (xid genNum : UInt64) :
    ((mtmGidParseNodeId (mtmGenerateGid nodeId xid genNum) = nodeId ∧
        mtmGidParseXid (mtmGenerateGid nodeId xid genNum) = xid ∧
        mtmGidParseGenNum (mtmGenerateGid nodeId xid genNum) = genNum) ∧
      ∀ (other : Int32) (otherXid otherGenNum : UInt64),
        (other, otherXid, otherGenNum) ≠ (nodeId, xid, genNum) →
          mtmGenerateGid other otherXid otherGenNum ≠
            mtmGenerateGid nodeId xid genNum) ↔
      genNum.toNat < 10 ∨ genNum.toNat = 2 ^ 64 - 1 := by
  have distinct : ∀ (other : Int32) (otherXid otherGenNum : UInt64),
      (other, otherXid, otherGenNum) ≠ (nodeId, xid, genNum) →
        mtmGenerateGid other otherXid otherGenNum ≠
          mtmGenerateGid nodeId xid genNum := by
    intro other otherXid otherGenNum differs same
    obtain ⟨rfl, rfl, rfl⟩ := mtmGenerateGid_injective same
    exact differs rfl
  rw [and_iff_left distinct]
  simp only [mtmGidParseNodeId_eq, mtmGidParseXid_eq,
    mtmGidParseGenNum_eq, true_and]
  exact parseGenNum_eq_iff genNum

/-- Generation ten is read as generation sixteen. -/
theorem gid_tenth_generation :
    mtmGidParseGenNum (mtmGenerateGid 1 500 10) = 16 ∧ (16 : UInt64) ≠ 10 := by
  decide +kernel

end Gtx
end Multimaster
