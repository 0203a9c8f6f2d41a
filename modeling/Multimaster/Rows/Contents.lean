import Mathlib.Data.List.Nodup
import Mathlib.Logic.Function.Basic
import Multimaster.Rows.Defs
import Multimaster.Tuple.RoundTrip

/-!
# What the rows of a table mean

A table with an identity index is a partial function from keys to rows, each the
meanings of the columns that are not dropped.  The receiver's list of rows
follows such a function while the changes are applied.
-/

namespace Multimaster
namespace Rows

open Multimaster.Tuple (Attribute ColumnType Datum ReadColumn TupleDesc
  liveAttrs liveColumns liveRead SameLiveTypes Transferred TransferredAll)

variable {Value Class : Type}

/-! ## Rows -/

/-- The columns that are not dropped. -/
def liveOf {Item : Type}
    (attrs : List (Attribute Value)) (items : List Item) : List Item :=
  ((attrs.zip items).filter fun column => !column.1.attisdropped).map Prod.snd

/-- The meanings of the columns that are not dropped. -/
abbrev LogicalRow (Value : Type) := List (Option Value)

/-- What a local row means. -/
def meaningOf (attrs : List (Attribute Value)) (row : LocalRow) :
    LogicalRow Value :=
  List.zipWith (fun att datum => datum.map att.type.meaning) (liveAttrs attrs)
    (liveOf attrs row)

/-- The classes of the values in an index, given by the columns in it. -/
abbrev Key (Class : Type) := List (Option Class)

/-- The key of a row. -/
def keyOf (classOf : Value → Class) :
    List Bool → LogicalRow Value → Key Class
  | isKey :: index, value :: row =>
      if isKey then value.map classOf :: keyOf classOf index row
      else keyOf classOf index row
  | _, _ => []

/-- The value of a column whose datum may be left out. -/
def valueOver
    (type : ColumnType Value) (before : Option Value) : Datum → Option Value
  | .null => none
  | .onDisk => before
  | .indirect bytes => some (type.meaning bytes)
  | .inline bytes => some (type.meaning bytes)

/-- A row after the columns of a tuple have been written over it. -/
def rowOver
    (columns : List (Attribute Value × Datum)) (before : LogicalRow Value) :
    LogicalRow Value :=
  List.zipWith (fun column value => valueOver column.1.type value column.2)
    (liveColumns columns) before

/-- The row of a tuple by itself. -/
def rowOf (columns : List (Attribute Value × Datum)) : LogicalRow Value :=
  rowOver columns (List.replicate (liveColumns columns).length none)

/-! ## Live columns -/

section Live

variable {Item Other : Type} {att : Attribute Value}
variable (attrs : List (Attribute Value))

theorem liveOf_cons_of_dropped
    (dropped : att.attisdropped = true) (item : Item) (items : List Item) :
    liveOf (att :: attrs) (item :: items) = liveOf attrs items := by
  simp [liveOf, dropped]

theorem liveOf_cons_of_live
    (live : att.attisdropped = false) (item : Item) (items : List Item) :
    liveOf (att :: attrs) (item :: items) = item :: liveOf attrs items := by
  simp [liveOf, live]

theorem liveAttrs_cons_of_dropped (dropped : att.attisdropped = true) :
    liveAttrs (att :: attrs) = liveAttrs attrs := by
  simp [liveAttrs, dropped]

theorem liveAttrs_cons_of_live (live : att.attisdropped = false) :
    liveAttrs (att :: attrs) = att :: liveAttrs attrs := by
  simp [liveAttrs, live]

theorem length_liveOf
    {items : List Item} (sameLength : items.length = attrs.length) :
    (liveOf attrs items).length = (liveAttrs attrs).length := by
  induction attrs generalizing items with
  | nil => simp [liveOf, liveAttrs]
  | cons att attrs inductionHypothesis =>
      cases items with
      | nil => cases sameLength
      | cons item items =>
          have rest := inductionHypothesis (Nat.succ_inj.mp sameLength)
          cases dropped : att.attisdropped with
          | true =>
              rwa [liveOf_cons_of_dropped attrs dropped,
                liveAttrs_cons_of_dropped attrs dropped]
          | false =>
              rw [liveOf_cons_of_live attrs dropped,
                liveAttrs_cons_of_live attrs dropped, List.length_cons,
                List.length_cons, rest]

theorem meaningOf_cons_of_dropped
    (dropped : att.attisdropped = true) (datum : Option (List UInt8))
    (row : LocalRow) :
    meaningOf (att :: attrs) (datum :: row) = meaningOf attrs row := by
  rw [meaningOf, liveAttrs_cons_of_dropped attrs dropped,
    liveOf_cons_of_dropped attrs dropped, meaningOf]

theorem meaningOf_cons_of_live
    (live : att.attisdropped = false) (datum : Option (List UInt8))
    (row : LocalRow) :
    meaningOf (att :: attrs) (datum :: row) =
      datum.map att.type.meaning :: meaningOf attrs row := by
  rw [meaningOf, liveAttrs_cons_of_live attrs live,
    liveOf_cons_of_live attrs live, List.zipWith_cons_cons, meaningOf]

theorem liveOf_map (change : Item → Other) (items : List Item) :
    liveOf attrs (items.map change) = (liveOf attrs items).map change := by
  simp [liveOf, List.zip_map_right, List.filter_map, Function.comp_def]

theorem liveOf_zipWith
    {Third : Type} (change : Item → Other → Third) {items : List Item}
    {others : List Other} (sameItems : items.length = attrs.length)
    (sameOthers : others.length = attrs.length) :
    liveOf attrs (List.zipWith change items others) =
      List.zipWith change (liveOf attrs items) (liveOf attrs others) := by
  induction attrs generalizing items others with
  | nil => simp [liveOf]
  | cons att attrs inductionHypothesis =>
      cases items with
      | nil => cases sameItems
      | cons item items =>
          cases others with
          | nil => cases sameOthers
          | cons other others =>
              have rest := inductionHypothesis (Nat.succ_inj.mp sameItems)
                (Nat.succ_inj.mp sameOthers)
              rw [List.zipWith_cons_cons]
              cases dropped : att.attisdropped with
              | true =>
                  rwa [liveOf_cons_of_dropped attrs dropped,
                    liveOf_cons_of_dropped attrs dropped,
                    liveOf_cons_of_dropped attrs dropped]
              | false =>
                  rw [liveOf_cons_of_live attrs dropped,
                    liveOf_cons_of_live attrs dropped,
                    liveOf_cons_of_live attrs dropped, List.zipWith_cons_cons,
                    rest]

end Live

/-! ## Tuples that were read -/

/-- What is written over a datum means what the sender had. -/
theorem valueOver_of_transferred
    {type : ColumnType Value} {sent : Datum} {column : ReadColumn}
    (transferred : Transferred type sent column)
    (datum : Option (List UInt8)) :
    (if column.changed then if column.isnull then none else column.value
      else datum).map type.meaning =
      valueOver type (datum.map type.meaning) sent := by
  cases sent with
  | null =>
      obtain ⟨isnull, changed⟩ := transferred
      simp [isnull, changed, valueOver]
  | onDisk =>
      obtain ⟨-, changed⟩ := transferred
      simp [changed, valueOver]
  | indirect bytes =>
      obtain ⟨isnull, changed, back, isBack, same⟩ := transferred
      simp [isnull, changed, isBack, same, valueOver]
  | inline bytes =>
      obtain ⟨isnull, changed, back, isBack, same⟩ := transferred
      simp [isnull, changed, isBack, same, valueOver]

/-- A column that is not marked as changed is null. -/
theorem isnull_of_transferred
    {type : ColumnType Value} {sent : Datum} {column : ReadColumn}
    (transferred : Transferred type sent column)
    (unchanged : column.changed = false) : column.isnull = true := by
  cases sent with
  | null => exact transferred.1
  | onDisk => exact transferred.1
  | indirect bytes => simp [transferred.2.1] at unchanged
  | inline bytes => simp [transferred.2.1] at unchanged

section Columns

variable {attrs : List (Attribute Value)}
variable {sent : List (Attribute Value × Datum)} {columns : List ReadColumn}

/-- Column by column. -/
theorem zipWith_heapModifyTuple
    (row : LocalRow)
    (sameTypes : sent.map (fun column => column.1.type) =
      attrs.map Attribute.type)
    (transferred : List.Forall₂
      (fun sent column => Transferred sent.1.type sent.2 column) sent columns) :
    List.zipWith (fun att datum => datum.map att.type.meaning) attrs
        (heapModifyTuple row columns) =
      List.zipWith (fun column value => valueOver column.1.type value column.2)
        sent
        (List.zipWith (fun att datum => datum.map att.type.meaning) attrs
          row) := by
  induction transferred generalizing attrs row with
  | nil =>
      cases attrs with
      | nil => rfl
      | cons att attrs => cases sameTypes
  | cons first rest inductionHypothesis =>
      cases attrs with
      | nil => cases sameTypes
      | cons att attrs =>
          cases row with
          | nil => simp [heapModifyTuple]
          | cons datum row =>
              obtain ⟨sameType, sameRest⟩ := List.cons_eq_cons.mp sameTypes
              have here := valueOver_of_transferred first datum
              have others := inductionHypothesis row sameRest
              simp only at sameType
              rw [sameType] at here
              unfold heapModifyTuple at others ⊢
              simp only [List.zipWith_cons_cons, others, here, sameType]

/-- A new tuple is one that was written over nulls. -/
theorem heapFormTuple_eq
    (transferred : List.Forall₂
      (fun sent column => Transferred sent.1.type sent.2 column) sent columns) :
    heapFormTuple columns =
      heapModifyTuple (List.replicate sent.length none) columns := by
  induction transferred with
  | nil => rfl
  | cons first rest inductionHypothesis =>
      next sent column sents columns =>
      unfold heapFormTuple heapModifyTuple at inductionHypothesis ⊢
      rw [List.length_cons, List.replicate_succ, List.zipWith_cons_cons,
        ← inductionHypothesis, List.map_cons]
      cases changed : column.changed with
      | true => simp
      | false => simp [isnull_of_transferred first changed]

theorem length_of_transferred
    (all : TransferredAll sent attrs columns) :
    (liveColumns sent).length = (liveAttrs attrs).length := by
  have sameLength := all.live.length_eq
  have live : (liveRead attrs columns).length = (liveAttrs attrs).length :=
    length_liveOf attrs all.length_eq
  rw [sameLength, live]

theorem zipWith_replicate_none (attrs : List (Attribute Value)) (count : ℕ) :
    List.zipWith (fun att datum => datum.map att.type.meaning) attrs
        (List.replicate count (none : Option (List UInt8))) =
      List.replicate (min attrs.length count) none := by
  induction attrs generalizing count with
  | nil => simp
  | cons att attrs inductionHypothesis =>
      cases count with
      | zero => simp
      | succ count =>
          rw [List.replicate_succ, List.zipWith_cons_cons, inductionHypothesis,
            List.length_cons, Nat.succ_min_succ, List.replicate_succ]
          rfl

/-- The modified row means what the sender's row is after the update. -/
theorem meaningOf_heapModifyTuple
    (sameTypes : SameLiveTypes sent attrs)
    (all : TransferredAll sent attrs columns) {row : LocalRow}
    (length : row.length = attrs.length) :
    meaningOf attrs (heapModifyTuple row columns) =
      rowOver sent (meaningOf attrs row) := by
  have live : liveOf attrs (heapModifyTuple row columns) =
      heapModifyTuple (liveOf attrs row) (liveRead attrs columns) :=
    liveOf_zipWith attrs _ length all.length_eq
  rw [meaningOf, live]
  exact zipWith_heapModifyTuple (liveOf attrs row) sameTypes all.live

/-- The new row means what the sender's tuple does. -/
theorem meaningOf_heapFormTuple
    (sameTypes : SameLiveTypes sent attrs)
    (all : TransferredAll sent attrs columns) :
    meaningOf attrs (heapFormTuple columns) = rowOf sent := by
  have live : liveOf attrs (heapFormTuple columns) =
      heapFormTuple (liveRead attrs columns) :=
    liveOf_map attrs _ columns
  have sameLength := length_of_transferred all
  rw [meaningOf, live, heapFormTuple_eq all.live,
    zipWith_heapModifyTuple _ sameTypes all.live, zipWith_replicate_none,
    ← sameLength, Nat.min_self]
  rfl

theorem length_heapFormTuple
    (all : TransferredAll sent attrs columns) :
    (heapFormTuple columns).length = attrs.length := by
  rw [heapFormTuple, List.length_map, all.length_eq]

theorem length_heapModifyTuple
    (all : TransferredAll sent attrs columns) {row : LocalRow}
    (length : row.length = attrs.length) :
    (heapModifyTuple row columns).length = attrs.length := by
  rw [heapModifyTuple, List.length_zipWith, length, all.length_eq,
    Nat.min_self]

end Columns

/-! ## Keys -/

section Keys

variable (classOf : Value → Class)

theorem keyOf_cons_of_key
    (value : Option Value) (index : List Bool) (row : LogicalRow Value) :
    keyOf classOf (true :: index) (value :: row) =
      value.map classOf :: keyOf classOf index row := by
  simp [keyOf]

theorem keyOf_cons_of_other
    (value : Option Value) (index : List Bool) (row : LogicalRow Value) :
    keyOf classOf (false :: index) (value :: row) = keyOf classOf index row := by
  simp [keyOf]

end Keys

/-- The table has an identity index, of columns that are not dropped. -/
structure Identified
    (relation : Relation Value Class) (index : List Bool) : Prop where
  isIndex : relation.idxoid = some index
  length_eq : index.length = relation.desc.attrs.length
  live : ∀ column ∈ relation.desc.attrs.zip index, column.2 = true →
    column.1.attisdropped = false

/-- The key of a local row. -/
def Relation.key
    (relation : Relation Value Class) (index : List Bool) (row : LocalRow) :
    Key Class :=
  keyOf relation.classOf (liveOf relation.desc.attrs index)
    (meaningOf relation.desc.attrs row)

variable [DecidableEq Class]

theorem all_sameKey_iff
    (relation : Relation Value Class) {attrs : List (Attribute Value)}
    {index : List Bool} {first second : LocalRow}
    (sameIndex : index.length = attrs.length)
    (sameFirst : first.length = attrs.length)
    (sameSecond : second.length = attrs.length)
    (live : ∀ column ∈ attrs.zip index, column.2 = true →
      column.1.attisdropped = false) :
    (((attrs.zip index).zip (first.zip second)).all
      fun ((att, isKey), datums) =>
        !isKey ||
          match datums with
          | (some first, some second) => relation.sameDatum att first second
          | _ => false) = true ↔
      keyOf relation.classOf (liveOf attrs index) (meaningOf attrs first) =
          keyOf relation.classOf (liveOf attrs index)
            (meaningOf attrs second) ∧
        none ∉ keyOf relation.classOf (liveOf attrs index)
          (meaningOf attrs first) := by
  induction attrs generalizing index first second with
  | nil => simp [liveOf, keyOf]
  | cons att attrs inductionHypothesis =>
      cases index with
      | nil => cases sameIndex
      | cons isKey index =>
          cases first with
          | nil => cases sameFirst
          | cons one first =>
              cases second with
              | nil => cases sameSecond
              | cons two second =>
                  have rest := inductionHypothesis (Nat.succ_inj.mp sameIndex)
                    (Nat.succ_inj.mp sameFirst) (Nat.succ_inj.mp sameSecond)
                    (fun column isColumn =>
                      live column (List.mem_cons_of_mem _ isColumn))
                  simp only [List.zip_cons_cons, List.all_cons,
                    Bool.and_eq_true, rest]
                  cases isKey with
                  | false =>
                      cases dropped : att.attisdropped with
                      | true =>
                          simp [liveOf_cons_of_dropped attrs dropped,
                            meaningOf_cons_of_dropped attrs dropped]
                      | false =>
                          simp [liveOf_cons_of_live attrs dropped,
                            meaningOf_cons_of_live attrs dropped,
                            keyOf_cons_of_other]
                  | true =>
                      have isLive : att.attisdropped = false :=
                        live (att, true) List.mem_cons_self rfl
                      rw [liveOf_cons_of_live attrs isLive,
                        meaningOf_cons_of_live attrs isLive,
                        meaningOf_cons_of_live attrs isLive,
                        keyOf_cons_of_key, keyOf_cons_of_key]
                      cases one with
                      | none => simp
                      | some one =>
                          cases two with
                          | none => simp
                          | some two =>
                              simp [Relation.sameDatum, and_assoc]

/-- A row is found by the index when it has the key, without nulls. -/
theorem sameKey_iff
    {relation : Relation Value Class} {index : List Bool}
    (identified : Identified relation index) {first second : LocalRow}
    (sameFirst : first.length = relation.desc.attrs.length)
    (sameSecond : second.length = relation.desc.attrs.length) :
    relation.sameKey index first second = true ↔
      relation.key index first = relation.key index second ∧
        none ∉ relation.key index first :=
  all_sameKey_iff relation identified.length_eq sameFirst sameSecond
    identified.live

end Rows
end Multimaster
