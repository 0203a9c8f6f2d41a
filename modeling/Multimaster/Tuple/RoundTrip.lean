import Multimaster.Tuple.Defs

/-!
# Round trips of tuples

The writer and the reader agree on which columns are on the wire: a column is
dropped exactly when it has no type.  So the columns of the message are the live
columns of either relation, one by one.
-/

namespace Multimaster
namespace Tuple

open Wire

variable {Value : Type}

/-- What the receiver has for a column, given what the sender had. -/
def Transferred
    (type : ColumnType Value) (sent : Datum) (column : ReadColumn) : Prop :=
  match sent with
  | .null => column.isnull = true ∧ column.changed = true
  | .onDisk => column.isnull = true ∧ column.changed = false
  | .indirect bytes | .inline bytes =>
      column.isnull = false ∧ column.changed = true ∧
        ∃ datum, column.value = some datum ∧
          type.meaning datum = type.meaning bytes

/-! ## One column -/

theorem reads_fetchDatum
    {type : ColumnType Value} {datum : List UInt8} (valid : type.Valid datum) :
    Reads (fetchDatum type datum) [] datum := by
  unfold fetchDatum
  split
  · next byval =>
      have length (size : ℕ) (isFixed : type.length = .fixed size) :
          datum.length = size :=
        type.valid_fixed size datum isFixed valid
      have admissible : datum.length = 1 ∨ datum.length = 2 ∨
          datum.length = 4 ∨ datum.length = 8 := by
        rcases type.byval_length byval with isFixed | isFixed | isFixed | isFixed
        · exact .inl (length 1 isFixed)
        · exact .inr (.inl (length 2 isFixed))
        · exact .inr (.inr (.inl (length 4 isFixed)))
        · exact .inr (.inr (.inr (length 8 isFixed)))
      rw [fetchAtt, if_pos admissible]
      exact Reads.pure datum
  · exact Reads.pure datum

/-- A datum sent in binary comes back byte by byte. -/
theorem reads_binary
    {att : Attribute Value} {datum : List UInt8}
    (valid : att.type.Valid datum) (notCString : att.type.length ≠ .cstring) :
    ∃ bytes, writeBinary att.type datum = some bytes ∧
      Reads (readColumn att) (98 :: bytes)
        { isnull := false, changed := true, value := some datum } := by
  have short : datum.length < 256 ^ 4 :=
    Nat.lt_trans (att.type.valid_short datum valid) (by decide)
  have written : writeBinary att.type datum =
      some (sendInt 4 datum.length ++ datum) := by
    unfold writeBinary
    cases isLength : att.type.length with
    | fixed size => rw [att.type.valid_fixed size datum isLength valid]
    | varlena => rfl
    | cstring => exact absurd isLength notCString
  refine ⟨_, written, ?_⟩
  have reads : Reads (readColumn att)
      (List.flatten [[98], sendInt 4 datum.length, datum, []])
      { isnull := false, changed := true, value := some datum } :=
    (reads_getByte 98).field ((reads_getInt short).field
      ((reads_getBytes datum).field ((reads_fetchDatum valid).field
        (Reads.pure _))))
  simpa using reads

/-- A datum sent as text comes back with the same meaning. -/
theorem reads_text
    {att : Attribute Value} {datum : List UInt8}
    (valid : att.type.Valid datum) :
    ∃ back, att.type.meaning back = att.type.meaning datum ∧
      Reads (readColumn att) (116 :: writeText att.type datum)
        { isnull := false, changed := true, value := some back } := by
  obtain ⟨back, isBack, same⟩ := att.type.input_output datum valid
  refine ⟨back, same, ?_⟩
  have short : (att.type.output datum ++ [0]).length < 256 ^ 4 := by
    have bound := att.type.output_short datum valid
    rw [List.length_append, List.length_singleton]
    omega
  have text : (att.type.output datum ++ [0]).takeWhile (fun byte => byte != 0) =
      att.type.output datum := by
    rw [List.takeWhile_append_of_pos]
    · simp
    · intro byte isByte
      simp only [bne_iff_ne, ne_eq]
      rintro rfl
      exact att.type.output_noZero datum valid isByte
  have readsText : Reads (readText att.type (att.type.output datum ++ [0])) []
      back := by
    rw [readText, text, isBack]
    exact Reads.pure back
  have reads : Reads (readColumn att)
      (List.flatten [[116], sendInt 4 (att.type.output datum ++ [0]).length,
        att.type.output datum ++ [0], []])
      { isnull := false, changed := true, value := some back } :=
    (reads_getByte 116).field ((reads_getInt short).field
      ((reads_getBytes _).field (readsText.field (Reads.pure _))))
  simpa [writeText] using reads

/-- A datum in memory comes back with the same meaning, in either form. -/
theorem reads_datum
    (wantBinary : Bool) {att other : Attribute Value}
    (sameType : other.type = att.type) {datum : List UInt8}
    (valid : att.type.Valid datum) :
    ∃ bytes column, writeDatum wantBinary att datum = some bytes ∧
      Reads (readColumn other) bytes column ∧
      Transferred att.type (.inline datum) column := by
  unfold writeDatum
  split
  · next binary =>
      have notCString : att.type.length ≠ .cstring := by
        intro isCString
        have pseudo := att.type.cstring_pseudo isCString
        simp [decideDatumTransfer, pseudo] at binary
      rw [← sameType] at valid notCString ⊢
      obtain ⟨bytes, written, reads⟩ := reads_binary valid notCString
      rw [written]
      exact ⟨_, _, rfl, reads, rfl, rfl, datum, rfl, rfl⟩
  · rw [← sameType] at valid ⊢
    obtain ⟨back, same, reads⟩ := reads_text valid
    exact ⟨_, _, rfl, reads, rfl, rfl, back, rfl, same⟩

/-- A column comes back as what it was. -/
theorem reads_column
    (wantBinary : Bool) {att other : Attribute Value}
    (sameType : other.type = att.type) {sent : Datum}
    (typed : sent.Of att.type) :
    ∃ bytes column, writeColumn wantBinary att sent = some bytes ∧
      Reads (readColumn other) bytes column ∧
      Transferred att.type sent column := by
  cases sent with
  | null =>
      exact ⟨[110], ⟨true, true, none⟩, rfl, fun _ => rfl, rfl, rfl⟩
  | onDisk =>
      exact ⟨[117], ⟨true, false, none⟩, rfl, fun _ => rfl, rfl, rfl⟩
  | indirect bytes => exact reads_datum wantBinary sameType typed.2
  | inline bytes => exact reads_datum wantBinary sameType typed

/-! ## All columns -/

/-- The columns that are not dropped. -/
def liveColumns (columns : List (Attribute Value × Datum)) :
    List (Attribute Value × Datum) :=
  columns.filter fun column => !column.1.attisdropped

/-- The attributes that are not dropped. -/
def liveAttrs (attrs : List (Attribute Value)) : List (Attribute Value) :=
  attrs.filter fun att => !att.attisdropped

/-- The types of the live columns agree, in order. -/
def SameLiveTypes
    (columns : List (Attribute Value × Datum))
    (attrs : List (Attribute Value)) : Prop :=
  (liveColumns columns).map (fun column => column.1.type) =
    (liveAttrs attrs).map Attribute.type

/-- What was read into the columns that are not dropped. -/
def liveRead
    (attrs : List (Attribute Value)) (columns : List ReadColumn) :
    List ReadColumn :=
  ((attrs.zip columns).filter fun column => !column.1.attisdropped).map
    Prod.snd

/-- What the receiver has for a whole tuple: a column for each of its own, null
and not marked in the dropped ones, and in the live ones the live columns of the
sender in order. -/
structure TransferredAll
    (sent : List (Attribute Value × Datum)) (attrs : List (Attribute Value))
    (columns : List ReadColumn) : Prop where
  length_eq : columns.length = attrs.length
  dropped_null : ∀ column ∈ attrs.zip columns,
    column.1.attisdropped = true →
      column.2.isnull = true ∧ column.2.changed = true
  live : List.Forall₂
    (fun sent column => Transferred sent.1.type sent.2 column)
    (liveColumns sent) (liveRead attrs columns)

theorem liveColumns_cons_of_live
    {column : Attribute Value × Datum}
    (isLive : column.1.attisdropped = false)
    (rest : List (Attribute Value × Datum)) :
    liveColumns (column :: rest) = column :: liveColumns rest := by
  simp [liveColumns, isLive]

/-- The first one of columns that are all live. -/
theorem live_of_liveColumns_eq
    {column : Attribute Value × Datum}
    {rest : List (Attribute Value × Datum)}
    (allLive : liveColumns (column :: rest) = column :: rest) :
    column.1.attisdropped = false ∧ liveColumns rest = rest := by
  have isLive : column.1.attisdropped = false := by
    have isColumn : column ∈ liveColumns (column :: rest) := by
      rw [allLive]
      exact List.mem_cons_self
    simpa [liveColumns] using (List.mem_filter.mp isColumn).2
  rw [liveColumns_cons_of_live isLive, List.cons.injEq] at allLive
  exact ⟨isLive, allLive.2⟩

/-- A dropped column of the receiver takes nothing. -/
theorem TransferredAll.skip
    {sent : List (Attribute Value × Datum)} {attrs : List (Attribute Value)}
    {columns : List ReadColumn} (all : TransferredAll sent attrs columns)
    {att : Attribute Value} (dropped : att.attisdropped = true) :
    TransferredAll sent (att :: attrs) (.absent :: columns) where
  length_eq := by simp [all.length_eq]
  dropped_null := by
    intro column isColumn isDropped
    rw [List.zip_cons_cons, List.mem_cons] at isColumn
    rcases isColumn with rfl | later
    · exact ⟨rfl, rfl⟩
    · exact all.dropped_null column later isDropped
  live := by
    have same : liveRead (att :: attrs) (.absent :: columns) =
        liveRead attrs columns := by
      simp [liveRead, dropped]
    rw [same]
    exact all.live

/-- A live column of the receiver takes the next one. -/
theorem TransferredAll.take
    {sent : List (Attribute Value × Datum)} {attrs : List (Attribute Value)}
    {columns : List ReadColumn} (all : TransferredAll sent attrs columns)
    {first : Attribute Value × Datum}
    (sentLive : first.1.attisdropped = false)
    {att : Attribute Value} (isLive : att.attisdropped = false)
    {column : ReadColumn}
    (transferred : Transferred first.1.type first.2 column) :
    TransferredAll (first :: sent) (att :: attrs) (column :: columns) where
  length_eq := by simp [all.length_eq]
  dropped_null := by
    intro zipped isZipped isDropped
    rw [List.zip_cons_cons, List.mem_cons] at isZipped
    rcases isZipped with rfl | later
    · rw [isLive] at isDropped
      cases isDropped
    · exact all.dropped_null zipped later isDropped
  live := by
    have same : liveRead (att :: attrs) (column :: columns) =
        column :: liveRead attrs columns := by
      simp [liveRead, isLive]
    rw [same, liveColumns_cons_of_live sentLive]
    exact .cons transferred all.live

/-- Dropped columns are not written. -/
theorem writeColumns_liveColumns
    (wantBinary : Bool) (columns : List (Attribute Value × Datum)) :
    writeColumns wantBinary columns =
      writeColumns wantBinary (liveColumns columns) := by
  induction columns with
  | nil => rfl
  | cons column rest inductionHypothesis =>
      obtain ⟨att, datum⟩ := column
      cases dropped : att.attisdropped with
      | true =>
          simp only [writeColumns, liveColumns, dropped, if_true,
            Bool.not_true, Bool.false_eq_true, not_false_eq_true,
            List.filter_cons_of_neg]
          exact inductionHypothesis
      | false =>
          rw [liveColumns_cons_of_live dropped, writeColumns, writeColumns,
            inductionHypothesis]

theorem liveColumns_idem (columns : List (Attribute Value × Datum)) :
    liveColumns (liveColumns columns) = liveColumns columns := by
  simp [liveColumns, List.filter_filter]

/-- The reader takes the live columns one by one into its own. -/
theorem reads_columns
    (wantBinary : Bool) (attrs : List (Attribute Value))
    (sent : List (Attribute Value × Datum))
    (allLive : liveColumns sent = sent)
    (typed : ∀ column ∈ sent, column.2.Of column.1.type)
    (sameTypes : sent.map (fun column => column.1.type) =
      (liveAttrs attrs).map Attribute.type) :
    ∃ bytes columns, writeColumns wantBinary sent = some bytes ∧
      Reads (readColumns attrs) bytes columns ∧
      TransferredAll sent attrs columns := by
  induction attrs generalizing sent with
  | nil =>
      have nothing : sent = [] := by simpa [liveAttrs] using sameTypes
      subst nothing
      refine ⟨[], [], rfl, Reads.pure [], rfl, by simp, ?_⟩
      exact .nil
  | cons att attrs inductionHypothesis =>
      cases dropped : att.attisdropped with
      | true =>
          have noType := att.dropped_iff.mp dropped
          have skipped : liveAttrs (att :: attrs) = liveAttrs attrs := by
            simp [liveAttrs, dropped]
          rw [skipped] at sameTypes
          obtain ⟨bytes, columns, written, reads, all⟩ :=
            inductionHypothesis sent allLive typed sameTypes
          refine ⟨bytes, .absent :: columns, written, ?_, all.skip dropped⟩
          rw [readColumns, if_pos noType]
          exact reads.map fun columns => .absent :: columns
      | false =>
          have hasType : att.atttypid ≠ 0 := by
            intro noType
            rw [att.dropped_iff.mpr noType] at dropped
            cases dropped
          have kept : liveAttrs (att :: attrs) = att :: liveAttrs attrs := by
            simp [liveAttrs, dropped]
          rw [kept, List.map_cons] at sameTypes
          cases sent with
          | nil => cases sameTypes
          | cons first sent =>
              obtain ⟨sentAtt, datum⟩ := first
              rw [List.map_cons, List.cons.injEq] at sameTypes
              obtain ⟨sameType, restTypes⟩ := sameTypes
              obtain ⟨sentLive, restLive⟩ := live_of_liveColumns_eq allLive
              obtain ⟨bytes, columns, written, reads, all⟩ :=
                inductionHypothesis sent restLive
                  (fun column isColumn =>
                    typed column (List.mem_cons_of_mem _ isColumn))
                  restTypes
              obtain ⟨columnBytes, column, columnWritten, columnReads,
                transferred⟩ := reads_column wantBinary sameType.symm
                  (typed _ List.mem_cons_self)
              refine ⟨columnBytes ++ bytes, column :: columns, ?_, ?_,
                all.take sentLive dropped transferred⟩
              · simp only at sentLive
                simp [writeColumns, sentLive, columnWritten, written]
              · rw [readColumns, if_neg hasType]
                refine columnReads.bind ?_
                simp only [dropped, Bool.false_and, Bool.false_eq_true,
                  if_false]
                exact reads.map fun columns => column :: columns

/-- Whatever the types of the live columns are and wherever dropped columns
stand in between: the reader consumes exactly what was written, and has the
live columns of the sender in order, null in its dropped columns. -/
theorem tuple_round_trip
    (wantBinary : Bool) (tuple : DeformedTuple Value) (desc : TupleDesc Value)
    (sameTypes : SameLiveTypes tuple.columns desc.attrs) :
    ∃ bytes columns,
      writeTuple false wantBinary tuple = some bytes ∧
      Reads (readTupleParts desc) bytes columns ∧
      TransferredAll tuple.columns desc.attrs columns := by
  have typed : ∀ column ∈ liveColumns tuple.columns,
      column.2.Of column.1.type := by
    intro column isColumn
    obtain ⟨isMember, isLive⟩ := List.mem_filter.mp isColumn
    exact tuple.typed column isMember (by simpa using isLive)
  obtain ⟨bytes, columns, written, reads, all⟩ :=
    reads_columns wantBinary desc.attrs (liveColumns tuple.columns)
      (liveColumns_idem tuple.columns) typed sameTypes
  have fewer : tuple.nliveatts ≤ desc.attrs.length := by
    have lengths := congrArg List.length sameTypes
    rw [List.length_map, List.length_map] at lengths
    exact Nat.le_trans (Nat.le_of_eq lengths) (List.length_filter_le _ _)
  have fits : tuple.nliveatts < 256 ^ 2 := by
    have bound := desc.natts_le
    rw [maxTupleAttributeNumber] at bound
    omega
  refine ⟨84 :: (sendInt 2 tuple.nliveatts ++ bytes), columns, ?_, ?_, ?_⟩
  · rw [← writeColumns_liveColumns] at written
    simp [writeTuple, written]
  · have header : Reads (readTupleParts desc)
        (List.flatten [[84], sendInt 2 tuple.nliveatts, bytes]) columns := by
      refine (reads_getByte 84).field ?_
      rw [if_neg (by simp)]
      refine (reads_getInt fits).field ?_
      rw [if_neg (Nat.not_lt.mpr fewer), List.flatten_singleton]
      exact reads
    simpa using header
  · exact ⟨all.length_eq, all.dropped_null,
      by simpa [liveColumns_idem] using all.live⟩

/-- `"char"`: one byte by value, whose text is the byte itself, or nothing for
the zero byte. -/
def charType : ColumnType (List UInt8) where
  length := .fixed 1
  byval := true
  base := true
  typelem := 0
  Valid datum := datum.length = 1
  meaning datum := datum
  output datum := datum.filter fun byte => byte != 0
  input text := some [text.headD 0]
  valid_fixed size datum isFixed valid := by
    cases isFixed
    exact valid
  valid_short datum valid := by
    rw [valid]
    decide
  output_short datum valid := by
    have shorter := List.length_filter_le (fun byte => byte != 0) datum
    omega
  output_noZero datum _ := by simp
  input_output datum valid := by
    obtain ⟨byte, rfl⟩ := List.length_eq_one_iff.mp valid
    refine ⟨_, rfl, ?_⟩
    by_cases isZero : byte = 0 <;> simp [isZero]
  byval_length _ := .inl rfl
  cstring_pseudo isCString := by cases isCString

/-- `text`: a header of four bytes, in front of bytes without a zero. -/
def textType : ColumnType (List UInt8) where
  length := .varlena
  byval := false
  base := true
  typelem := 0
  Valid datum := 4 ≤ datum.length ∧ datum.length < 2 ^ 30 ∧ 0 ∉ datum.drop 4
  meaning datum := datum.drop 4
  output datum := datum.drop 4
  input text := some ((sendInt 4 (4 * (text.length + 4))).reverse ++ text)
  valid_fixed size datum isFixed _ := by cases isFixed
  valid_short datum valid := valid.2.1
  output_short datum valid := by
    have short := valid.2.1
    rw [List.length_drop]
    omega
  output_noZero datum valid := valid.2.2
  input_output datum _ := by
    refine ⟨_, rfl, ?_⟩
    rw [List.drop_append_of_le_length (by simp [length_sendInt]),
      List.drop_of_length_le (by simp [length_sendInt]), List.nil_append]
  byval_length byval := by cases byval
  cstring_pseudo isCString := by cases isCString

/-- A column of a type. -/
def liveAttribute (typid : ℕ) (hasType : typid ≠ 0)
    (type : ColumnType Value) : Attribute Value where
  attisdropped := false
  atttypid := typid
  type := type
  dropped_iff := by simp [hasType]

/-- A dropped column. -/
def droppedAttribute (type : ColumnType Value) : Attribute Value where
  attisdropped := true
  atttypid := 0
  type := type
  dropped_iff := by simp

/-- A tuple with the second of three columns dropped. -/
def sentTuple : DeformedTuple (List UInt8) where
  columns :=
    [(liveAttribute 18 (by decide) charType, .inline [120]),
      (droppedAttribute textType, .null),
      (liveAttribute 25 (by decide) textType, .inline [24, 0, 0, 0, 104, 105])]
  natts_le := by decide
  typed := by
    intro column isColumn isLive
    simp only [List.mem_cons, List.not_mem_nil, or_false] at isColumn
    rcases isColumn with rfl | rfl | rfl
    · exact rfl
    · cases isLive
    · exact ⟨by decide, by decide, by decide⟩

/-- The same columns behind and before dropped ones. -/
def receiverDesc : TupleDesc (List UInt8) where
  attrs :=
    [droppedAttribute charType, liveAttribute 18 (by decide) charType,
      liveAttribute 25 (by decide) textType, droppedAttribute textType]
  natts_le := by decide

theorem tuple_round_trip_with_dropped_columns :
    SameLiveTypes sentTuple.columns receiverDesc.attrs ∧
      ∀ wantBinary, ∃ bytes columns,
        writeTuple false wantBinary sentTuple = some bytes ∧
        Reads (readTupleParts receiverDesc) bytes columns ∧
        TransferredAll sentTuple.columns receiverDesc.attrs columns :=
  ⟨rfl, fun wantBinary =>
    tuple_round_trip wantBinary sentTuple receiverDesc rfl⟩

end Tuple
end Multimaster
