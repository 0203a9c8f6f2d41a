import Multimaster.Lib.Wire

/-!
# Tuples on the wire

`pglogical_write_tuple` and `read_tuple_parts`.  The sender walks the columns of
its relation and leaves out dropped ones, the receiver walks the columns of its
own relation and leaves out those without a type.

A datum is the bytes it has in memory.  What the bytes stand for is given by the
type, so that a datum that was sent as text may come back with other bytes.
-/

namespace Multimaster
namespace Tuple

open Wire

/-- `attlen`. -/
inductive Length
  | fixed (length : ℕ)
  /-- `-1`. -/
  | varlena
  /-- `-2`. -/
  | cstring
  deriving DecidableEq

/-- A type, as both nodes know it: text input undoes text output, and the bytes
of a datum mean the same on both. -/
structure ColumnType (Value : Type) where
  length : Length
  /-- `attbyval`. -/
  byval : Bool
  /-- `typtype` is `b`. -/
  base : Bool
  typelem : ℕ
  /-- The bytes that are a datum of the type. -/
  Valid : List UInt8 → Prop
  meaning : List UInt8 → Value
  /-- `typoutput`. -/
  output : List UInt8 → List UInt8
  /-- `typinput`. -/
  input : List UInt8 → Option (List UInt8)
  valid_fixed : ∀ size datum, length = .fixed size → Valid datum →
    datum.length = size
  /-- Datums and their texts are less than a gigabyte. -/
  valid_short : ∀ datum, Valid datum → datum.length < 2 ^ 30
  output_short : ∀ datum, Valid datum → (output datum).length < 2 ^ 30
  output_noZero : ∀ datum, Valid datum → 0 ∉ output datum
  input_output : ∀ datum, Valid datum →
    ∃ back, input (output datum) = some back ∧ meaning back = meaning datum
  byval_length : byval = true →
    length = .fixed 1 ∨ length = .fixed 2 ∨ length = .fixed 4 ∨
      length = .fixed 8
  /-- The types with zero-terminated datums are pseudo-types. -/
  cstring_pseudo : length = .cstring → base = false

/-- `Form_pg_attribute`.  A dropped column has no type. -/
structure Attribute (Value : Type) where
  attisdropped : Bool
  atttypid : ℕ
  type : ColumnType Value
  dropped_iff : attisdropped = true ↔ atttypid = 0

/-- `MaxTupleAttributeNumber`. -/
def maxTupleAttributeNumber : ℕ := 1664

/-- `TupleDesc`. -/
structure TupleDesc (Value : Type) where
  attrs : List (Attribute Value)
  natts_le : attrs.length ≤ maxTupleAttributeNumber

variable {Value : Type}

/-- A column of a deformed tuple. -/
inductive Datum
  | null
  /-- `VARATT_IS_EXTERNAL_ONDISK`. -/
  | onDisk
  /-- `VARATT_IS_EXTERNAL_INDIRECT`, with the bytes it points to. -/
  | indirect (bytes : List UInt8)
  | inline (bytes : List UInt8)

/-- A datum of the type: only varlena datums are kept out of line. -/
def Datum.Of (type : ColumnType Value) : Datum → Prop
  | .null => True
  | .onDisk => type.length = .varlena
  | .indirect bytes => type.length = .varlena ∧ type.Valid bytes
  | .inline bytes => type.Valid bytes

/-- The values of a tuple with its descriptor. -/
structure DeformedTuple (Value : Type) where
  columns : List (Attribute Value × Datum)
  natts_le : columns.length ≤ maxTupleAttributeNumber
  typed : ∀ column ∈ columns, column.1.attisdropped = false →
    column.2.Of column.1.type

/-- `FirstNormalObjectId`. -/
def firstNormalObjectId : ℕ := 16384

/-- `decide_datum_transfer`: binary, or text. -/
def decideDatumTransfer (att : Attribute Value) (wantBinary : Bool) : Bool :=
  wantBinary && att.type.base && decide (att.atttypid < firstNormalObjectId) &&
    decide (att.type.typelem = 0)

/-- The bytes behind `b`; `none` is `unsupported tuple type`. -/
def writeBinary
    (type : ColumnType Value) (datum : List UInt8) : Option (List UInt8) :=
  match type.length with
  | .fixed length => some (sendInt 4 length ++ datum)
  | .varlena => some (sendInt 4 datum.length ++ datum)
  | .cstring => none

/-- The bytes behind `t`: the text with its zero byte. -/
def writeText (type : ColumnType Value) (datum : List UInt8) : List UInt8 :=
  sendInt 4 ((type.output datum).length + 1) ++ (type.output datum ++ [0])

/-- The bytes of a datum that is in memory. -/
def writeDatum
    (wantBinary : Bool) (att : Attribute Value) (datum : List UInt8) :
    Option (List UInt8) :=
  if decideDatumTransfer att wantBinary then
    (writeBinary att.type datum).map fun bytes => 98 :: bytes
  else some (116 :: writeText att.type datum)

/-- The bytes of a column that is not dropped: `n`, `u`, `b` or `t` and what
belongs to it. -/
def writeColumn (wantBinary : Bool) (att : Attribute Value) :
    Datum → Option (List UInt8)
  | .null => some [110]
  | .onDisk => some [117]
  | .indirect bytes => writeDatum wantBinary att bytes
  | .inline bytes => writeDatum wantBinary att bytes

/-- The loop over the columns. -/
def writeColumns (wantBinary : Bool) :
    List (Attribute Value × Datum) → Option (List UInt8)
  | [] => some []
  | (att, datum) :: rest =>
      if att.attisdropped then writeColumns wantBinary rest
      else do
        let column ← writeColumn wantBinary att datum
        let columns ← writeColumns wantBinary rest
        pure (column ++ columns)

/-- `nliveatts`. -/
def DeformedTuple.nliveatts (tuple : DeformedTuple Value) : ℕ :=
  (tuple.columns.filter fun column => !column.1.attisdropped).length

/-- `pglogical_write_tuple`.  Nothing is written while a DDL command is decoded;
only `pglogical_broadcast_table` writes the record around it even then. -/
def writeTuple
    (ddlInProgress wantBinary : Bool) (tuple : DeformedTuple Value) :
    Option (List UInt8) :=
  if ddlInProgress then some []
  else do
    let columns ← writeColumns wantBinary tuple.columns
    pure (84 :: (sendInt 2 tuple.nliveatts ++ columns))

/-- A column of `TupleData`. -/
structure ReadColumn where
  isnull : Bool
  changed : Bool
  value : Option (List UInt8)

/-- A column that was not in the message. -/
def ReadColumn.absent : ReadColumn where
  isnull := true
  changed := true
  value := none

/-- `fetch_att`: a datum by value has one of four lengths. -/
def fetchAtt (datum : List UInt8) : Reader (List UInt8) :=
  if datum.length = 1 ∨ datum.length = 2 ∨ datum.length = 4 ∨
      datum.length = 8 then
    pure datum
  else failure

/-- The datum at a position of the message, by value or by reference. -/
def fetchDatum (type : ColumnType Value) (datum : List UInt8) :
    Reader (List UInt8) :=
  if type.byval then fetchAtt datum else pure datum

/-- The text up to its zero byte, through the input function of the type. -/
def readText (type : ColumnType Value) (text : List UInt8) :
    Reader (List UInt8) :=
  match type.input (text.takeWhile fun byte => byte != 0) with
  | some datum => pure datum
  | none => failure

/-- A column in the message. -/
def readColumn (att : Attribute Value) : Reader ReadColumn := do
  let kind ← getByte
  match kind with
  | 110 => pure { isnull := true, changed := true, value := none }
  | 117 => pure { isnull := true, changed := false, value := none }
  | 98 => do
      let length ← getInt 4
      let bytes ← getBytes length
      let datum ← fetchDatum att.type bytes
      pure { isnull := false, changed := true, value := some datum }
  | 116 => do
      let length ← getInt 4
      let bytes ← getBytes length
      let datum ← readText att.type bytes
      pure { isnull := false, changed := true, value := some datum }
  | _ => failure

/-- The loop over the columns of the receiver. -/
def readColumns : List (Attribute Value) → Reader (List ReadColumn)
  | [] => pure []
  | att :: rest =>
      if att.atttypid = 0 then do
        let columns ← readColumns rest
        pure (.absent :: columns)
      else do
        let column ← readColumn att
        if att.attisdropped && !column.isnull then failure
        else do
          let columns ← readColumns rest
          pure (column :: columns)

/-- `read_tuple_parts`. -/
def readTupleParts (desc : TupleDesc Value) : Reader (List ReadColumn) := do
  let action ← getByte
  if action ≠ 84 then failure
  else do
    let rnatts ← getInt 2
    if desc.attrs.length < rnatts then failure
    else readColumns desc.attrs

end Tuple
end Multimaster
