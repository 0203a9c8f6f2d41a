import Multimaster.Ddl.Defs
import Multimaster.Stream.Defs

/-!
# The decoder of the output plugin

What the output plugin writes for a transaction, but for the headers of relations,
is what `decode` says.
-/

namespace Multimaster
namespace Ddl

open Multimaster.Stream
  (Change Record Relation Sender pgDecodeChange pglogicalWriteMessage
  pglogicalWriteRel)

/-- A row as the output plugin gets it. -/
abbrev Decoded := Change × Relation

variable (parse : String → Stream.Ddl) (sequence : ℕ → Relation)

/-- The callback for something logged. -/
def Logged.callback : Logged Decoded → Sender → Sender × List Record
  | .row written => pgDecodeChange written.1 written.2
  | .ddl text => pglogicalWriteMessage (.ddl (parse text)) (sequence 0)
  | .ddlEnd => pglogicalWriteMessage .ddlEnd (sequence 0)
  | .nextval seqid _ => pglogicalWriteMessage (.nextval seqid) (sequence seqid)

/-- The callbacks for a transaction. -/
def callbacks : List (Logged Decoded) → Sender → Sender × List Record
  | [], sender => (sender, [])
  | item :: rest, sender =>
      let first := item.callback parse sequence sender
      let later := callbacks rest first.1
      (later.1, first.2 ++ later.2)

/-- The records for what is sent. -/
def Sent.records : Sent Decoded → List Record
  | .row written => written.1.record
  | .ddl text => [.message 'D' (parse text)]
  | .nextval _ _ => [.row .nextval]

/-- A record that is no header of a relation. -/
def isContent : Record → Bool
  | .relation _ _ => false
  | _ => true

variable {parse sequence}

theorem filter_pglogicalWriteRel (rel : Relation) (sender : Sender) :
    (pglogicalWriteRel rel sender).2.filter isContent = [] ∧
      (pglogicalWriteRel rel sender).1.ddlInProgress =
        sender.ddlInProgress := by
  unfold pglogicalWriteRel
  split
  · exact ⟨rfl, rfl⟩
  · split
    · exact ⟨rfl, rfl⟩
    · split
      · exact ⟨rfl, rfl⟩
      · exact ⟨rfl, rfl⟩

theorem filter_record (change : Change) :
    change.record.filter isContent = change.record := by
  cases change with
  | insert => rfl
  | update => rfl
  | delete oldtuple =>
      cases oldtuple with
      | true => rfl
      | false => rfl

theorem filter_row (row : Decoded) (sender : Sender) :
    (pgDecodeChange row.1 row.2 sender).2.filter isContent =
        (if sender.ddlInProgress then [] else row.1.record) ∧
      (pgDecodeChange row.1 row.2 sender).1.ddlInProgress =
        sender.ddlInProgress := by
  obtain ⟨noContent, same⟩ := filter_pglogicalWriteRel row.2 sender
  refine ⟨?_, same⟩
  rw [pgDecodeChange, List.filter_append, noContent, same, List.nil_append]
  split
  · rfl
  · exact filter_record row.1

variable (sequence) in
theorem filter_nextval (seqid : ℕ) (sender : Sender) :
    (pglogicalWriteMessage (.nextval seqid) (sequence seqid) sender).2.filter
        isContent =
        (if sender.ddlInProgress then [] else [.row .nextval]) ∧
      (pglogicalWriteMessage (.nextval seqid) (sequence seqid)
        sender).1.ddlInProgress = sender.ddlInProgress := by
  rw [pglogicalWriteMessage]
  cases inside : sender.ddlInProgress with
  | true => exact ⟨rfl, rfl⟩
  | false =>
      obtain ⟨noContent, same⟩ := filter_pglogicalWriteRel (sequence seqid)
        { sender with mtmLastRelId := Stream.invalidOid }
      simp only [inside, Bool.false_eq_true, if_false] at noContent same ⊢
      rw [Stream.pglogicalSeqNextval, List.filter_append, noContent]
      exact ⟨rfl, same⟩

/-- The output plugin writes what `decode` says, with headers in between. -/
theorem filter_callbacks (log : List (Logged Decoded)) (sender : Sender) :
    (callbacks parse sequence log sender).2.filter isContent =
      (decode sender.ddlInProgress log).flatMap (Sent.records parse) := by
  induction log generalizing sender with
  | nil => rfl
  | cons item rest inductionHypothesis =>
      rw [callbacks, List.filter_append, inductionHypothesis]
      cases item with
      | row row =>
          obtain ⟨content, same⟩ := filter_row row sender
          simp only [Logged.callback, content, same, decode]
          split
          · rfl
          · rfl
      | ddl text => rfl
      | ddlEnd => rfl
      | nextval seqid next =>
          obtain ⟨content, same⟩ := filter_nextval sequence seqid sender
          simp only [Logged.callback, content, same, decode]
          split
          · rfl
          · rfl

end Ddl
end Multimaster
