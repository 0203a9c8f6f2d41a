import Mathlib.Data.Finset.Lattice.Fold
import Mathlib.Order.Lattice.Nat
import Multimaster.Lib.Ledger

/-!
# Reload of the configuration

Every process keeps the configuration it has seen last.  When the configuration
is reloaded, it calls back for the nodes that came and for those that went: the
monitor starts and stops the workers of the node, the others attach and detach
its queue.  The source of a basebackup is called back for first.
-/

namespace Multimaster
namespace Config

/-! ## Bitmapsets -/

/-- `bms_next_member`: the least member above `prevbit`, with `none` for -2. -/
def bmsNextMember (set : Finset ℕ) (prevbit : ℤ) : Option ℕ :=
  (List.range (set.sup id + 1)).find? fun member => member ∈ set ∧
    prevbit < (member : ℤ)

/-- The members that a loop over `bms_next_member` visits after `nodeId`. -/
def bmsMembersAfter (set : Finset ℕ) : ℕ → ℤ → List ℕ
  | 0, _ => []
  | fuel + 1, nodeId =>
      match bmsNextMember set nodeId with
      | none => []
      | some member => member :: bmsMembersAfter set fuel member

/-- The members in the order of the loop, which starts from -1. -/
def bmsMembers (set : Finset ℕ) : List ℕ :=
  bmsMembersAfter set set.card (-1)

theorem bmsNextMember_eq_some
    {set : Finset ℕ} {prevbit : ℤ} {member : ℕ}
    (next : bmsNextMember set prevbit = some member) :
    member ∈ set ∧ prevbit < (member : ℤ) ∧
      ∀ other ∈ set, prevbit < (other : ℤ) → member ≤ other := by
  obtain ⟨found, -, least⟩ := List.find?_range_eq_some.mp next
  obtain ⟨inSet, above⟩ := of_decide_eq_true found
  refine ⟨inSet, above, ?_⟩
  intro other otherInSet otherAbove
  by_contra smaller
  have notFound := least other (not_le.mp smaller)
  simp [otherInSet, otherAbove] at notFound

theorem bmsNextMember_eq_none
    {set : Finset ℕ} {prevbit : ℤ} (next : bmsNextMember set prevbit = none) :
    ∀ member ∈ set, (member : ℤ) ≤ prevbit := by
  intro member inSet
  have inRange : member < set.sup id + 1 :=
    Nat.lt_succ_of_le (Finset.le_sup (f := id) inSet)
  have notFound := List.find?_range_eq_none.mp next member inRange
  simpa [inSet] using notFound

/-- With fuel for the members that are left, the loop visits each of them once. -/
theorem bmsMembersAfter_spec
    (set : Finset ℕ) (fuel : ℕ) (nodeId : ℤ)
    (enough : (set.filter fun member : ℕ => nodeId < (member : ℤ)).card ≤ fuel) :
    (bmsMembersAfter set fuel nodeId).Nodup ∧
      ∀ member, member ∈ bmsMembersAfter set fuel nodeId ↔
        member ∈ set ∧ nodeId < (member : ℤ) := by
  induction fuel generalizing nodeId with
  | zero =>
      have nothingLeft := Finset.card_eq_zero.mp (Nat.le_zero.mp enough)
      refine ⟨List.nodup_nil, ?_⟩
      intro member
      have notLeft : member ∉ set.filter fun member : ℕ =>
        nodeId < (member : ℤ) := by
        rw [nothingLeft]
        exact Finset.notMem_empty member
      simpa [bmsMembersAfter] using notLeft
  | succ fuel inductionHypothesis =>
      rw [bmsMembersAfter]
      split
      · next next =>
        refine ⟨List.nodup_nil, ?_⟩
        intro member
        simpa using bmsNextMember_eq_none next member
      · next found next =>
        obtain ⟨inSet, above, least⟩ := bmsNextMember_eq_some next
        have fewer :
            (set.filter fun member : ℕ => (found : ℤ) < (member : ℤ)).card ≤
              fuel := by
          have smaller :
              (set.filter fun member : ℕ => (found : ℤ) < (member : ℤ)).card <
              (set.filter fun member : ℕ => nodeId < (member : ℤ)).card := by
            apply Finset.card_lt_card
            refine Finset.ssubset_iff_of_subset ?_ |>.mpr ⟨found, ?_, ?_⟩
            · intro member isLeft
              simp only [Finset.mem_filter] at isLeft ⊢
              exact ⟨isLeft.1, by omega⟩
            · simp [inSet, above]
            · simp
          omega
        obtain ⟨restDistinct, restMembers⟩ := inductionHypothesis found fewer
        constructor
        · refine List.nodup_cons.mpr ⟨?_, restDistinct⟩
          simp [restMembers]
        · intro member
          rw [List.mem_cons, restMembers]
          constructor
          · rintro (rfl | ⟨memberInSet, later⟩)
            · exact ⟨inSet, above⟩
            · exact ⟨memberInSet, by omega⟩
          · rintro ⟨memberInSet, later⟩
            have := least member memberInSet later
            by_cases same : member = found
            · exact .inl same
            · exact .inr ⟨memberInSet, by omega⟩

theorem nodup_bmsMembers (set : Finset ℕ) : (bmsMembers set).Nodup :=
  (bmsMembersAfter_spec set set.card (-1) (Finset.card_filter_le _ _)).1

@[simp] theorem mem_bmsMembers {set : Finset ℕ} {member : ℕ} :
    member ∈ bmsMembers set ↔ member ∈ set := by
  rw [bmsMembers,
    (bmsMembersAfter_spec set set.card (-1) (Finset.card_filter_le _ _)).2]
  constructor
  · exact And.left
  · intro inSet
    exact ⟨inSet, by omega⟩

@[simp] theorem toFinset_bmsMembers (set : Finset ℕ) :
    (bmsMembers set).toFinset = set := by
  ext member
  simp

/-! ## The reload -/

/-- What `MtmReloadConfig` reads of an `MtmConfig`.  A node that is in no cluster
has `my_node_id` 0, and `backup_node_id` is 0 without a basebackup. -/
structure MtmConfig where
  nodes : List ℕ
  myNodeId : ℕ
  backupNodeId : ℕ
  deriving DecidableEq

/-- The nodes of a configuration without myself. -/
def MtmConfig.neighbours (cfg : MtmConfig) : Finset ℕ :=
  (cfg.nodes.filter fun nodeId => nodeId ≠ cfg.myNodeId).toFinset

/-- The bitmapset of the configuration before the reload. -/
def oldBms : Option MtmConfig → Finset ℕ
  | none => ∅
  | some oldCfg => oldCfg.neighbours

/-- The calls that `MtmReloadConfig` makes.  The callbacks are missing where the
source has a null pointer. -/
def mtmReloadConfig
    {Call : Type*} (oldCfg : Option MtmConfig) (newCfg : MtmConfig)
    (nodeAddCb nodeDropCb : Option (ℕ → Call)) : List Call :=
  let newBms := newCfg.neighbours
  let deleted := oldBms oldCfg \ newBms
  let created := newBms \ oldBms oldCfg
  let added :=
    match nodeAddCb with
    | none => []
    | some nodeAddCb =>
        if 0 < newCfg.backupNodeId then
          nodeAddCb newCfg.backupNodeId ::
            (bmsMembers (created.erase newCfg.backupNodeId)).map nodeAddCb
        else
          (bmsMembers created).map nodeAddCb
  let dropped :=
    match nodeDropCb with
    | none => []
    | some nodeDropCb => (bmsMembers deleted).map nodeDropCb
  added ++ dropped

/-- The calls of one reload with both callbacks, as openings and closings. -/
def reloadCalls (oldCfg : Option MtmConfig) (newCfg : MtmConfig) :
    List (Ledger.Entry ℕ) :=
  mtmReloadConfig oldCfg newCfg (some .opening) (some .closing)

/-- The calls of a process that has seen `oldCfg` and then the given
configurations. -/
def callsFrom (oldCfg : Option MtmConfig) : List MtmConfig → List (Ledger.Entry ℕ)
  | [] => []
  | newCfg :: rest => reloadCalls oldCfg newCfg ++ callsFrom (some newCfg) rest

/-- The calls of a process through the configurations it has seen. -/
def calls (configs : List MtmConfig) : List (Ledger.Entry ℕ) :=
  callsFrom none configs

/-- The nodes with an addition not yet followed by a drop, unless some node got
two additions without a drop in between or a drop without an addition. -/
def running (configs : List MtmConfig) : Option (Finset ℕ) :=
  Ledger.balance ∅ (calls configs)

/-! ## What one reload does -/

/-- What is left when nodes that did not run are added and those that are not in
the new configuration are dropped. -/
theorem balance_exchange
    (old new : Finset ℕ) {added : List ℕ} (distinct : added.Nodup)
    (notRunning : ∀ node ∈ added, node ∉ old) :
    Ledger.balance old
        (added.map Ledger.Entry.opening ++
          (bmsMembers (old \ new)).map Ledger.Entry.closing) =
      some ((old ∩ new) ∪ added.toFinset) := by
  have stillRunning : ∀ node ∈ bmsMembers (old \ new),
      node ∈ old ∪ added.toFinset := by
    intro node dropped
    rw [mem_bmsMembers, Finset.mem_sdiff] at dropped
    exact Finset.mem_union_left _ dropped.1
  rw [Ledger.balance_append, Ledger.balance_openings distinct old notRunning,
    Option.bind_some,
    Ledger.balance_closings (nodup_bmsMembers _) _ stillRunning,
      toFinset_bmsMembers]
  congr 1
  ext node
  have apart := notRunning node
  simp only [Finset.mem_sdiff, Finset.mem_union, Finset.mem_inter,
    List.mem_toFinset]
  tauto

/-- Without a basebackup the additions are those of the nodes that came. -/
theorem balance_reload_of_no_backup
    (oldCfg : Option MtmConfig) {newCfg : MtmConfig}
    (noBackup : ¬ 0 < newCfg.backupNodeId) :
    Ledger.balance (oldBms oldCfg) (reloadCalls oldCfg newCfg) =
      some newCfg.neighbours := by
  simp only [reloadCalls, mtmReloadConfig, if_neg noBackup]
  rw [balance_exchange _ _ (nodup_bmsMembers _) (by simp), toFinset_bmsMembers]
  congr 1
  ext node
  simp only [Finset.mem_union, Finset.mem_inter, Finset.mem_sdiff]
  tauto

/-- The source of a basebackup that does not run yet is added, whether it is a
node of the configuration or not. -/
theorem balance_reload_of_backup_new
    {oldCfg : Option MtmConfig} {newCfg : MtmConfig}
    (backup : 0 < newCfg.backupNodeId)
    (notRunning : newCfg.backupNodeId ∉ oldBms oldCfg) :
    Ledger.balance (oldBms oldCfg) (reloadCalls oldCfg newCfg) =
      some (insert newCfg.backupNodeId newCfg.neighbours) := by
  simp only [reloadCalls, mtmReloadConfig, if_pos backup]
  have distinct : (newCfg.backupNodeId ::
      bmsMembers
        ((newCfg.neighbours \ oldBms oldCfg).erase
        newCfg.backupNodeId)).Nodup := by
    refine List.nodup_cons.mpr ⟨?_, nodup_bmsMembers _⟩
    simp
  have noneRuns : ∀ node ∈ newCfg.backupNodeId ::
      bmsMembers ((newCfg.neighbours \ oldBms oldCfg).erase newCfg.backupNodeId),
      node ∉ oldBms oldCfg := by
    intro node added
    rcases List.mem_cons.mp added with rfl | created
    · exact notRunning
    · rw [mem_bmsMembers, Finset.mem_erase, Finset.mem_sdiff] at created
      exact created.2.2
  rw [← List.map_cons, balance_exchange _ _ distinct noneRuns, List.toFinset_cons,
    toFinset_bmsMembers]
  congr 1
  ext node
  simp only [Finset.mem_union, Finset.mem_inter, Finset.mem_insert,
    Finset.mem_erase,
    Finset.mem_sdiff]
  tauto

/-- The source of a basebackup that already runs is added once more. -/
theorem balance_reload_of_backup_running
    {oldCfg : Option MtmConfig} {newCfg : MtmConfig}
    (backup : 0 < newCfg.backupNodeId)
    (isRunning : newCfg.backupNodeId ∈ oldBms oldCfg) :
    Ledger.balance (oldBms oldCfg) (reloadCalls oldCfg newCfg) = none := by
  simp only [reloadCalls, mtmReloadConfig, if_pos backup, List.cons_append,
    Ledger.balance, Ledger.post, if_pos isRunning, Option.bind_none]

/-- The source of a basebackup, where one is set, has just come into the
configuration. -/
def BackupCame (oldCfg : Option MtmConfig) (newCfg : MtmConfig) : Prop :=
  0 < newCfg.backupNodeId →
    newCfg.backupNodeId ∈ newCfg.neighbours ∧ newCfg.backupNodeId ∉ oldBms oldCfg

theorem balance_reload_iff (oldCfg : Option MtmConfig) (newCfg : MtmConfig) :
    Ledger.balance (oldBms oldCfg) (reloadCalls oldCfg newCfg) =
      some newCfg.neighbours ↔
      BackupCame oldCfg newCfg := by
  by_cases backup : 0 < newCfg.backupNodeId
  · by_cases isRunning : newCfg.backupNodeId ∈ oldBms oldCfg
    · simp [balance_reload_of_backup_running backup isRunning, BackupCame,
        backup, isRunning]
    · simp [balance_reload_of_backup_new backup isRunning, BackupCame,
        backup, isRunning]
  · simp [balance_reload_of_no_backup oldCfg backup, BackupCame, backup]

/-! ## Every sequence of configurations -/

/-- What holds of every reload of a sequence holds of those before the last one,
and of the last one. -/
theorem forall_prefix_concat
    {property : List MtmConfig → MtmConfig → Prop}
    (before : List MtmConfig) (last : MtmConfig) :
    (∀ seen newCfg, seen ++ [newCfg] <+: before ++ [last] →
      property seen newCfg) ↔
      (∀ seen newCfg, seen ++ [newCfg] <+: before → property seen newCfg) ∧
        property before last := by
  constructor
  · intro all
    refine ⟨?_, all before last List.prefix_rfl⟩
    intro seen newCfg isPrefix
    exact all seen newCfg (isPrefix.trans (List.prefix_append _ _))
  · rintro ⟨earlier, atLast⟩ seen newCfg isPrefix
    rcases List.prefix_concat_iff.mp isPrefix with whole | inBefore
    · obtain ⟨rfl, same⟩ := List.append_inj' whole rfl
      obtain rfl : newCfg = last := by simpa using same
      exact atLast
    · exact earlier seen newCfg inBefore

/-- After each reload exactly the nodes of the new configuration without myself
run, and every addition and drop was in order. -/
def RunsOnce (configs : List MtmConfig) : Prop :=
  ∀ seen newCfg, seen ++ [newCfg] <+: configs →
    running (seen ++ [newCfg]) = some newCfg.neighbours

theorem callsFrom_concat (oldCfg : Option MtmConfig) (seen : List MtmConfig)
    (newCfg : MtmConfig) :
    callsFrom oldCfg (seen ++ [newCfg]) =
      callsFrom oldCfg seen ++ reloadCalls (seen.getLast?.or oldCfg) newCfg := by
  induction seen generalizing oldCfg with
  | nil => simp [callsFrom]
  | cons first rest inductionHypothesis =>
      simp only [List.cons_append, callsFrom, inductionHypothesis,
        List.append_assoc]
      congr 2
      cases rest <;> simp [List.getLast?_cons]

theorem running_concat (seen : List MtmConfig) (newCfg : MtmConfig) :
    running (seen ++ [newCfg]) =
      (running seen).bind fun nodes =>
        Ledger.balance nodes (reloadCalls seen.getLast? newCfg) := by
  rw [running, calls, callsFrom_concat, Ledger.balance_append, Option.or_none]
  rfl

/-- Where every reload so far went well, the nodes of the last configuration
run. -/
theorem running_of_runsOnce {configs : List MtmConfig} (once : RunsOnce configs) :
    running configs = some (oldBms configs.getLast?) := by
  induction configs using List.reverseRecOn with
  | nil => rfl
  | append_singleton seen newCfg _ =>
      rw [once seen newCfg List.prefix_rfl]
      simp [oldBms]

theorem runsOnce_concat (before : List MtmConfig) (last : MtmConfig) :
    RunsOnce (before ++ [last]) ↔
      RunsOnce before ∧ BackupCame before.getLast? last := by
  rw [RunsOnce, forall_prefix_concat]
  refine and_congr_right ?_
  intro once
  rw [running_concat, running_of_runsOnce once]
  exact balance_reload_iff _ _

/-- Every node is started and stopped once exactly when no reload sees the source
of a basebackup that had come before, or that is no neighbour at all. -/
theorem reload_starts_once_iff (configs : List MtmConfig) :
    RunsOnce configs ↔
      ∀ seen newCfg, seen ++ [newCfg] <+: configs →
        BackupCame seen.getLast? newCfg := by
  induction configs using List.reverseRecOn with
  | nil => simp [RunsOnce]
  | append_singleton before last inductionHypothesis =>
      rw [runsOnce_concat, inductionHypothesis, forall_prefix_concat]

/-- Node 2 was made from a basebackup of node 1.  When node 3 joins before the
note about the basebackup is cleared, node 1 is added for the second time. -/
theorem backup_started_twice :
    ¬ RunsOnce
      [{ nodes := [1, 2], myNodeId := 2, backupNodeId := 1 },
        { nodes := [1, 2, 3], myNodeId := 2, backupNodeId := 1 }] := by
  intro once
  have twice := running_of_runsOnce once
  revert twice
  decide

end Config
end Multimaster
