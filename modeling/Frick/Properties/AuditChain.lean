import Frick.Store.AdminAudit

/-!
# What the audit chain shows

Someone with SQL access alters the audit log: they delete one row, or overwrite one column of one
row.

`verifyChain` holds a row against the row before it and against its own hash. Nothing stands behind
the last row, and the first row that is checked is taken as it is. So a row can be cut off at either
end without a trace. A row whose `entry_hash` no longer reads as text counts as a row from before
the chain and is skipped, wherever it stands, which comes to the same. Every other change that a
reader of the row could notice is found.
-/

namespace Frick.Properties

open Framework Store Link List
open AuditRow (link)

/-- One step of someone who edits the table; rows are counted from 0 in the order of their ids. -/
inductive Tampering where
  | delete (i : Nat)
  | change (i : Nat) (column : AuditColumn) (value : SqlValue)

def setColumn (column : AuditColumn) (value : SqlValue) (row : AuditRow) : AuditRow :=
  ⟨row.id, Function.update row.columns column value⟩

lemma map_id_modify (rows : List AuditRow) (i : Nat) (col : AuditColumn) (val : SqlValue) :
    (rows.modify i (setColumn col val)).map AuditRow.id = rows.map AuditRow.id := by
  apply ext_getElem
  · simp
  intro k _ _
  rw [getElem_map, getElem_map, getElem_modify]
  split_ifs
  · rfl
  · rfl

def Tampering.apply (log : AuditLog) : Tampering → AuditLog
  | .delete i =>
    ⟨log.rows.eraseIdx i, log.lastId, log.sorted.sublist (eraseIdx_sublist _ _),
      fun row hrow => log.below row ((eraseIdx_sublist _ _).mem hrow)⟩
  | .change i column value =>
    ⟨log.rows.modify i (setColumn column value), log.lastId,
      pairwise_map.mp (by rw [map_id_modify]; exact pairwise_map.mpr log.sorted),
      fun row hrow => by
        have hid : row.id ∈ log.rows.map AuditRow.id := by
          rw [← map_id_modify log.rows i column value]
          exact mem_map_of_mem hrow
        obtain ⟨old, hold, hsame⟩ := mem_map.mp hid
        rw [← hsame]
        exact log.below old hold⟩

/-- The edit leaves a trace. -/
def Tampering.Detectable (log : AuditLog) : Tampering → Prop
  | .delete i => 0 < i ∧ i + 1 < log.rows.length
  | .change i column value => ∃ row ∈ log.rows[i]?, match column with
      | .entryHash =>
        match value.asStr with
        | none => 0 < i ∧ i + 1 < log.rows.length
        | some text => row.text .entryHash ≠ some text
      | .target => row.text .target ≠ value.asStr
      | .detail => row.text .detail ≠ value.asStr
      | other => (row.text other).getD "" ≠ value.asStr.getD ""

/-! ## A row of a recorded log -/

open AuditLog

variable {sha : Sha256}

/-- A row of a recorded log between the chains before and behind it. -/
structure RecordedRow (sha : Sha256) where
  front : List AuditRow
  rest : List AuditRow
  id : Int
  call : AdminAuditInput × Int
  before : List (Int × AuditBody)
  after : List (Int × AuditBody)
  map_front : front.map link = chain (auditCommit sha) "" before
  map_rest : rest.map link = chain (auditCommit sha)
    (auditCommit sha (tip (auditCommit sha) "" before) (newBody call)) after

def RecordedRow.row (r : RecordedRow sha) : AuditRow :=
  ⟨r.id, newColumns sha (tip (auditCommit sha) "" r.before) r.call.1 r.call.2⟩

lemma newRows_append (id : Int) (prev : String) (calls more : List (AdminAuditInput × Int)) :
    newRows sha id prev (calls ++ more) =
      newRows sha id prev calls ++ newRows sha (id + calls.length)
        (tip (auditCommit sha) prev (newEntries id calls)) more := by
  induction calls generalizing id prev with
  | nil =>
    rw [length_nil, Int.natCast_zero, Int.add_zero]
    rfl
  | cons call calls ih =>
    have hid : id + 1 + (calls.length : Int) = id + ((call :: calls).length : Int) := by
      rw [length_cons]
      omega
    rw [cons_append, newRows, ih, hid]
    rfl

lemma length_newRows (id : Int) (prev : String) (calls : List (AdminAuditInput × Int)) :
    (newRows sha id prev calls).length = calls.length := by
  induction calls generalizing id prev with
  | nil => rfl
  | cons _ _ ih => rw [newRows, length_cons, ih, length_cons]

lemma rows_recordAll_empty (calls : List (AdminAuditInput × Int)) :
    (empty.recordAll sha calls).rows = newRows sha 0 "" calls := by
  rw [rows_recordAll]
  rfl

lemma exists_recordedRow (calls : List (AdminAuditInput × Int)) {i : Nat}
    (hi : i < (empty.recordAll sha calls).rows.length) :
    ∃ r : RecordedRow sha, r.front.length = i ∧
      (empty.recordAll sha calls).rows = r.front ++ r.row :: r.rest := by
  rw [rows_recordAll_empty] at hi ⊢
  rw [length_newRows] at hi
  have hcalls : calls = calls.take i ++ calls[i] :: calls.drop (i + 1) := by
    rw [← drop_eq_getElem_cons hi, take_append_drop]
  have hrows : newRows sha 0 "" calls = _ :=
    (congrArg (newRows sha 0 "") hcalls).trans (newRows_append 0 "" _ _)
  refine ⟨⟨newRows sha 0 "" (calls.take i), _, _, calls[i], newEntries 0 (calls.take i), _,
    map_link_newRows _ _ _, map_link_newRows _ _ _⟩, ?_, hrows⟩
  rw [length_newRows, length_take_of_le hi.le]

namespace RecordedRow

variable (r : RecordedRow sha)

lemma before_eq_nil_iff : r.before = [] ↔ r.front.length = 0 := by
  rw [← chain_eq_nil_iff, ← r.map_front, map_eq_nil_iff, length_eq_zero_iff]

lemma after_eq_nil_iff : r.after = [] ↔ r.rest.length = 0 := by
  rw [← chain_eq_nil_iff, ← r.map_rest, map_eq_nil_iff, length_eq_zero_iff]

lemma inner_iff :
    ¬(r.before = [] ∨ r.after = []) ↔
      0 < r.front.length ∧ r.front.length + 1 < (r.front ++ r.row :: r.rest).length := by
  rw [before_eq_nil_iff, after_eq_nil_iff, length_append, length_cons]
  omega

lemma link_row :
    r.row.link = ⟨r.id, tip (auditCommit sha) "" r.before, newBody r.call,
      some (auditCommit sha (tip (auditCommit sha) "" r.before) (newBody r.call))⟩ :=
  link_newColumns _ _ _

lemma map_link_replaced (row : AuditRow) :
    (r.front ++ row :: r.rest).map link =
      chain (auditCommit sha) "" r.before ++ row.link :: chain (auditCommit sha)
        (auditCommit sha (tip (auditCommit sha) "" r.before) (newBody r.call)) r.after := by
  rw [map_append, map_cons, r.map_front, r.map_rest]

lemma firstBreak_body_iff {row : AuditRow} {body : AuditBody}
    (h : row.link = { r.row.link with body }) :
    firstBreak (auditCommit sha) none ((r.front ++ row :: r.rest).map link) = none ↔
      body = r.row.link.body := by
  rw [map_link_replaced, h, link_row]
  exact firstBreak_altered_body_iff commits_auditCommit _ _

lemma firstBreak_setColumn_ne_none_iff (col : AuditColumn) (val : SqlValue) :
    firstBreak (auditCommit sha) none
        ((r.front ++ setColumn col val r.row :: r.rest).map link) ≠ none ↔
      match col with
      | .entryHash =>
        match val.asStr with
        | none => 0 < r.front.length ∧ r.front.length + 1 < (r.front ++ r.row :: r.rest).length
        | some text => r.row.text .entryHash ≠ some text
      | .target => r.row.text .target ≠ val.asStr
      | .detail => r.row.text .detail ≠ val.asStr
      | other => (r.row.text other).getD "" ≠ val.asStr.getD "" := by
  cases col with
  | occurredAt | adminTokenFingerprint | action | target | outcome | detail =>
    refine not_congr (Iff.trans (r.firstBreak_body_iff rfl) ?_)
    rw [AuditBody.ext_iff]
    simp [eq_comm, link, setColumn, AuditRow.text]
  | previousHash =>
    have hlink : (setColumn .previousHash val r.row).link =
        { r.row.link with prev := val.asStr.getD "" } := rfl
    rw [Ne, map_link_replaced, hlink, link_row, firstBreak_altered_prev_iff commits_auditCommit]
    exact not_congr eq_comm
  | entryHash =>
    have hlink : (setColumn .entryHash val r.row).link =
        { r.row.link with hash := val.asStr } := rfl
    rw [Ne, map_link_replaced, hlink]
    cases hvalue : val.asStr with
    | none =>
      rw [firstBreak_unhashed_iff commits_auditCommit _ rfl]
      exact r.inner_iff
    | some text =>
      rw [link_row, firstBreak_altered_hash_iff]
      have hrow : r.row.text .entryHash = some (auditCommit sha
          (tip (auditCommit sha) "" r.before) (newBody r.call)) := rfl
      show _ ↔ r.row.text .entryHash ≠ some text
      rw [hrow, Ne, Option.some_inj]
      exact not_congr eq_comm

lemma firstBreak_removed_ne_none_iff :
    firstBreak (auditCommit sha) none ((r.front ++ r.rest).map link) ≠ none ↔
      0 < r.front.length ∧ r.front.length + 1 < (r.front ++ r.row :: r.rest).length := by
  rw [Ne, map_append, r.map_front, r.map_rest, firstBreak_removed_iff commits_auditCommit]
  exact r.inner_iff

end RecordedRow

/-! ## Every edit of a recorded log -/

lemma modify_append_cons (front : List AuditRow) (row : AuditRow) (rest : List AuditRow)
    (f : AuditRow → AuditRow) :
    (front ++ row :: rest).modify front.length f = front ++ f row :: rest := by
  simp [modify_eq_take_drop]

lemma verifyChain_recordAll (sha : Sha256) (calls : List (AdminAuditInput × Int)) :
    (empty.recordAll sha calls).verifyChain sha = ⟨true, none⟩ := by
  rw [verifyChain_eq, rows_recordAll_empty, map_link_newRows, firstBreak_chain rfl]
  rfl

lemma firstBreak_apply_ne_none_iff (calls : List (AdminAuditInput × Int)) (edit : Tampering) :
    firstBreak (auditCommit sha) none
        ((edit.apply (empty.recordAll sha calls)).rows.map link) ≠ none ↔
      edit.Detectable (empty.recordAll sha calls) := by
  have hintact : ¬firstBreak (auditCommit sha) none
      ((empty.recordAll sha calls).rows.map link) ≠ none := by
    rw [← valid_verifyChain_eq_false_iff, verifyChain_recordAll]
    decide
  cases edit with
  | delete i =>
    show firstBreak _ none (((empty.recordAll sha calls).rows.eraseIdx i).map _) ≠ none ↔ _
    rw [Tampering.Detectable]
    by_cases hi : i < (empty.recordAll sha calls).rows.length
    · obtain ⟨r, rfl, hrows⟩ := exists_recordedRow calls hi
      rw [hrows, eraseIdx_append_of_length_le le_rfl, Nat.sub_self]
      exact r.firstBreak_removed_ne_none_iff
    · rw [eraseIdx_of_length_le (by omega)]
      exact iff_of_false hintact (by omega)
  | change i col val =>
    show firstBreak _ none (((empty.recordAll sha calls).rows.modify i _).map _) ≠ none ↔ _
    by_cases hi : i < (empty.recordAll sha calls).rows.length
    · obtain ⟨r, rfl, hrows⟩ := exists_recordedRow calls hi
      rw [Tampering.Detectable, hrows, modify_append_cons, r.firstBreak_setColumn_ne_none_iff]
      simp
    · rw [modify_eq_self (by omega), Tampering.Detectable, List.getElem?_eq_none (by omega)]
      exact iff_of_false hintact (by simp)

/-- **What the chain gives away.** A log that was recorded from an empty table verifies. After one
edit it does not verify exactly if the edit is detectable: a row was taken out, or taken out of the
chain, between two others, or a column reads as another text. -/
theorem tampering_shows_iff (sha : Sha256) (calls : List (AdminAuditInput × Int)) :
    (empty.recordAll sha calls).verifyChain sha = ⟨true, none⟩ ∧
      ∀ edit : Tampering,
        ((edit.apply (empty.recordAll sha calls)).verifyChain sha).valid = false ↔
          edit.Detectable (empty.recordAll sha calls) := by
  refine ⟨verifyChain_recordAll sha calls, fun edit => ?_⟩
  rw [valid_verifyChain_eq_false_iff, firstBreak_apply_ne_none_iff]

def creation : AdminAuditInput × Int := (⟨"f", "tenants.create", some "t", .allow, none⟩, 0)

def archiving : AdminAuditInput × Int := (⟨"f", "tenants.archive", some "t", .allow, none⟩, 1)

/-- The archiving disappears without a trace, and so does the creation, whether its row is deleted
or loses its hash. -/
theorem archived_tenant_forgotten :
    (empty.recordAll .plain [creation, archiving]).rows.length = 2 ∧
    ∀ edit ∈ [Tampering.delete 1, .delete 0, .change 0 .entryHash .null],
      (edit.apply (empty.recordAll .plain [creation, archiving])).verifyChain .plain =
        ⟨true, none⟩ := by
  have hlength : (empty.recordAll .plain [creation, archiving]).rows.length = 2 := by
    rfl
  refine ⟨hlength, fun edit hedit => ?_⟩
  have hhidden : ¬edit.Detectable (empty.recordAll .plain [creation, archiving]) := by
    simp only [mem_cons, not_mem_nil, or_false] at hedit
    rcases hedit with rfl | rfl | rfl <;>
      simp [Tampering.Detectable, SqlValue.asStr, hlength]
  rw [verifyChain_eq, not_not.mp (mt (firstBreak_apply_ne_none_iff _ _).mp hhidden)]
  rfl

end Frick.Properties
