import Frick.Store.Arms

/-!
# What the two arms report

The Postgres arm counts the rows that a statement sends back, and a statement without `RETURNING`
sends none; and it refuses an integer parameter that does not fit the type of its column, which
SQLite takes. So the store methods that answer from the number give the same answer on both arms
exactly when there was nothing to do; `redact_event` also needs a sequence number that fits
`INTEGER`. `prune` has a difference of its own: its cap pass selects by `rowid`, which Postgres does
not have.

A call that fails reports nothing (`Except.toOption`); the texts of the engines' errors are not
compared.
-/

namespace Frick.Properties

open Framework Store SqlDialect RefreshTokenTable StreamStore ObjectStore List
open Prod (snd)

/-! ## One statement -/

section Statement

variable {ρ κ : Type} [DecidableEq κ] {key : ρ → κ} (t : Table key) (dml : Dml key)
  (params : List PgInt)

/-- What is read off the count is the same on both arms exactly when the statement fails, or its
parameters fit and it changes nothing. -/
lemma reports_agree_iff {α : Type} {f : Nat → α} (hf : ∀ n, f n = f 0 ↔ n = 0) :
    (sqlite.run t dml params false).toOption.map (fun out => f out.2) =
        (postgres.run t dml params false).toOption.map (fun out => f out.2) ↔
      dml.apply t = none ∨ dml.Idle t ∧ ∀ param ∈ params, param.Fits := by
  cases happly : dml.apply t with
  | none =>
    rw [toOption_run_of_apply_eq_none _ happly, toOption_run_of_apply_eq_none _ happly]
    exact iff_of_true rfl (.inl rfl)
  | some out =>
    obtain ⟨t', affected⟩ := out
    rw [run_sqlite happly]
    by_cases hfits : ∀ param ∈ params, param.Fits
    · rw [run_postgres hfits happly, ← Dml.affected_eq_nil_iff happly, ← length_eq_zero_iff,
        ← hf affected.length]
      constructor
      · intro h
        exact .inr ⟨Option.some.inj h, hfits⟩
      · intro h
        exact congrArg some (h.resolve_left (by simp)).1
    · -- SQLite reports a number and Postgres fails.
      rw [toOption_run_postgres hfits]
      refine iff_of_false nofun fun h => ?_
      exact hfits (h.resolve_left (by simp)).2

lemma changes_agree_iff :
    (sqlite.run t dml params false).toOption.map snd =
        (postgres.run t dml params false).toOption.map snd ↔
      dml.apply t = none ∨ dml.Idle t ∧ ∀ param ∈ params, param.Fits :=
  reports_agree_iff t dml params (f := id) fun _ => Iff.rfl

lemma changed_agree_iff {t : Table key} {dml : Dml key} {out : Table key × List ρ}
    (h : dml.apply t = some out) :
    (sqlite.run t dml params false).toOption.map (fun out => decide (out.2 > 0)) =
        (postgres.run t dml params false).toOption.map (fun out => decide (out.2 > 0)) ↔
      dml.Idle t ∧ ∀ param ∈ params, param.Fits := by
  have hagree := reports_agree_iff t dml params (f := fun n => decide (n > 0)) fun n => by
    rw [decide_eq_decide]
    omega
  rw [hagree, h]
  simp

end Statement

/-! ## Deletes and updates -/

section Answers

variable {β : Type}

lemma delete_answer (dialect : SqlDialect) (db : ObjectTable β)
    (tenant type oid appId : String) :
    (deleteOn dialect db tenant type oid appId).toOption.map snd =
      (dialect.run db (.delete fun row => row.appId = appId ∧
        row.primaryKey = (tenant, type, oid)) [] false).toOption.map
          fun out => decide (out.2 > 0) := by
  unfold deleteOn
  cases dialect.run db _ [] false <;> rfl

lemma revoke_answer (dialect : SqlDialect) (t : RefreshTokenTable) (digests : TokenDigests)
    (tok : String) (now : Int) :
    (revokeOn dialect t digests tok now).toOption.map snd =
      (dialect.run t (.update
        (fun row => row.tokenHash = digests.hashToken tok ∧ row.revokedAt = none)
        (revokedOn (isoFromEpochMs now))) [] false).toOption.map
          fun out => decide (out.2 > 0) := by
  unfold revokeOn
  cases dialect.run t _ [] false <;> rfl

section Redact

variable (store : StreamStore β) (db : StreamTables β) (key : StreamKey) (seq : Int)
    (appId : String)

/-- Where the sequence number fits, `redact_event` on Postgres is as on SQLite up to its `UPDATE`,
which reports no row; where it does not, it fails. -/
lemma redact_postgres :
    (store.redactEventOn .postgres db key seq appId).toOption.map snd =
      if PgInt.Fits ⟨seq, .int4⟩ then
        ((store.redactEventOn .sqlite db key seq appId).toOption.map snd).map fun _ => false
      else none := by
  have hbinds :
      (∀ param ∈ [(⟨seq, .int4⟩ : PgInt)], param.Fits) ↔ PgInt.Fits ⟨seq, .int4⟩ := by simp
  split_ifs with hfits
  · unfold redactEventOn
    rw [bindParams_eq_ok_iff.mpr fun _ => hbinds.mpr hfits, ok_bind, bindParams, ok_bind]
    cases db.streamEvents.rows.find? (atAddress appId key seq) with
    | none => rfl
    | some row =>
      dsimp only
      cases store.tombstone row key.tenantId with
      | error => rfl
      | ok encoded =>
        have happly := Dml.apply_update db.streamEvents (atAddress appId key seq)
          (redactRow_primaryKey encoded)
        rw [ok_bind, ok_bind, run_postgres (hbinds.mpr hfits) happly, run_sqlite happly]
        rfl
  · unfold redactEventOn
    cases hbind : postgres.bindParams [⟨seq, .int4⟩] with
    | error => rfl
    | ok => exact absurd (hbinds.mp (bindParams_eq_ok_iff.mp hbind rfl)) hfits

lemma redact_sqlite {row : StreamEventRow β} {encoded : β}
    (hrow : db.streamEvents.rows.find? (atAddress appId key seq) = some row)
    (hencoded : store.tombstone row key.tenantId = .ok encoded) :
    (store.redactEventOn .sqlite db key seq appId).toOption.map snd = some true := by
  have happly := Dml.apply_update db.streamEvents (atAddress appId key seq)
    (redactRow_primaryKey encoded)
  have hmet : row ∈ db.streamEvents.rows.filter (atAddress appId key seq) :=
    mem_filter.mpr ⟨mem_of_find?_eq_some hrow, List.find?_some hrow⟩
  unfold redactEventOn
  rw [bindParams, ok_bind, hrow]
  dsimp only
  rw [hencoded, ok_bind, run_sqlite happly]
  refine congrArg some (decide_eq_true ?_)
  rw [length_map]
  exact length_pos_of_mem hmet

lemma redact_agrees_iff :
    (store.redactEventOn .sqlite db key seq appId).toOption.map snd =
        (store.redactEventOn .postgres db key seq appId).toOption.map snd ↔
      (db.streamEvents.rows.find? (atAddress appId key seq) = none → PgInt.Fits ⟨seq, .int4⟩) ∧
        ∀ row encoded, db.streamEvents.rows.find? (atAddress appId key seq) = some row →
          store.tombstone row key.tenantId ≠ .ok encoded := by
  rw [redact_postgres]
  cases hrow : db.streamEvents.rows.find? (atAddress appId key seq) with
  | none =>
    have hanswer :
        (store.redactEventOn .sqlite db key seq appId).toOption.map snd = some false := by
      unfold redactEventOn
      rw [bindParams, ok_bind, hrow]
      rfl
    rw [hanswer]
    split_ifs with hfits
    · exact iff_of_true rfl ⟨fun _ => hfits, by simp⟩
    · exact iff_of_false (by simp) fun h => hfits (h.1 rfl)
  | some row =>
    cases hencoded : store.tombstone row key.tenantId with
    | error =>
      have hanswer : (store.redactEventOn .sqlite db key seq appId).toOption.map snd = none := by
        unfold redactEventOn
        rw [bindParams, ok_bind, hrow]
        dsimp only
        rw [hencoded]
        rfl
      rw [hanswer]
      refine iff_of_true (by split_ifs <;> rfl) ⟨by simp, fun other encoded hother h => ?_⟩
      obtain rfl := Option.some.inj hother
      rw [hencoded] at h
      cases h
    | ok encoded =>
      rw [redact_sqlite store db key seq appId hrow hencoded]
      refine iff_of_false (fun h => ?_) fun h => h.2 row encoded rfl hencoded
      split_ifs at h
      cases h

end Redact

end Answers

/-! ## prune -/

section Prune

open IdempotencyKeys

variable {t t' : Table IdempotencyRow.key} {passes : List (IdempotencyRow → Bool)}

/-- The deletes of the age pass leave the same table on both arms; SQLite counts the rows, and has
counted none exactly when there was none to delete. -/
lemma deleteAll_spec (t : Table IdempotencyRow.key) (passes : List (IdempotencyRow → Bool)) :
    ∃ t' n, deleteAll .sqlite t passes = .ok (t', n) ∧ deleteAll .postgres t passes = .ok (t', 0) ∧
      (n = 0 ↔ ∀ row ∈ t, ∀ p ∈ passes, p row = false) ∧ (n = 0 → t'.rows = t.rows) := by
  induction passes generalizing t with
  | nil => exact ⟨t, 0, rfl, rfl, by simp, fun _ => rfl⟩
  | cons p _ ih =>
    obtain ⟨t', others, hsqlite, hpg, hnone, hsame⟩ := ih (t.deleteWhere p)
    refine ⟨t', (t.rows.filter p).length + others, ?_, ?_, ?_, ?_⟩
    · unfold deleteAll
      rw [run_sqlite (Dml.apply_delete t p), ok_bind]
      dsimp only
      rw [hsqlite]
      rfl
    · unfold deleteAll
      rw [run_postgres (by simp) (Dml.apply_delete t p), ok_bind]
      dsimp only
      rw [hpg]
      rfl
    · rw [Nat.add_eq_zero_iff, hnone, length_eq_zero_iff, filter_eq_nil_iff]
      constructor
      · rintro ⟨hfirst, hrest⟩ row hrow q hq
        have hp : p row = false := by simpa using hfirst row hrow
        rcases mem_cons.mp hq with rfl | hq
        · exact hp
        · exact hrest row (Table.mem_deleteWhere.mpr ⟨hrow, hp⟩) q hq
      · intro h
        refine ⟨fun row hrow => by simp [h row hrow p mem_cons_self], ?_⟩
        intro row hrow q hq
        exact h row (Table.mem_deleteWhere.mp hrow).1 q (mem_cons_of_mem p hq)
    · intro hzero
      rw [hsame (by omega)]
      have hnil : t.rows.filter p = [] := length_eq_zero_iff.mp (by omega)
      refine filter_eq_self.mpr fun row hrow => ?_
      have hp := filter_eq_nil_iff.mp hnil row hrow
      simpa using hp

lemma prune_answer (dialect : SqlDialect) (t : Table IdempotencyRow.key) (cache : Option FrontCache)
    (capacity : Nat) (cutoffs : List (String × String)) (cutoff : String)
    (maxRows : Int) :
    (prune dialect t cache capacity cutoffs cutoff maxRows).toOption.map (fun out => out.2.2) =
      (pruneRows dialect t cutoffs cutoff maxRows).toOption.map snd := by
  unfold prune
  cases pruneRows dialect t cutoffs cutoff maxRows with
  | error => rfl
  | ok =>
    rw [ok_bind]
    dsimp only
    split_ifs <;> rfl

lemma pruneRows_of_deleteAll {dialect : SqlDialect} {cutoffs : List (String × String)}
    {cutoff : String} {n : Nat}
    (h : deleteAll dialect t (agePasses cutoffs cutoff) = .ok (t', n)) (maxRows : Int) :
    pruneRows dialect t cutoffs cutoff maxRows =
      if (t'.rows.length : Int) - maxRows > 0 then
        (deleteOldest t' ((t'.rows.length : Int) - maxRows).toNat dialect).map fun out =>
          (out.1, ⟨n, out.2⟩) else .ok (t', ⟨n, 0⟩) := by
  unfold pruneRows
  rw [h, ok_bind]
  dsimp only
  split_ifs
  · cases deleteOldest t' _ dialect <;> rfl
  · rfl

lemma prune_agrees_iff (t : Table IdempotencyRow.key) (cache : Option FrontCache) (capacity : Nat)
    (cutoffs : List (String × String)) (cutoff : String) (maxRows : Int) :
    (prune .sqlite t cache capacity cutoffs cutoff maxRows).toOption.map (fun out => out.2.2) =
        (prune .postgres t cache capacity cutoffs cutoff maxRows).toOption.map
          (fun out => out.2.2) ↔
      (∀ row ∈ t, ∀ p ∈ agePasses cutoffs cutoff, p row = false) ∧
        (t.rows.length : Int) ≤ maxRows := by
  obtain ⟨t', n, hsqlite, hpg, hnone, hsame⟩ :=
    deleteAll_spec t (agePasses cutoffs cutoff)
  rw [← hnone, prune_answer, prune_answer, pruneRows_of_deleteAll hsqlite,
    pruneRows_of_deleteAll hpg]
  split_ifs with hoverflow
  · -- The cap pass runs on SQLite and fails on Postgres.
    refine iff_of_false (fun h => ?_) fun ⟨hzero, hle⟩ => ?_
    · cases h
    · rw [hsame hzero] at hoverflow
      omega
  · constructor
    · intro h
      have hzero : n = 0 := congrArg PruneResult.prunedByAge (Option.some.inj h)
      rw [hsame hzero] at hoverflow
      exact ⟨hzero, by omega⟩
    · rintro ⟨rfl, _⟩
      rfl

end Prune

/-! ## The arms -/

def oneObject : ObjectTable String :=
  (Table.empty _).upsert ⟨"_default", "acme", "Note", "note-1", 1, "packed", "now"⟩

end Frick.Properties
