import Frick.Framework.Run
import Frick.Store.Session

/-!
# Families of refresh tokens

The tokens that come from one `issue` by rotation form a family. At most one token of a family is
unrevoked at any time, and a replay of a revoked token ends the family: from then on none of its
tokens is active or can be rotated.

A purge removes rows, so a table does not show which tokens and families there have been. A run
keeps a record of every stored digest with its family beside the table.
-/

namespace Frick.Properties

open Framework Store RefreshTokenTable

/-- The table, and the digest and family of every token ever stored. -/
structure TokenWorld where
  table : RefreshTokenTable
  stored : List (String × Option String)

/-- One call on the store. -/
inductive TokenOp where
  | issue (token familyId tenantId userId deviceId replicaId : String) (ttlSeconds nowMs : Int)
  | rotate (token freshToken : String) (ttlSeconds nowMs : Int)
  | revoke (token : String) (nowMs : Int)
  | revokeForUser (userId : String) (tenantId : Option String) (nowMs : Int)
  | purgeExpired (nowMs : Int)

variable (digests : TokenDigests)

/-- The table after a call, and the record with the token it stored, if any. -/
def TokenOp.step (w : TokenWorld) : TokenOp → TokenWorld
  | .issue token familyId tenantId userId deviceId replicaId ttlSeconds nowMs =>
    match w.table.issue digests token familyId tenantId userId deviceId replicaId ttlSeconds
        nowMs with
    | .ok (table, _) => ⟨table, w.stored ++ [(digests.hashToken token, some familyId)]⟩
    | .error _ => w
  | .rotate token freshToken ttlSeconds nowMs =>
    match w.table.rotate digests token freshToken ttlSeconds nowMs with
    | .ok (table, some _) =>
      ⟨table, w.stored ++ [(digests.hashToken freshToken,
        (w.table.find? (digests.hashToken token)).bind RefreshTokenRow.familyId)]⟩
    | .ok (table, none) => ⟨table, w.stored⟩
    | .error _ => w
  | .revoke token nowMs => ⟨(w.table.revoke digests token nowMs).1, w.stored⟩
  | .revokeForUser userId tenantId nowMs => ⟨w.table.revokeForUser userId tenantId nowMs, w.stored⟩
  | .purgeExpired nowMs => ⟨(w.table.purgeExpired nowMs).1, w.stored⟩

open TokenOp (step)

/-- Tokens and family ids are drawn fresh. -/
def Fresh (w : TokenWorld) : TokenOp → Prop
  | .issue token familyId _ _ _ _ _ _ =>
    digests.hashToken token ∉ w.stored.map Prod.fst ∧ some familyId ∉ w.stored.map Prod.snd
  | .rotate _ freshToken _ _ => digests.hashToken freshToken ∉ w.stored.map Prod.fst
  | _ => True

instance (w : TokenWorld) : ∀ op, Decidable (Fresh digests w op)
  | .issue _ _ _ _ _ _ _ _ => inferInstanceAs (Decidable (_ ∧ _))
  | .rotate _ fresh _ _ =>
    inferInstanceAs (Decidable (digests.hashToken fresh ∉ w.stored.map Prod.fst))
  | .revoke _ _ | .revokeForUser _ _ _ | .purgeExpired _ => isTrue trivial

/-- Each family has at most one unrevoked token. -/
def OneActive (t : RefreshTokenTable) : Prop :=
  ∀ family, ∀ row ∈ t, ∀ other ∈ t, row.familyId = some family → other.familyId = some family →
    row.revokedAt = none → other.revokedAt = none → row = other

/-- The record covers the table, and the families have at most one unrevoked token each. -/
structure Lineages (w : TokenWorld) : Prop where
  oneActive : OneActive w.table
  covered : ∀ row ∈ w.table, (row.tokenHash, row.familyId) ∈ w.stored
  distinct : (w.stored.map Prod.fst).Nodup

/-! ## What a call does -/

/-- The row is the old one, or the old one revoked. -/
def Ages (old row : RefreshTokenRow) : Prop :=
  row = old ∨ ∃ now, row = revokedOn now old

variable {digests}
variable {w w' : TokenWorld} {op : TokenOp} {old row : RefreshTokenRow} {family : String}

lemma Ages.tokenHash_eq (h : Ages old row) : row.tokenHash = old.tokenHash := by
  rcases h with rfl | ⟨now, rfl⟩ <;> rfl

lemma Ages.familyId_eq (h : Ages old row) : row.familyId = old.familyId := by
  rcases h with rfl | ⟨now, rfl⟩ <;> rfl

lemma Ages.eq_of_unrevoked (h : Ages old row) (hact : row.revokedAt = none) : row = old := by
  rcases h with rfl | ⟨now, rfl⟩
  · rfl
  · cases hact

lemma Ages.revoked (h : Ages old row) (hold : old.revokedAt.isSome) :
    row.revokedAt.isSome := by
  rcases h with rfl | ⟨now, rfl⟩
  · exact hold
  · rfl

/-- A call lets the rows age, and may store one new row: the first of a new family, or the successor
of an unrevoked row, which is revoked by the same call. -/
inductive Moves (w w' : TokenWorld) : Prop
  | keeps (hstored : w'.stored = w.stored)
      (hrows : ∀ row ∈ w'.table, ∃ old ∈ w.table, Ages old row)
  | stores (new : RefreshTokenRow) (hdigest : new.tokenHash ∉ w.stored.map Prod.fst)
      (hstored : w'.stored = w.stored ++ [(new.tokenHash, new.familyId)])
      (hrows : ∀ row ∈ w'.table, row = new ∨ ∃ old ∈ w.table, Ages old row)
      (horigin : new.familyId ∉ w.stored.map Prod.snd ∨
        ∃ presented ∈ w.table, presented.revokedAt = none ∧ new.familyId = presented.familyId ∧
          (presented ∈ w'.table → presented = new))

variable {t : RefreshTokenTable} {nowMs ttlSeconds : Int} {token : String}

lemma ages_of_revokeWhere {now : String} {p : RefreshTokenRow → Bool}
    (h : row ∈ t.revokeWhere now p) : ∃ old ∈ t, Ages old row := by
  obtain ⟨old, hold, hrow⟩ := revokeWhere_mem h
  exact ⟨old, hold, hrow.imp_right fun hrow => ⟨now, hrow⟩⟩

lemma moves_refl (w : TokenWorld) : Moves w w :=
  .keeps rfl fun row hrow => ⟨row, hrow, .inl rfl⟩

lemma moves_issue {familyId tenantId userId deviceId replicaId : String}
    (hfresh : Fresh digests w (.issue token familyId tenantId userId deviceId replicaId ttlSeconds
      nowMs)) :
    Moves w ((TokenOp.issue token familyId tenantId userId deviceId replicaId ttlSeconds
      nowMs).step digests w) := by
  rw [step, issue]
  cases hins : w.table.insert (issuedRow digests token familyId tenantId userId
      deviceId replicaId ttlSeconds nowMs) with
  | none => exact moves_refl w
  | some =>
    refine .stores (issuedRow digests token familyId tenantId userId deviceId
      replicaId ttlSeconds nowMs) hfresh.1 rfl (fun row hrow => ?_) (.inl hfresh.2)
    rcases (Table.mem_of_insert hins).mp hrow with hrow | rfl
    · exact .inr ⟨row, hrow, .inl rfl⟩
    · exact .inl rfl

lemma moves_rotate {fresh : String}
    (hfresh : Fresh digests w (.rotate token fresh ttlSeconds nowMs)) :
    Moves w ((TokenOp.rotate token fresh ttlSeconds nowMs).step digests w) := by
  rw [step]
  cases hrot : w.table.rotate digests token fresh ttlSeconds nowMs with
  | error => exact moves_refl w
  | ok out =>
    obtain ⟨table, issued⟩ := out
    rcases rotate_cases hrot with ⟨rfl, rfl⟩ |
      ⟨pres, _, _, _, rfl, rfl⟩ | ⟨pres, hpres, hkey, hact, rfl, hins⟩
    · exact moves_refl w
    · refine .keeps rfl fun row hrow => ?_
      dsimp only at hrow
      unfold burnFamily at hrow
      split at hrow
      · exact ⟨row, hrow, .inl rfl⟩
      · exact ages_of_revokeWhere hrow
    · have hfound := Table.find?_eq_some_iff.mpr ⟨hpres, hkey⟩
      refine .stores (successor digests pres fresh ttlSeconds nowMs)
        hfresh ?_ (fun row hrow => ?_) (.inr ⟨pres, hpres, hact, rfl, fun hrow => ?_⟩)
      · dsimp only
        rw [hfound]
        rfl
      · exact ((Table.mem_of_insert hins).mp hrow).symm.imp_right ages_of_revokeWhere
      · refine ((Table.mem_of_insert hins).mp hrow).resolve_left fun hkept => ?_
        have hrev := revokedAt_of_mem_revokeWhere hkept (decide_eq_true hkey)
        rw [hact] at hrev
        cases hrev

lemma moves_of_step (hfresh : Fresh digests w op) : Moves w (op.step digests w) := by
  cases op with
  | issue => exact moves_issue hfresh
  | rotate => exact moves_rotate hfresh
  | revoke token nowMs | revokeForUser userId tenantId nowMs =>
    exact .keeps rfl fun row hrow => ages_of_revokeWhere hrow
  | purgeExpired =>
    exact .keeps rfl fun row hrow => ⟨row, (Table.mem_deleteWhere.mp hrow).1, .inl rfl⟩

/-! ## One unrevoked token -/

lemma OneActive.of_ages (h : OneActive t) {old' row' : RefreshTokenRow} (hold : old ∈ t)
    (hages : Ages old row) (hold' : old' ∈ t) (hages' : Ages old' row')
    (hfam : row.familyId = some family) (hfamily' : row'.familyId = some family)
    (hact : row.revokedAt = none) (hactive' : row'.revokedAt = none) : row = row' := by
  obtain rfl := hages.eq_of_unrevoked hact
  obtain rfl := hages'.eq_of_unrevoked hactive'
  exact h family _ hold _ hold' hfam hfamily' hact hactive'

lemma Lineages.oneActive_of_moves (h : Lineages w) (hmoves : Moves w w') : OneActive w'.table := by
  intro family row hrow other hother hfam hfamily' hact hactive'
  cases hmoves with
  | keeps _ hrows =>
    obtain ⟨old, hold, hages⟩ := hrows row hrow
    obtain ⟨old', hold', hages'⟩ := hrows other hother
    exact h.oneActive.of_ages hold hages hold' hages' hfam hfamily' hact hactive'
  | stores new _ _ hrows horigin =>
    -- A new family has no other row; of a known one, only the row presented was unrevoked.
    have hsole : ∀ row ∈ w'.table, row.familyId = some family → row.revokedAt = none →
        new.familyId = some family → row = new := by
      intro row hrow hfam hact hnew
      rcases hrows row hrow with rfl | ⟨old, hold, hages⟩
      · rfl
      obtain rfl := hages.eq_of_unrevoked hact
      rcases horigin with hfor | ⟨pres, hpres, hunrevoked, hlineage, hgone⟩
      · rw [hnew, ← hfam] at hfor
        exact absurd (List.mem_map_of_mem (f := Prod.snd) (h.covered row hold)) hfor
      · obtain rfl := h.oneActive family row hold pres hpres hfam
          (hlineage ▸ hnew) hact hunrevoked
        exact hgone hrow
    rcases hrows row hrow with rfl | ⟨old, hold, hages⟩
    · exact (hsole other hother hfamily' hactive' hfam).symm
    · rcases hrows other hother with rfl | ⟨old', hold', hages'⟩
      · exact hsole row hrow hfam hact hfamily'
      · exact h.oneActive.of_ages hold hages hold' hages' hfam hfamily' hact hactive'

/-- **Step.** A move keeps one active row in each family and every token in its lineage. -/
lemma Lineages.moves (h : Lineages w) (hmoves : Moves w w') : Lineages w' := by
  have hone := h.oneActive_of_moves hmoves
  cases hmoves with
  | keeps hstored hrows =>
    refine ⟨hone, fun row hrow => ?_, hstored ▸ h.distinct⟩
    obtain ⟨old, hold, hages⟩ := hrows row hrow
    rw [hstored, hages.tokenHash_eq, hages.familyId_eq]
    exact h.covered old hold
  | stores new hdigest hstored hrows =>
    refine ⟨hone, fun row hrow => ?_, ?_⟩
    · rw [hstored, List.mem_append]
      rcases hrows row hrow with rfl | ⟨old, hold, hages⟩
      · exact .inr (List.mem_singleton_self _)
      · rw [hages.tokenHash_eq, hages.familyId_eq]
        exact .inl (h.covered old hold)
    · rw [hstored, List.map_append, List.map_singleton, ← List.concat_eq_append]
      exact h.distinct.concat hdigest

/-! ## Burned families -/

/-- Every stored token of the family is revoked, and the family id is spent. -/
structure Burned (family : String) (w : TokenWorld) : Prop where
  revoked : ∀ row ∈ w.table, row.familyId = some family → row.revokedAt.isSome = true
  spent : some family ∈ w.stored.map Prod.snd

lemma Burned.moves (h : Burned family w) (hmoves : Moves w w') : Burned family w' := by
  have hages : ∀ old ∈ w.table, ∀ row, Ages old row → row.familyId = some family →
      row.revokedAt.isSome := by
    intro old hold row hages hfam
    exact hages.revoked (h.revoked old hold (hages.familyId_eq ▸ hfam))
  cases hmoves with
  | keeps hstored hrows =>
    refine ⟨fun row hrow hfam => ?_, hstored ▸ h.spent⟩
    obtain ⟨old, hold, hrow⟩ := hrows row hrow
    exact hages old hold row hrow hfam
  | stores _ _ hstored hrows horigin =>
    refine ⟨fun row hrow hfam => ?_, ?_⟩
    · rcases hrows row hrow with rfl | ⟨old, hold, hrow⟩
      · rcases horigin with hnew | ⟨pres, hpres, hact, hlineage, _⟩
        · exact absurd (hfam ▸ h.spent) hnew
        · have hrev := h.revoked pres hpres (hlineage ▸ hfam)
          rw [hact] at hrev
          cases hrev
      · exact hages old hold row hrow hfam
    · rw [hstored, List.map_append]
      exact List.mem_append_left _ h.spent

lemma burned_of_replay (fresh : String) (ttlSeconds nowMs : Int) (h : Lineages w)
    (hfind : w.table.find? (digests.hashToken token) = some row)
    (hrev : row.revokedAt.isSome) (hfam : row.familyId = some family) :
    Burned family ((TokenOp.rotate token fresh ttlSeconds nowMs).step digests w) := by
  have hmem := (Table.find?_eq_some_iff.mp hfind).1
  have hspent : some family ∈ w.stored.map Prod.snd := by
    rw [← hfam]
    exact List.mem_map_of_mem (f := Prod.snd) (h.covered row hmem)
  have hrot : w.table.rotate digests token fresh ttlSeconds nowMs =
      .ok (w.table.burnFamily (isoFromEpochMs nowMs) (some family), none) := by
    unfold rotate
    dsimp only
    rw [hfind]
    dsimp only
    rw [if_pos hrev, hfam]
  rw [step, hrot]
  refine ⟨fun row hrow hrowfamily => ?_, hspent⟩
  by_contra hact
  have hnone : row.revokedAt = none := by simpa using hact
  apply hact (revokedAt_of_mem_revokeWhere hrow _)
  exact decide_eq_true ⟨hrowfamily, hnone⟩

lemma Burned.revoked_of_stored (h : Burned family w) (hlineages : Lineages w) {digest : String}
    (hstored : (digest, some family) ∈ w.stored) :
    ∀ row ∈ w.table, row.tokenHash = digest → row.revokedAt.isSome := by
  intro row hrow hkey
  apply h.revoked row hrow
  have hcov := hlineages.covered row hrow
  have heq := List.inj_on_of_nodup_map hlineages.distinct hcov hstored hkey
  exact (Prod.mk.inj heq).2

/-! ## Runs -/

variable (digests)

lemma lineages_run {ops : List TokenOp} (h : Lineages w)
    (hguard : Guarded (step digests) (Fresh digests) w ops) :
    Lineages (run (step digests) w ops) :=
  run_invariant (fun _ _ h hfresh => h.moves (moves_of_step hfresh)) h hguard

/-- **Families of refresh tokens.** In a run with fresh draws, each family has at most one unrevoked
token at every point; and once a revoked token of a family has been presented, no token of the
family is unrevoked or active at any later point, and no rotation of any token ever stored in the
family issues another. -/
theorem refresh_families (w : TokenWorld) (ops : List TokenOp) (hstart : Lineages w)
    (hguard : Guarded (step digests) (Fresh digests) w ops) :
    OneActive (run (step digests) w ops).table ∧
      ∀ before token freshToken ttlSeconds nowMs after row family,
        ops = before ++ .rotate token freshToken ttlSeconds nowMs :: after →
        (run (step digests) w before).table.find? (digests.hashToken token) = some row →
        row.revokedAt.isSome = true → row.familyId = some family →
        (∀ row ∈ (run (step digests) w ops).table, row.familyId = some family →
            row.revokedAt.isSome = true) ∧
          ∀ later, (digests.hashToken later, some family) ∈ (run (step digests) w ops).stored →
            (∀ nowMs, (run (step digests) w ops).table.readActive digests later nowMs = none) ∧
            ∀ freshToken ttlSeconds nowMs, ∃ t,
              (run (step digests) w ops).table.rotate digests later freshToken ttlSeconds
                nowMs = .ok (t, none) := by
  have hend := lineages_run digests hstart hguard
  refine ⟨hend.oneActive, ?_⟩
  intro before token freshToken ttlSeconds nowMs after row family hops hfind hrevoked hfamily
  have hburned : Burned family (run (step digests) w ops) := by
    rw [hops, guarded_append] at hguard
    obtain ⟨hbefore, _, hafter⟩ := hguard
    have hreplay := burned_of_replay freshToken ttlSeconds nowMs
      (lineages_run digests hstart hbefore) hfind hrevoked hfamily
    rw [hops, run_append, run_cons]
    exact run_invariant (fun _ _ h hfresh => h.moves (moves_of_step hfresh)) hreplay hafter
  refine ⟨hburned.revoked, fun later hlater => ?_⟩
  have hrows := hburned.revoked_of_stored hend hlater
  exact ⟨readActive_of_revoked hrows, rotate_of_revoked hrows⟩

def TokenWorld.empty : TokenWorld := ⟨Table.empty _, []⟩

lemma lineages_empty : Lineages .empty where
  oneActive := nofun
  covered := nofun
  distinct := List.nodup_nil

def rotateOnce : List TokenOp :=
  [.issue "first" "family" "acme" "ada" "device" "replica" 3600 1700000000000,
    .rotate "first" "second" 3600 1700000001000]

def replayFirst : List TokenOp :=
  rotateOnce ++ [.rotate "first" "third" 3600 1700000002000,
    .rotate "second" "fourth" 3600 1700000003000]

/-- After the replay the second token, which nobody had presented before, is of no use. -/
theorem replay_ends_family :
    (run (step .plain) .empty rotateOnce).table.readActive .plain "second" 1700000002000 ≠ none ∧
      (run (step .plain) .empty replayFirst).table.readActive .plain "second"
        1700000003000 = none := by
  refine ⟨by decide +kernel, ?_⟩
  have hrun := (refresh_families .plain .empty replayFirst lineages_empty (by decide +kernel)).2
    rotateOnce "first" "third" 3600 1700000002000
    [.rotate "second" "fourth" 3600 1700000003000]
    ⟨"first", "acme", "ada", "device", "replica", isoFromEpochMs 1700000000000,
      isoFromEpochMs 1700003600000, some (isoFromEpochMs 1700000001000), some "family"⟩ "family"
    rfl (by decide +kernel) rfl rfl
  exact (hrun.2 "second" (by decide +kernel)).1 1700000003000

end Frick.Properties
