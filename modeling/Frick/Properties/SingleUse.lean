import Frick.Server.AcceptCall

/-!
# Invitations are single-use

Any number of `/share/accept` calls interleave their statements. An invitation may turn into one
grant.

`redeem` guards its `UPDATE` with `redeemed_at IS NULL`, but it does not look at whether the
`UPDATE` found the row that way. Two calls that both select the invitation before either stamps it
both go on to insert a grant. If every call that stamps does find the row unredeemed, the stamp is
the point where one call wins (`Claimed`).
-/

namespace Frick.Properties

open Framework Store Server AcceptSystem SharingTables

variable {ι : Type}

def insertedGrant : AcceptState → Option Grant
  | .returned (.granted grant) => some grant
  | _ => none

def CreatedGrant (s : AcceptSystem ι) (i : ι) : Prop := (insertedGrant (s.calls i)).isSome = true

instance (s : AcceptSystem ι) (i : ι) : Decidable (CreatedGrant s i) :=
  inferInstanceAs (Decidable (_ = true))

/-- The `UPDATE`, if that is what comes next, finds the invitation unredeemed. -/
def FindsUnredeemed (db : SharingTables) : AcceptState → Prop
  | .stamp found => ∃ row ∈ db.invitations.rows, row.id = found.id ∧ row.redeemedAt = none
  | _ => True

instance (db : SharingTables) : ∀ c, Decidable (FindsUnredeemed db c)
  | .stamp found => inferInstanceAs (Decidable (∃ row ∈ db.invitations.rows, row.id = found.id ∧ _))
  | .idle | .insert _ | .returned _ => isTrue trivial

/-- The call's next statement does not stamp an invitation that was redeemed in the meantime. -/
def StampFindsUnredeemed (s : AcceptSystem ι) (i : ι) : Prop := FindsUnredeemed s.db (s.calls i)

instance (s : AcceptSystem ι) (i : ι) : Decidable (StampFindsUnredeemed s i) :=
  inferInstanceAs (Decidable (FindsUnredeemed s.db (s.calls i)))

/-- The call is past its stamp and may still create, or has created, a grant. -/
def PastStamp (s : AcceptSystem ι) (i : ι) : Prop :=
  (∃ invitation, s.calls i = .insert invitation) ∨ CreatedGrant s i

/-! ## The invariant -/

variable {args : ι → AcceptArgs} {s : AcceptSystem ι} {i : ι}

/-- Who is past the stamp, and what the table says about it. -/
structure Claimed (args : ι → AcceptArgs) (s : AcceptSystem ι) : Prop where
  selected : ∀ i found, s.calls i = .stamp found → ∃ token row, (args i).token = .ok token ∧
    s.db.getInvitationByToken token = some row ∧ row.id = found.id
  redeemed : ∀ i, PastStamp s i → ∃ token row, (args i).token = .ok token ∧
    s.db.getInvitationByToken token = some row ∧ row.redeemedAt.isSome = true
  unique : ∀ i j, (args i).token = (args j).token → PastStamp s i → PastStamp s j → i = j

lemma claimed_start (args : ι → AcceptArgs) (db : SharingTables) :
    Claimed args (start db) where
  selected := nofun
  redeemed _ h := by
    rcases h with ⟨_, h⟩ | h
    · cases h
    · cases h
  unique _ _ _ h := by
    rcases h with ⟨_, h⟩ | h
    · cases h
    · cases h

/-- The call that stamps an unredeemed invitation is the first with its token. -/
lemma Claimed.not_pastStamp_of_stamp (h : Claimed args s) {found : Invitation}
    (hcall : s.calls i = .stamp found) (hguard : StampFindsUnredeemed s i) {j : ι}
    (htoken : (args i).token = (args j).token) : ¬PastStamp s j := by
  intro hpast
  obtain ⟨token, row, hi, hrow, hid⟩ := h.selected i found hcall
  obtain ⟨token', row', hj, hrow', hrdm⟩ := h.redeemed j hpast
  obtain rfl : token = token' := Except.ok.inj (hi.symm.trans (htoken.trans hj))
  obtain rfl : row = row' := Option.some.inj (hrow.symm.trans hrow')
  rw [StampFindsUnredeemed, hcall] at hguard
  obtain ⟨free, hfree, hfreeId, hnone⟩ := hguard
  have hsame : free = row :=
    Table.eq_of_key_eq hfree (List.mem_of_find?_eq_some hrow) (hfreeId.trans hid.symm)
  rw [← hsame, hnone] at hrdm
  cases hrdm

/-! ## What a step does -/

variable [DecidableEq ι]

/-- Every token stays with its invitation, and a redeemed invitation stays redeemed. -/
def TokensKept (db db' : SharingTables) : Prop :=
  ∀ token row, db.getInvitationByToken token = some row →
    ∃ row', db'.getInvitationByToken token = some row' ∧ row'.id = row.id ∧
      (row.redeemedAt.isSome = true → row'.redeemedAt.isSome = true)

lemma tokensKept_of_eq {db db' : SharingTables} (h : db'.invitations = db.invitations) :
    TokensKept db db' := by
  intro token row hrow
  refine ⟨row, ?_, rfl, id⟩
  rwa [getInvitationByToken, h]

lemma tokensKept_updateRedeemed (db : SharingTables) (id now redeemer : String) :
    TokensKept db (db.updateRedeemed id now redeemer) := by
  intro token row hrow
  rw [getInvitationByToken_updateRedeemed, hrow]
  refine ⟨_, rfl, ?_⟩
  dsimp only
  split_ifs with hstamp
  · exact ⟨rfl, fun _ => rfl⟩
  · exact ⟨rfl, fun h => h⟩

lemma redeemed_updateRedeemed {db : SharingTables} {token : String} {row : Invitation}
    (hrow : db.getInvitationByToken token = some row) (now redeemer : String) :
    ∃ row', (db.updateRedeemed row.id now redeemer).getInvitationByToken token = some row' ∧
      row'.redeemedAt.isSome := by
  rw [getInvitationByToken_updateRedeemed, hrow]
  refine ⟨_, rfl, ?_⟩
  dsimp only
  split_ifs with hstamp
  · rfl
  · exact Option.isSome_iff_ne_none.mpr fun hnone => hstamp ⟨rfl, hnone⟩

lemma tokensKept_step (args : ι → AcceptArgs) (s : AcceptSystem ι) (i : ι) :
    TokensKept s.db (step args s i).db := by
  cases hcall : s.calls i with
  | idle =>
    rw [step_idle hcall]
    exact tokensKept_of_eq rfl
  | stamp =>
    rw [step_stamp hcall]
    exact tokensKept_updateRedeemed _ _ _ _
  | insert =>
    rw [step_insert hcall]
    split
    next hmake => exact tokensKept_of_eq (createGrant_eq_ok hmake).2.1
    next => exact tokensKept_of_eq rfl
  | returned =>
    rw [step_returned hcall]
    exact tokensKept_of_eq rfl

lemma calls_step_of_ne {j : ι} (hj : j ≠ i) : (step args s i).calls j = s.calls j := by
  have hset : ∀ (db : SharingTables) (c : AcceptState),
      (({ s with db } : AcceptSystem ι).setCall i c).calls j = s.calls j := by
    intro db c
    simp [setCall, hj]
  cases hcall : s.calls i with
  | idle =>
    rw [step_idle hcall]
    exact hset _ _
  | stamp =>
    rw [step_stamp hcall]
    exact hset _ _
  | insert =>
    rw [step_insert hcall]
    split
    · exact hset _ _
    · exact hset _ _
  | returned => rw [step_returned hcall]

lemma selected_of_stamp {found : Invitation} (h : (step args s i).calls i = .stamp found) :
    (step args s i).db = s.db ∧ ∃ token, (args i).token = .ok token ∧
      s.db.getInvitationByToken token = some found := by
  cases hcall : s.calls i with
  | idle =>
    rw [step_idle hcall] at h ⊢
    refine ⟨rfl, ?_⟩
    rw [calls_setCall_self, selected] at h
    cases htoken : (args i).token with
    | error => rw [htoken] at h; cases h
    | ok token =>
      rw [htoken] at h
      dsimp only at h
      cases hcheck : s.db.checkRedeem token (args i).principal.tenantId
          (isoFromEpochMs (args i).nowMs) with
      | ok =>
        rw [hcheck] at h
        obtain rfl := AcceptState.stamp.inj h
        exact ⟨token, rfl, (checkRedeem_eq_ok hcheck).1⟩
      | _ => rw [hcheck] at h; cases h
  | stamp =>
    rw [step_stamp hcall, calls_setCall_self, stamped] at h
    split_ifs at h
  | insert =>
    rw [step_insert hcall] at h
    split at h
    · rw [calls_setCall_self] at h; cases h
    · rw [calls_setCall_self] at h; cases h
  | returned =>
    rw [step_returned hcall, hcall] at h
    cases h

lemma pastStamp_of_step (h : PastStamp (step args s i) i) :
    PastStamp s i ∨ ∃ found, s.calls i = .stamp found := by
  cases hcall : s.calls i with
  | idle =>
    rw [PastStamp, CreatedGrant, step_idle hcall, selected] at h
    exfalso
    cases htoken : (args i).token with
    | error => rw [htoken] at h; simp [insertedGrant] at h
    | ok token =>
      rw [htoken] at h
      dsimp only at h
      cases hcheck : redeemedInvitation (s.db.checkRedeem token (args i).principal.tenantId
          (isoFromEpochMs (args i).nowMs)) with
      | error | ok => rw [hcheck] at h; simp [insertedGrant] at h
  | stamp found => exact .inr ⟨found, rfl⟩
  | insert inv => exact .inl (.inl ⟨inv, hcall⟩)
  | returned =>
    rw [step_returned hcall] at h
    exact .inl h

/-! ## Every step keeps the invariant -/

lemma pastStamp_step_of_ne {j : ι} (hj : j ≠ i) : PastStamp (step args s i) j ↔ PastStamp s j := by
  rw [PastStamp, PastStamp, CreatedGrant, CreatedGrant, calls_step_of_ne hj]

lemma Claimed.step (h : Claimed args s) (hguard : StampFindsUnredeemed s i) :
    Claimed args (step args s i) where
  selected j found hcall := by
    by_cases hj : j = i
    · rw [hj] at hcall ⊢
      obtain ⟨hdb, token, htoken, hfound⟩ := selected_of_stamp hcall
      rw [hdb]
      exact ⟨token, found, htoken, hfound, rfl⟩
    · rw [calls_step_of_ne hj] at hcall
      obtain ⟨token, row, htoken, hrow, hid⟩ := h.selected j found hcall
      obtain ⟨row', hrow', hid', -⟩ := tokensKept_step args s i token row hrow
      exact ⟨token, row', htoken, hrow', hid'.trans hid⟩
  redeemed j hpast := by
    have hkept : PastStamp s j → ∃ token row, (args j).token = .ok token ∧
        (AcceptSystem.step args s i).db.getInvitationByToken token = some row ∧
          row.redeemedAt.isSome := by
      intro hold
      obtain ⟨token, row, htoken, hrow, hrdm⟩ := h.redeemed j hold
      obtain ⟨row', hrow', -, hstays⟩ := tokensKept_step args s i token row hrow
      exact ⟨token, row', htoken, hrow', hstays hrdm⟩
    by_cases hj : j = i
    · rw [hj] at hpast hkept ⊢
      rcases pastStamp_of_step hpast with hold | ⟨found, hcall⟩
      · exact hkept hold
      obtain ⟨token, row, htoken, hrow, hid⟩ := h.selected i found hcall
      rw [step_stamp hcall, ← hid]
      obtain ⟨row', hrow', hrdm⟩ := redeemed_updateRedeemed hrow
        (isoFromEpochMs (args i).nowMs) (args i).principal.userId
      exact ⟨token, row', htoken, hrow', hrdm⟩
    · exact hkept ((pastStamp_step_of_ne hj).mp hpast)
  unique j k htoken hj hk := by
    have hfirst : ∀ {k}, (args i).token = (args k).token →
        PastStamp (AcceptSystem.step args s i) i → PastStamp s k → i = k := by
      intro k htoken hi hk
      rcases pastStamp_of_step hi with hold | ⟨found, hcall⟩
      · exact h.unique i k htoken hold hk
      · exact absurd hk (h.not_pastStamp_of_stamp hcall hguard htoken)
    rcases eq_or_ne i j with rfl | hji <;> rcases eq_or_ne i k with rfl | hki
    · rfl
    · exact hfirst htoken hj ((pastStamp_step_of_ne hki.symm).mp hk)
    · exact (hfirst htoken.symm hk ((pastStamp_step_of_ne hji.symm).mp hj)).symm
    · exact h.unique j k htoken ((pastStamp_step_of_ne hji.symm).mp hj)
        ((pastStamp_step_of_ne hki.symm).mp hk)

/-- **Single use.** In every run in which each call that stamps an invitation finds it unredeemed,
at most one of the calls with one token creates a grant. -/
theorem one_grant_per_invitation (args : ι → AcceptArgs) (db : SharingTables) (schedule : List ι)
    (hguard : Guarded (step args) StampFindsUnredeemed (start db) schedule)
    {i j : ι} (htoken : (args i).token = (args j).token)
    (hi : CreatedGrant (run (step args) (start db) schedule) i)
    (hj : CreatedGrant (run (step args) (start db) schedule) j) : i = j := by
  have hclaimed : Claimed args (run (step args) (start db) schedule) :=
    run_invariant (fun _ _ h hstep => h.step hstep) (claimed_start args db) hguard
  exact hclaimed.unique i j htoken (.inr hi) (.inr hj)

/-! ## Two calls at once -/

def anasInvitation : SharingTables where
  grants := Table.empty _
  invitations := ⟨[⟨"inv-1", "acme", "ana", "note", "n1", "read", "secret",
    "1970-01-01T00:00:00.000Z", "1970-01-02T00:00:00.000Z", none, none⟩], by decide⟩

def bobAndCleo (second : Bool) : AcceptArgs where
  principal := ⟨if second then "cleo" else "bob", "device", "replica", "acme", .tenant, []⟩
  nowMs := 1000
  body := .map [(.string "token", .string "secret")]
  idToken := if second then "b" else "a"

/-- One after the other, one of them gets in. -/
theorem bob_before_cleo :
    CreatedGrant (run (step bobAndCleo) (start anasInvitation)
      [false, false, false, true, true, true]) false ∧
    ∀ j, CreatedGrant (run (step bobAndCleo) (start anasInvitation)
      [false, false, false, true, true, true]) j → false = j := by
  have hbob : CreatedGrant (run (step bobAndCleo) (start anasInvitation)
      [false, false, false, true, true, true]) false := by decide +kernel
  have htoken : ∀ j, (bobAndCleo false).token = (bobAndCleo j).token := by
    intro j
    cases j <;> rfl
  exact ⟨hbob, fun j hj => one_grant_per_invitation bobAndCleo anasInvitation _ (by decide +kernel)
    (htoken j) hbob hj⟩

/-- Both select the invitation before either stamps it, and both get in. -/
theorem bob_and_cleo_both_in :
    (bobAndCleo false).token = (bobAndCleo true).token ∧
    ∀ i, CreatedGrant (run (step bobAndCleo) (start anasInvitation)
      [false, true, false, true, false, true]) i :=
  ⟨rfl, by decide +kernel⟩

end Frick.Properties
