import Frick.Framework.Run
import Frick.Server.Objects
import Frick.Server.Share

/-!
# Where read access to somebody else's record comes from

A run interleaves `/share` requests and object writes of any principals; the log keeps who got
which answer. In owner-scoped mode a reader who is not the recorded owner reads a record only
through an active grant, and the log shows how that grant came about. The inviter need not be the
record's owner: `invite` asks for no relation between the caller and the record it names.
-/

namespace Frick.Properties

open Framework Protocol Store Server List

/-! ## Runs -/

/-- The configuration of a server: its object store and its policy hooks. -/
structure ShareServer (β : Type) where
  store : ObjectStore β
  hooks : List PolicyHook := []

/-- The tables, and who got which answer from a `/share` route. -/
structure ShareWorld (β : Type) where
  sharing : SharingTables
  objects : ObjectTable β
  log : List (Principal × ShareResponse)

def ShareWorld.empty {β : Type} : ShareWorld β := ⟨.empty, Table.empty _, []⟩

/-- What a request asks for. -/
inductive ShareCall where
  | invite (body : Value) (idToken token : String)
  | accept (body : Value) (idToken : String)
  | revoke (grantId : String)
  | leave (grantId : String)
  | upsert (appId objectType objectId : String) (value : Value) (expectedVersion : Option Int)

structure ShareRequest where
  principal : Principal
  nowMs : Int
  call : ShareCall

variable {β : Type}

/-- The tables after a `/share` handler, with its answer logged. -/
def ShareWorld.answered (w : ShareWorld β) (principal : Principal)
    (outcome : SharingTables × ShareResponse) : ShareWorld β :=
  { w with sharing := outcome.1, log := w.log ++ [(principal, outcome.2)] }

/-- One request. -/
def ShareServer.serve (server : ShareServer β) (w : ShareWorld β) (r : ShareRequest) :
    ShareWorld β :=
  match r.call with
  | .invite body idToken token =>
    w.answered r.principal (invite w.sharing r.principal r.nowMs body idToken token)
  | .accept body idToken =>
    w.answered r.principal (accept w.sharing r.principal r.nowMs body idToken)
  | .revoke grantId => w.answered r.principal (revokeGrant w.sharing r.principal r.nowMs grantId)
  | .leave grantId => w.answered r.principal (leaveGrant w.sharing r.principal r.nowMs grantId)
  | .upsert appId objectType objectId value expectedVersion =>
    { w with objects := (writeObject server.store server.hooks w.sharing w.objects r.principal
        appId objectType objectId value expectedVersion r.nowMs).1 }

/-! ## Provenance -/

/-- The grant was created by its grantee's `accept` of an invitation that `inviter` issued. -/
def GrantedBy (log : List (Principal × ShareResponse)) (grant : Grant) (inviter : Principal) :
    Prop :=
  ∃ invitation grantee nowMs idToken, (inviter, .invited invitation) ∈ log ∧
    (grantee, .granted grant.granted) ∈ log ∧
    grant.granted = grantFromInvitation invitation grantee nowMs idToken ∧
    invitation.ownerUserId = inviter.userId ∧ invitation.tenantId = inviter.tenantId ∧
    grantee.tenantId = inviter.tenantId ∧ inviter.userId ≠ grantee.userId

/-- The tables hold nothing that the log does not account for. -/
structure Accounted (server : ShareServer β) (w : ShareWorld β) : Prop where
  invitations : ∀ row ∈ w.sharing.invitations, ∃ inviter, (inviter, .invited row.issued) ∈ w.log ∧
    row.ownerUserId = inviter.userId ∧ row.tenantId = inviter.tenantId
  grants : ∀ row ∈ w.sharing.grants, ∃ inviter, GrantedBy w.log row inviter
  objects : server.store.Written w.objects

lemma GrantedBy.mono {log log' : List (Principal × ShareResponse)} {grant grant' : Grant}
    {inviter : Principal} (h : GrantedBy log grant inviter) (hlog : ∀ e ∈ log, e ∈ log')
    (hgrant : grant'.granted = grant.granted) : GrantedBy log' grant' inviter := by
  obtain ⟨inv, grantee, nowMs, token, hinv, hgranted, hrest⟩ := h
  refine ⟨inv, grantee, nowMs, token, hlog _ hinv, ?_, ?_⟩
  · rw [hgrant]
    exact hlog _ hgranted
  · rwa [hgrant]

lemma accounted_empty (server : ShareServer β) : Accounted server ShareWorld.empty where
  invitations := nofun
  grants := nofun
  objects := ObjectStore.written_empty

section Steps

variable {server : ShareServer β} {w : ShareWorld β}

section

variable (h : Accounted server w)
include h

/-- A `/share` answer keeps the books if each row it leaves is an old one, up to stamps, or is
accounted for by the answer itself. -/
lemma Accounted.answered (p : Principal) (out : SharingTables × ShareResponse)
    (hinvs : ∀ row ∈ out.1.invitations,
      (∃ old ∈ w.sharing.invitations, row.issued = old.issued) ∨
        (out.2 = .invited row.issued ∧ row.ownerUserId = p.userId ∧ row.tenantId = p.tenantId))
    (hgrants : ∀ row ∈ out.1.grants,
      (∃ old ∈ w.sharing.grants, row.granted = old.granted) ∨
        ∃ inviter, GrantedBy (w.log ++ [(p, out.2)]) row inviter) :
    Accounted server (w.answered p out) where
  invitations := by
    intro row hrow
    rcases hinvs row hrow with ⟨old, hold, hsame⟩ | ⟨hans, howner, hten⟩
    · obtain ⟨inviter, hlog, howner, hten⟩ := h.invitations old hold
      have hownerSame : row.issued.ownerUserId = old.issued.ownerUserId := by rw [hsame]
      have htenantSame : row.issued.tenantId = old.issued.tenantId := by rw [hsame]
      refine ⟨inviter, ?_, hownerSame.trans howner, htenantSame.trans hten⟩
      rw [hsame]
      exact mem_append_left _ hlog
    · refine ⟨p, ?_, howner, hten⟩
      rw [← hans]
      exact mem_append_right _ (mem_singleton.mpr rfl)
  grants := by
    intro row hrow
    rcases hgrants row hrow with ⟨old, hold, hsame⟩ | hnew
    · obtain ⟨inviter, hgrant⟩ := h.grants old hold
      exact ⟨inviter, hgrant.mono (fun _ => mem_append_left _) hsame⟩
    · exact hnew
  objects := h.objects

lemma Accounted.invite (p : Principal) (nowMs : Int) (body : Value)
    (idToken token : String) :
    Accounted server (w.answered p (invite w.sharing p nowMs body idToken token)) := by
  rcases invite_cases w.sharing p nowMs body idToken token with
    ⟨invitation, hans, howner, hten, hissue, hgrant, hrows⟩ | hsame
  · refine h.answered p _ ?_ ?_
    · intro row hrow
      rcases (hrows row).mp hrow with hold | rfl
      · exact .inl ⟨row, hold, rfl⟩
      · exact .inr ⟨by rw [hans, hissue], howner, hten⟩
    · intro row hrow
      rw [hgrant] at hrow
      exact .inl ⟨row, hrow, rfl⟩
  · refine h.answered p _ ?_ ?_ <;> rw [hsame] <;>
      exact fun row hrow => .inl ⟨row, hrow, rfl⟩

/-- The grant an `accept` creates is the inviter's, because the stored invitation is. -/
lemma Accounted.accept (p : Principal) (nowMs : Int) (body : Value) (token : String) :
    Accounted server (w.answered p (accept w.sharing p nowMs body token)) := by
  obtain ⟨hinvs, hgrants⟩ := accept_cases w.sharing p nowMs body token
  refine h.answered p _ (fun row hrow => .inl (hinvs row hrow)) ?_
  rcases hgrants with
    ⟨grant, found, hans, hfound, hten, hother, hgrant, hrows⟩ | hsame
  · intro row hrow
    rcases (hrows row).mp hrow with hold | rfl
    · exact .inl ⟨row, hold, rfl⟩
    obtain ⟨inviter, hinv, howner, hinviterTenant⟩ := h.invitations found hfound
    have hgranted : row.granted = row := by
      rw [hgrant]
      rfl
    refine .inr ⟨inviter, found.issued, p, nowMs, token, ?_, ?_, ?_, howner,
      hinviterTenant, hten.symm.trans hinviterTenant, ?_⟩
    · exact mem_append_left _ hinv
    · rw [hans, hgranted]
      exact mem_append_right _ (mem_singleton.mpr rfl)
    · rw [hgrant]
      rfl
    · rwa [← howner]
  · rw [hsame]
    exact fun row hrow => .inl ⟨row, hrow, rfl⟩

lemma Accounted.endGrant (party : Grant → String) (p : Principal)
    (nowMs : Int) (grantId : String) :
    Accounted server (w.answered p (endGrant party w.sharing p nowMs grantId)) := by
  refine h.answered p _ ?_ ?_
  · rw [endGrant_invitations]
    exact fun row hrow => .inl ⟨row, hrow, rfl⟩
  · intro row hrow
    obtain ⟨old, hold, hsame, _⟩ := endGrant_grants hrow
    exact .inl ⟨old, hold, hsame⟩

lemma Accounted.serve (r : ShareRequest) : Accounted server (server.serve w r) := by
  unfold ShareServer.serve
  split
  · exact h.invite _ _ _ _ _
  · exact h.accept _ _ _ _
  · exact h.endGrant _ _ _ _
  · exact h.endGrant _ _ _ _
  · exact ⟨h.invitations, h.grants, written_writeObject h.objects _ _ _ _ _ _ _ _ _⟩

end

end Steps

/-- An active, read-satisfying grant to the reader on the record. -/
def ActiveGrant (db : SharingTables) (reader : Principal) (objectType objectId : String)
    (grant : Grant) : Prop :=
  grant ∈ db.grants ∧ grant.revokedAt = none ∧ grant.tenantId = reader.tenantId ∧
    grant.granteeUserId = reader.userId ∧ grant.recordType = objectType ∧
    grant.recordId = objectId ∧ sharingPermissionSatisfies grant.permission "read" = true

/-- The reader sees the record at this address although its owner field names `owner`, somebody
else, and the reader is no admin. -/
structure ForeignRead (server : ShareServer β) (w : ShareWorld β) (reader : Principal)
    (appId objectType objectId owner : String) : Prop where
  notAdmin : reader.scope ≠ .admin
  ownerSet : owner ≠ ""
  ownerOther : owner ≠ reader.userId
  visible : ∃ field value perRecordActive,
    ownerFieldForType server.store.schema objectType = some field ∧
      server.store.read w.objects reader.tenantId objectType objectId appId = .ok (some value) ∧
      objectFieldStr value field = some owner ∧
      subscriberCanReadObject w.sharing .ownerScoped (some field) reader objectType value
        perRecordActive none = true

lemma accounted_run (server : ShareServer β) (requests : List ShareRequest) :
    Accounted server (run server.serve .empty requests) :=
  run_of_forall_step (fun _ r hw => hw.serve r) (accounted_empty server) requests

/-- **Shared.** In every run, whoever reads a record owned by somebody else holds an active grant
on it, and created that grant by accepting an invitation to the record which another principal
of the tenant had issued. -/
theorem foreign_read_was_shared (server : ShareServer β) (requests : List ShareRequest)
    (reader : Principal) (appId objectType objectId owner : String)
    (hread : ForeignRead server (run server.serve .empty requests) reader appId objectType
      objectId owner) :
    ∃ grant inviter,
      ActiveGrant (run server.serve .empty requests).sharing reader objectType objectId grant ∧
        GrantedBy (run server.serve .empty requests).log grant inviter ∧
        inviter.userId ≠ reader.userId ∧ inviter.tenantId = reader.tenantId := by
  have hacc := accounted_run server requests
  obtain ⟨field, value, perRecordActive, _, hvalue, howner, hvisible⟩ := hread.visible
  have hid : objectRecordId value = some objectId := by
    rw [ObjectStore.read_eq_current hacc.objects, Except.ok.injEq] at hvalue
    rw [objectRecordId, objectFieldStr, (ObjectStore.readsBack_of_current hacc.objects hvalue).id]
    rfl
  have hactive := hasActiveGrantFor_of_canRead hread.notAdmin hid howner hread.ownerSet
    hread.ownerOther hvisible
  obtain ⟨grant, hmem, ⟨htenant, hgrantee, htype, hrecord, hrevoked⟩, hpermission⟩ :=
    SharingTables.hasActiveGrantFor_iff.mp hactive
  obtain ⟨inviter, hgranted⟩ := hacc.grants grant hmem
  refine ⟨grant, inviter, ⟨hmem, hrevoked, htenant, hgrantee, htype, hrecord, hpermission⟩,
    hgranted, ?_⟩
  -- The grantee of record is the reader, since the grant was made out to whoever accepted.
  obtain ⟨invitation, grantee, _, _, _, _, hfrom, _, htenantInviter, htenantGrantee, hother⟩ :=
    hgranted
  have hgranteeId : grant.granteeUserId = grantee.userId := congrArg Grant.granteeUserId hfrom
  have hgrantTenant : grant.tenantId = invitation.tenantId := congrArg Grant.tenantId hfrom
  constructor
  · rw [← hgrantee, hgranteeId]
    exact hother
  · rw [← htenant, hgrantTenant, htenantInviter]

/-- **Listed is what reads find.** In every run the list of a type succeeds, and has exactly the
records that a read by id finds, each once. -/
theorem list_agrees_with_reads (server : ShareServer β) (requests : List ShareRequest)
    (tenantId objectType appId : String) :
    ∃ values, server.store.list (run server.serve .empty requests).objects tenantId objectType
        appId = .ok values ∧
      (values.map fun value => value.field? "id").Nodup ∧
      ∀ value, value ∈ values ↔ ∃ objectId, server.store.read
        (run server.serve .empty requests).objects tenantId objectType objectId appId =
          .ok (some value) := by
  have hacc := accounted_run server requests
  simp only [ObjectStore.read_eq_current hacc.objects, Except.ok.injEq]
  exact ObjectStore.exists_list hacc.objects tenantId objectType appId

/-! ## How a grant ends -/

/-- The owner revokes the grant, or the grantee leaves it. -/
def ShareRequest.Ends (r : ShareRequest) (grant : Grant) : Prop :=
  r.principal.tenantId = grant.tenantId ∧
    (r.call = .revoke grant.id ∧ r.principal.userId = grant.ownerUserId ∨
      r.call = .leave grant.id ∧ r.principal.userId = grant.granteeUserId)

/-- Every grant is still there as it was made out, and unchanged unless it was active and a party to
it has ended it. -/
def GrantsKept (db : SharingTables) (requests : List ShareRequest) (db' : SharingTables) : Prop :=
  ∀ grant ∈ db.grants, ∃ row ∈ db'.grants, row.granted = grant.granted ∧
    (row = grant ∨ grant.revokedAt = none ∧ ∃ r ∈ requests, r.Ends grant)

lemma grantsKept_of_subset {db db' : SharingTables} {requests : List ShareRequest}
    (h : ∀ grant ∈ db.grants, grant ∈ db'.grants) : GrantsKept db requests db' :=
  fun grant hmem => ⟨grant, h grant hmem, rfl, .inl rfl⟩

lemma grantsKept_endGrant {party : Grant → String} {db : SharingTables} {r : ShareRequest}
    {grantId : String}
    (hends : ∀ grant, grant.id = grantId → r.principal.tenantId = grant.tenantId →
      party grant = r.principal.userId → r.Ends grant) :
    GrantsKept db [r] (endGrant party db r.principal r.nowMs grantId).1 := by
  unfold endGrant
  split
  next => exact grantsKept_of_subset fun _ => id
  next existing hfound =>
    obtain ⟨hget, hparty⟩ := Option.filter_eq_some_iff.mp hfound
    have hid := find?_some hget
    simp only [decide_eq_true_eq] at hid hparty
    change GrantsKept db [r] (db.revokeGrant r.principal.tenantId existing.id _).1
    unfold SharingTables.revokeGrant
    split
    next => exact grantsKept_of_subset fun _ => id
    next =>
      split_ifs
      · exact grantsKept_of_subset fun _ => id
      intro grant hmem
      refine ⟨_,
        (Table.mem_updateWhere (SharingTables.stampRevoked_id _)).mpr ⟨grant, hmem, rfl⟩, ?_⟩
      split_ifs with hhit
      · simp only [decide_eq_true_eq] at hhit
        -- Ids are unique, so the row that is stamped is the one whose party was checked.
        obtain rfl := Table.eq_of_key_eq (mem_of_find?_eq_some hget) hmem hhit.2.1.symm
        exact ⟨rfl, .inr ⟨hhit.2.2, r, mem_singleton_self r, hends _ hid.2 hid.1.symm hparty⟩⟩
      · exact ⟨rfl, .inl rfl⟩

/-- **Step.** No request loses a grant, and only a party to it ends one. -/
lemma grantsKept_serve (server : ShareServer β) (w : ShareWorld β) (r : ShareRequest) :
    GrantsKept w.sharing [r] (server.serve w r).sharing := by
  unfold ShareServer.serve
  split
  next body idToken token _ =>
    refine grantsKept_of_subset fun grant hmem => ?_
    rcases invite_cases w.sharing r.principal r.nowMs body idToken token with
      ⟨_, _, _, _, _, hsame, _⟩ | hsame <;> rwa [ShareWorld.answered, hsame]
  next body idToken _ =>
    refine grantsKept_of_subset fun grant hmem => ?_
    rcases (accept_cases w.sharing r.principal r.nowMs body idToken).2 with
      ⟨_, _, _, _, _, _, _, hrows⟩ | hsame
    · exact (hrows grant).mpr (.inl hmem)
    · rwa [ShareWorld.answered, hsame]
  next hcall =>
    exact grantsKept_endGrant fun _ hid hten huser => ⟨hten, .inl ⟨hid ▸ hcall, huser.symm⟩⟩
  next hcall =>
    exact grantsKept_endGrant fun _ hid hten huser => ⟨hten, .inr ⟨hid ▸ hcall, huser.symm⟩⟩
  next => exact grantsKept_of_subset fun _ => id

/-- **Ended by a party, once.** In every run no grant is lost or rewritten, only its owner or its
grantee can end it, and an ended grant stays as it is. -/
theorem grants_kept (server : ShareServer β) (w : ShareWorld β) (requests : List ShareRequest) :
    GrantsKept w.sharing requests (run server.serve w requests).sharing := by
  induction requests generalizing w with
  | nil => exact grantsKept_of_subset fun _ => id
  | cons r requests ih =>
    intro grant hmem
    obtain ⟨row, hrow, hsame, hstep⟩ := grantsKept_serve server w r grant hmem
    obtain ⟨last, hlast, hlastSame, hrun⟩ := ih (server.serve w r) row hrow
    refine ⟨last, hlast, hlastSame.trans hsame, ?_⟩
    rcases hstep with rfl | ⟨hactive, _, hr, hends⟩
    · rcases hrun with rfl | ⟨hactive, r', hr', hends⟩
      · exact .inl rfl
      · exact .inr ⟨hactive, r', mem_cons_of_mem r hr', hends⟩
    · obtain rfl := mem_singleton.mp hr
      exact .inr ⟨hactive, _, mem_cons_self, hends⟩

/-! ## Sharing a note -/

def noteServer : ShareServer PackedRecord where
  store := noteStore

/-- `ada` writes a note they own, `inviter` invites to it, and `grace` accepts. -/
def shareNote (inviter : String) : List ShareRequest :=
  [⟨member "ada", 1700000000000, .upsert "_default" "Note" "note-1"
      (.map [(.string "ownerUserId", .string "ada")]) none⟩,
    ⟨member inviter, 1700000000001, .invite (.map [(.string "recordType", .string "Note"),
      (.string "recordId", .string "note-1"), (.string "permission", .string "read")]) "i" "token"⟩,
    ⟨member "grace", 1700000000002, .accept (.map [(.string "token", .string "token")]) "g"⟩]

def adasNote : Value :=
  .map [(.string "id", .string "note-1"), (.string "ownerUserId", .string "ada")]

lemma foreignRead_shareNote {inviter : String}
    (hread : noteServer.store.read (run noteServer.serve .empty (shareNote inviter)).objects "acme"
      "Note" "note-1" "_default" = .ok (some adasNote))
    (hvis : subscriberCanReadObject (run noteServer.serve .empty (shareNote inviter)).sharing
      .ownerScoped (some "ownerUserId") (member "grace") "Note" adasNote true none) :
    ForeignRead noteServer (run noteServer.serve .empty (shareNote inviter)) (member "grace")
      "_default" "Note" "note-1" "ada" where
  notAdmin := by decide
  ownerSet := by decide
  ownerOther := by decide
  visible := ⟨"ownerUserId", adasNote, true, by decide, hread, by decide, hvis⟩

/-- `grace` reads the note `ada` shared, and the theorem finds the invitation. -/
theorem foreign_read_was_shared_by_owner :
    ∃ grant inviter,
      ActiveGrant (run noteServer.serve .empty (shareNote "ada")).sharing (member "grace") "Note"
          "note-1" grant ∧
        GrantedBy (run noteServer.serve .empty (shareNote "ada")).log grant inviter ∧
        inviter.userId ≠ (member "grace").userId ∧ inviter.tenantId = (member "grace").tenantId :=
  foreign_read_was_shared noteServer (shareNote "ada") (member "grace") "_default" "Note" "note-1"
    "ada" (foreignRead_shareNote (by decide +kernel) (by decide +kernel))

/-- `mallory`, who has nothing to do with `ada`'s note, invites `grace` to it; `grace` reads it,
and `ada` never issued an invitation. -/
theorem shared_by_a_stranger :
    ForeignRead noteServer (run noteServer.serve .empty (shareNote "mallory")) (member "grace")
        "_default" "Note" "note-1" "ada" ∧
      ¬ ∃ grant inviter,
        ActiveGrant (run noteServer.serve .empty (shareNote "mallory")).sharing (member "grace")
            "Note" "note-1" grant ∧
          GrantedBy (run noteServer.serve .empty (shareNote "mallory")).log grant inviter ∧
          inviter.userId = "ada" := by
  refine ⟨foreignRead_shareNote (by decide +kernel) (by decide +kernel), ?_⟩
  rintro ⟨grant, inviter, _, ⟨invitation, _, _, _, hinvited, _⟩, hada⟩
  have hnone : ∀ entry ∈ (run noteServer.serve .empty (shareNote "mallory")).log,
      entry.1.userId ≠ "ada" := by decide +kernel
  exact hnone _ hinvited hada

end Frick.Properties
