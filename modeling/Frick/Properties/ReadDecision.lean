import Frick.Server.Objects

/-!
# How the stages of a read decision compose

`subscriber_can_read_object_with_hooks` decides whether a reader sees a row: ownership, then the
hooks, which can only say no, then the grants, which turn a no into a yes. So a further hook hides,
a further grant shows, the order of the hooks does not matter, and without hooks the decision is
that of `subscriber_can_read_object`.

A hook is a function of what it is asked: whatever else it looks at is part of the function.
-/

namespace Frick.Properties

open Protocol Store Server

lemma firstDeny_eq_allow_iff {input : PolicyInput} {hooks : List PolicyHook} :
    firstDeny .allow input hooks = .allow ↔
      ∀ hook ∈ hooks, firstDeny .allow input [hook] = .allow := by
  induction hooks with
  | nil => simp [firstDeny]
  | cons hook _ ih =>
    rw [List.forall_mem_cons, ← ih]
    rcases hverdict : hook input with _ | (_ | _) <;> simp [firstDeny, hverdict]

lemma objectReadDecision_eq_allow_iff {hooks : List PolicyHook} {mode : ObjectVisibilityMode}
    {ownerField : Option String} {p : Principal} {type : String} {object : Value}
    {writer : Option String} :
    objectReadDecision hooks mode ownerField p type object writer = .allow ↔
      objectReadDecision [] mode ownerField p type object writer = .allow ∧
        ∀ hook ∈ hooks, objectReadDecision [hook] mode ownerField p type object
          writer = .allow := by
  unfold objectReadDecision
  dsimp only
  split_ifs
  · exact firstDeny_eq_allow_iff.trans (and_iff_right rfl).symm
  · exact iff_of_false Decision.noConfusion fun h => Decision.noConfusion h.1

/-- **The read decision composes.** A row that is seen with one more hook is seen without it; a row
that is seen before a grant is created is seen after it, under a flag that has not been taken back;
the hooks may be permuted; and without hooks they are as good as not there. -/
theorem read_decision_composes (sharing : SharingTables) (mode : ObjectVisibilityMode)
    (schema : FrickSchema) (principal : Principal) (objectType : String) (object : Value)
    (writerUserId : Option String) (active : Bool) :
    let visible := fun sharing hooks active => subscriberCanReadObjectWithHooks sharing hooks mode
      (ownerFieldForType schema objectType) principal objectType object active writerUserId
    (∀ before hook after, visible sharing (before ++ hook :: after) active = true →
      visible sharing (before ++ after) active = true) ∧
    (∀ hooks grant granted created, sharing.createGrant grant = .ok (granted, created) →
      perRecordReadAuthzActive granted = true ∧
      ∀ active', (active = true → active' = true) → visible sharing hooks active = true →
        visible granted hooks active' = true) ∧
    (∀ hooks permuted, hooks.Perm permuted →
      visible sharing hooks active = visible sharing permuted active) ∧
    visible sharing [] active = subscriberCanReadObject sharing mode
      (ownerFieldForType schema objectType) principal objectType object active writerUserId := by
  intro visible
  refine ⟨?_, ?_, ?_, ?_⟩
  · intro before hook after h
    rw [subscriberCanReadObjectWithHooks_iff, objectReadDecision_eq_allow_iff] at h ⊢
    refine h.imp_left fun ⟨howner, hhooks⟩ => ⟨howner, fun other hother => hhooks other ?_⟩
    rw [List.mem_append] at hother ⊢
    exact hother.imp_right (List.mem_cons_of_mem hook)
  · intro hooks grant granted created hgrant
    obtain ⟨-, -, hrows⟩ := SharingTables.createGrant_eq_ok hgrant
    constructor
    · have hmem := (hrows grant.granted).mpr (.inr rfl)
      simp [perRecordReadAuthzActive, SharingTables.grantsEmpty, List.ne_nil_of_mem hmem]
    intro active' hactive h
    rw [subscriberCanReadObjectWithHooks_iff] at h ⊢
    refine h.imp_right fun ⟨hon, id, hid, hgranted⟩ => ⟨hactive hon, id, hid, ?_⟩
    rw [SharingTables.hasActiveGrantFor_iff] at hgranted ⊢
    obtain ⟨row, hrow, hrest⟩ := hgranted
    exact ⟨row, (hrows row).mpr (.inl hrow), hrest⟩
  · intro hooks permuted hperm
    show subscriberCanReadObjectWithHooks _ _ _ _ _ _ _ _ _ = _
    rw [Bool.eq_iff_iff, subscriberCanReadObjectWithHooks_iff, subscriberCanReadObjectWithHooks_iff,
      objectReadDecision_eq_allow_iff, @objectReadDecision_eq_allow_iff permuted]
    simp only [hperm.mem_iff]
  · show subscriberCanReadObjectWithHooks _ _ _ _ _ _ _ _ _ = _
    unfold subscriberCanReadObjectWithHooks subscriberCanReadObject
    simp only [objectReadDecision_nil]

/-- A hook that denies and one that abstains, in either order. -/
theorem hooks_in_either_order :
    let visible := fun hooks => subscriberCanReadObjectWithHooks .empty hooks .tenantWide
      (ownerFieldForType {} "Note") (member "ana") "Note" .nil false none
    visible [fun _ => some (.deny .ownerMismatch "closed"), fun _ => none] =
      visible [fun _ => none, fun _ => some (.deny .ownerMismatch "closed")] :=
  (read_decision_composes .empty .tenantWide {} (member "ana") "Note" .nil none false).2.2.1 _ _
    (List.Perm.swap _ _ [])

end Frick.Properties
