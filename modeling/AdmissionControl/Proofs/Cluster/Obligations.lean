/-
  AdmissionControl.Proofs.Cluster.Obligations

  The reference specification of cluster admission.

  `obligations` lists what a request has to meet: a creation by what the new cluster says, an
  update by how the new cluster differs from the old one, and a deletion nothing at all.  Each rule
  that applies to an operation enforces one condition of the list (`enforces_*`), and the others
  pass.  So the decision on a request allows exactly when it meets its obligations
  (`cluster_decision_meets_obligations`).

  The neighbouring annotations are read in three ways.  `Cluster.written` reads an absent
  annotation as empty; comparing `annotationValue?` tells the two apart; and a condition under
  `annotationValue? key = some value` says nothing of an absent one.
-/

import AdmissionControl.Proofs.Evaluation
import Mathlib.Data.List.Basic

namespace AdmissionControl

/-! ## Written annotations -/

namespace Cluster

/-- The text of an annotation, empty where there is none. -/
def written (cluster : Cluster) (key : Text) : Text :=
  (cluster.annotationValue? key).getD ""

variable {cluster : Cluster} {key value : Text}

theorem getD_annotationValue? : (cluster.annotationValue? key).getD "" = cluster.written key := by
  rw [written]

theorem written_of_annotationValue? (h : cluster.annotationValue? key = some value) :
    cluster.written key = value := by
  rw [written, h, Option.getD_some]

/-- A text that is not empty is the value of an annotation. -/
theorem annotationValue?_of_written (h : cluster.written key = value) (hvalue : value ≠ "") :
    cluster.annotationValue? key = some value := by
  rw [written] at h
  cases hfound : cluster.annotationValue? key with
  | none =>
    rw [hfound, Option.getD_none] at h
    exact absurd h.symm hvalue
  | some found =>
    rw [hfound, Option.getD_some] at h
    rw [h]

end Cluster

namespace ClusterRules

/-! ## Conditions -/

/-- A cluster names an existing user as its creator, and no principal but one of that user's; or
it names neither. -/
def CreatorKnown (user? : Text → Option User) (cluster : Cluster) : Prop :=
  (cluster.written creatorId = "" ∧ cluster.written creatorPrincipalName = "") ∨
    (cluster.written creatorId ≠ "" ∧ ∃ user, user? (cluster.written creatorId) = some user ∧
      (cluster.written creatorPrincipalName = "" ∨
        cluster.written creatorPrincipalName ∈ user.principalIds))

/-- A cluster carries the annotation about its creator although this one is not to become owner. -/
def OwnerlessCreator (cluster : Cluster) : Prop :=
  cluster.annotationValue? noCreatorRbac = some "true" ∧ cluster.annotationValue? creatorId ≠ none

/-- An annotation of the new cluster has the value it had. -/
def Kept (old new : Cluster) (key : Text) : Prop :=
  ∀ value, new.annotationValue? key = some value → old.annotationValue? key = some value

/-- The checks on version management are turned on. -/
def VersionChecked (setting? : Text → Option Setting) : Prop :=
  ∃ setting, setting? versionManagementSetting = some setting ∧ setting.value = "true"

/-- A driver whose version is managed. -/
def Managed (driver : Text) : Prop := driver = "rke2" ∨ driver = "k3s"

/-- A value that the annotation on version management may have. -/
def Supported (value : Text) : Prop := value = "true" ∨ value = "false" ∨ value = "system-default"

/-- The annotation on version management was not removed, and has its old value or a supported
one. -/
def VersionKept (old new : Cluster) : Prop :=
  match new.annotationValue? versionManagement with
  | none => old.annotationValue? versionManagement = none
  | some value => old.annotationValue? versionManagement = some value ∨ Supported value

variable {old new : Cluster} {key : Text}

theorem Kept.eq_none_or_eq (h : Kept old new key) :
    new.annotationValue? key = none ∨ new.annotationValue? key = old.annotationValue? key := by
  cases hvalue : new.annotationValue? key with
  | none => exact .inl rfl
  | some value => exact .inr (h value hvalue).symm

/-- What was absent stays absent. -/
theorem Kept.eq_none (h : Kept old new key) (hold : old.annotationValue? key = none) :
    new.annotationValue? key = none := by
  cases hvalue : new.annotationValue? key with
  | none => rfl
  | some value =>
    have hpresent := h value hvalue
    rw [hold] at hpresent
    cases hpresent

/-! ## Obligations -/

/-- The access that a user needs to add clusters to a fleet workspace. -/
def entryCheck (user : UserInfo) (workspace : Text) : AccessCheck where
  subject := user
  verb := "fleetaddcluster"
  resource := {
    group := "management.cattle.io", version := "v3", resource := "fleetworkspaces",
    name := workspace }

variable (collaborators : Collaborators) (user : UserInfo)

/-- The user may add clusters to the workspace. -/
def MayEnter (workspace : Text) : Prop :=
  collaborators.granted (entryCheck user workspace) = true

/-- What a new cluster has to meet. -/
def createObligations (new : Cluster) : List Obligation := [
  ⟨.forbidden, new.workspace = "" ∨ MayEnter collaborators user new.workspace⟩,
  ⟨.badRequest, CreatorKnown collaborators.user? new⟩,
  ⟨.badRequest, ¬ OwnerlessCreator new⟩,
  ⟨.badRequest, VersionChecked collaborators.setting? → Managed new.driver →
    ∃ value, new.annotationValue? versionManagement = some value ∧ Supported value⟩]

/-- What an update of a cluster has to meet. -/
def updateObligations (old new : Cluster) : List Obligation := [
  ⟨.invalid, ¬ (old.workspace ≠ "" ∧ new.workspace = "")⟩,
  ⟨.forbidden, new.workspace = "" ∨ old.workspace = new.workspace ∨
    MayEnter collaborators user new.workspace⟩,
  ⟨.badRequest, Kept old new creatorId ∧ Kept old new creatorPrincipalName⟩,
  ⟨.badRequest, new.written noCreatorRbac = old.written noCreatorRbac⟩,
  ⟨.badRequest, VersionChecked collaborators.setting? →
    Managed (if new.driver = "" then old.driver else new.driver) → VersionKept old new⟩]

/-- What a request has to meet, by the clusters before and after it; a deletion nothing. -/
def obligations : Option Cluster → Option Cluster → List Obligation
  | none, some new => createObligations collaborators user new
  | some old, some new => updateObligations collaborators user old new
  | _, none => []

/-! ## What the rules enforce -/

variable {answers : Answers} {user : UserInfo} {operation : Operation}
  {before : Option Cluster}

theorem enforces_fleetWorkspaceUnset :
    Enforces ((fleetWorkspaceUnset ⟨.update, some old, some new, user⟩).result answers)
      ⟨.invalid, ¬ (old.workspace ≠ "" ∧ new.workspace = "")⟩ := by
  simp only [fleetWorkspaceUnset, RuleContext.requireOld, RuleContext.requireNew, pure_bind,
    ne_eq, not_true_eq_false, if_false, beq_iff_eq]
  split
  · next hold => exact .allow fun h => h.1 hold
  · next hold =>
    split
    · next hnew => exact .allow fun h => hnew h.2
    · next hnew => exact .deny fun h => h ⟨hold, not_not.mp hnew⟩

theorem fleetWorkspacePermission_of_stay (hwrites : Writes operation before)
    (hstay : new.workspace = "" ∨ before.map Cluster.workspace = some new.workspace) :
    fleetWorkspacePermission ⟨operation, before, some new, user⟩ = pure .allow := by
  simp only [fleetWorkspacePermission, RuleContext.requireNew, pure_bind, hwrites.not_skipped,
    beq_iff_eq, Bool.false_eq_true, if_false]
  rcases hstay with hempty | hsame
  · rw [if_pos hempty]
  · rw [if_pos hsame, ite_self]

/-- Where the workspace is a new one, the rule on permission asks the authorizer and goes by its
verdict. -/
theorem fleetWorkspacePermission_of_move (user : UserInfo) (hwrites : Writes operation before)
    (hmove : ¬ (new.workspace = "" ∨ before.map Cluster.workspace = some new.workspace)) :
    ∃ message, fleetWorkspacePermission ⟨operation, before, some new, user⟩ =
      Consultation.granted (entryCheck user new.workspace) >>= fun granted =>
        if granted then pure .allow else pure (.deny .forbidden message) := by
  rw [not_or] at hmove
  simp only [fleetWorkspacePermission, RuleContext.requireNew, pure_bind, hwrites.not_skipped,
    beq_iff_eq, Bool.false_eq_true, if_false, if_neg hmove.1, if_neg hmove.2]
  exact ⟨_, rfl⟩

theorem enforces_fleetWorkspacePermission (hwrites : Writes operation before) {granted : Bool}
    (hgranted : answers (.access (entryCheck user new.workspace)) = .ok granted) :
    Enforces ((fleetWorkspacePermission ⟨operation, before, some new, user⟩).result answers)
      ⟨.forbidden, new.workspace = "" ∨ before.map Cluster.workspace = some new.workspace ∨
        granted = true⟩ := by
  -- The first two conditions are those under which nothing is asked.
  rw [← or_assoc]
  by_cases hstay : new.workspace = "" ∨ before.map Cluster.workspace = some new.workspace
  · rw [fleetWorkspacePermission_of_stay hwrites hstay]
    exact .allow (.inl hstay)
  · obtain ⟨message, hrule⟩ := fleetWorkspacePermission_of_move user hwrites hstay
    rw [hrule, Consultation.result_bind, Consultation.result_granted, hgranted, Except.ok_bind]
    cases granted with
    | true => exact .allow (.inr rfl)
    | false => exact .deny fun h => h.elim hstay Bool.false_ne_true

theorem annotationKept_iff (key : Text) : annotationKept old new key = true ↔ Kept old new key := by
  unfold annotationKept Kept
  cases new.annotationValue? key <;> simp

theorem enforces_creatorAnnotationsImmutable :
    Enforces ((creatorAnnotationsImmutable ⟨.update, some old, some new, user⟩).result answers)
      ⟨.badRequest, Kept old new creatorId ∧ Kept old new creatorPrincipalName⟩ := by
  simp only [creatorAnnotationsImmutable, RuleContext.requireOld, RuleContext.requireNew,
    pure_bind, ne_eq, not_true_eq_false, if_false]
  split
  · -- The search stops at an annotation that was not kept.
    next annotation hchanged =>
    obtain ⟨hmem, hkept⟩ := And.intro (List.mem_of_find?_eq_some hchanged)
      (List.find?_some hchanged)
    rw [Bool.not_eq_true', ← Bool.not_eq_true, annotationKept_iff] at hkept
    refine .deny fun h => hkept ?_
    rcases List.mem_pair.mp hmem with rfl | rfl
    · exact h.1
    · exact h.2
  · next hkept =>
    rw [List.find?_eq_none] at hkept
    simp only [Bool.not_eq_true', Bool.not_eq_false, annotationKept_iff] at hkept
    exact .allow ⟨hkept _ (by simp), hkept _ (by simp)⟩

theorem creatorReference_of_unnamed (before : Option Cluster) (user : UserInfo)
    (hunnamed : new.written creatorId = "") :
    ∃ message, creatorReference ⟨.create, before, some new, user⟩ =
      if new.written creatorPrincipalName = "" then pure .allow
      else pure (.deny .badRequest message) := by
  simp only [creatorReference, RuleContext.requireNew, pure_bind, ne_eq, not_true_eq_false,
    if_false, beq_iff_eq, Bool.and_eq_true, decide_eq_true_eq]
  simp only [Cluster.getD_annotationValue?, hunnamed, and_true, if_true, ite_not]
  exact ⟨_, rfl⟩

/-- Where a creator is named, the rule on it asks for this user and looks the principal up among
the user's. -/
theorem creatorReference_of_named (before : Option Cluster) (user : UserInfo)
    (hnamed : new.written creatorId ≠ "") :
    ∃ missing foreign, creatorReference ⟨.create, before, some new, user⟩ =
      Consultation.user? (new.written creatorId) >>= fun
        | none => pure (.deny .badRequest missing)
        | some creator =>
          if new.written creatorPrincipalName ≠ "" ∧
              new.written creatorPrincipalName ∉ creator.principalIds then
            pure (.deny .badRequest foreign)
          else pure .allow := by
  simp only [creatorReference, RuleContext.requireNew, pure_bind, ne_eq, not_true_eq_false,
    if_false, beq_iff_eq, Bool.and_eq_true, decide_eq_true_eq, Bool.not_eq_true',
    List.contains_eq_mem, decide_eq_false_iff_not]
  simp only [Cluster.getD_annotationValue?, hnamed, and_false, if_false]
  exact ⟨_, _, rfl⟩

theorem enforces_creatorReference {user? : Text → Option User}
    (huser : answers (.user (new.written creatorId)) = .ok (user? (new.written creatorId))) :
    Enforces ((creatorReference ⟨.create, before, some new, user⟩).result answers)
      ⟨.badRequest, CreatorKnown user? new⟩ := by
  -- Without a creator nobody is looked up, and the principal must be missing too.
  by_cases hcreator : new.written creatorId = ""
  · have hknown : CreatorKnown user? new ↔ new.written creatorPrincipalName = "" := by
      simp [CreatorKnown, hcreator]
    obtain ⟨message, hrule⟩ := creatorReference_of_unnamed before user hcreator
    rw [hrule]
    split
    · next hprincipal => exact .allow (hknown.mpr hprincipal)
    · next hprincipal => exact .deny fun h => hprincipal (hknown.mp h)
  · obtain ⟨missing, foreign, hrule⟩ := creatorReference_of_named before user hcreator
    rw [hrule, Consultation.result_bind, Consultation.result_user?, huser, Except.ok_bind]
    -- Behind the lookup, a principal that is named must be one of the creator.
    cases hfound : user? (new.written creatorId) with
    | none => exact .deny (by simp [CreatorKnown, hcreator, hfound])
    | some creator =>
      have hknown : CreatorKnown user? new ↔ new.written creatorPrincipalName = "" ∨
          new.written creatorPrincipalName ∈ creator.principalIds := by
        simp [CreatorKnown, hcreator, hfound]
      show Enforces (Consultation.result answers (if _ then _ else _)) _
      split
      · next hforeign => exact .deny fun h => (hknown.mp h).elim hforeign.1 hforeign.2
      · next hheld =>
        rw [not_and_or, not_not, not_not] at hheld
        exact .allow (hknown.mpr hheld)

/-- Where the users cannot be asked, only a cluster that names no creator passes. -/
theorem creator_unnamed_of_failure {failure : Failure}
    (hfailure : answers (.user (new.written creatorId)) = .error failure)
    (hpasses : (creatorReference ⟨.create, before, some new, user⟩).Passes answers) :
    new.written creatorId = "" ∧ new.written creatorPrincipalName = "" := by
  obtain ⟨r, hr, hdenied⟩ := hpasses
  by_cases hcreator : new.written creatorId = ""
  · refine ⟨hcreator, ?_⟩
    obtain ⟨message, hrule⟩ := creatorReference_of_unnamed before user hcreator
    by_contra hprincipal
    rw [hrule, if_neg hprincipal] at hr
    cases hr
    cases hdenied
  · obtain ⟨missing, foreign, hrule⟩ := creatorReference_of_named before user hcreator
    rw [hrule, Consultation.result_bind, Consultation.result_user?, hfailure] at hr
    cases hr

theorem enforces_noCreatorRbacImmutable :
    Enforces ((noCreatorRbacImmutable ⟨.update, some old, some new, user⟩).result answers)
      ⟨.badRequest, new.written noCreatorRbac = old.written noCreatorRbac⟩ := by
  simp only [noCreatorRbacImmutable, RuleContext.requireOld, RuleContext.requireNew, pure_bind,
    ne_eq, not_true_eq_false, if_false, Cluster.getD_annotationValue?, beq_iff_eq]
  split
  · next hsame => exact .allow hsame.symm
  · next hdiffer => exact .deny fun h => hdiffer h.symm

theorem enforces_noCreatorRbacWithCreator :
    Enforces ((noCreatorRbacWithCreator ⟨.create, before, some new, user⟩).result answers)
      ⟨.badRequest, ¬ OwnerlessCreator new⟩ := by
  simp only [noCreatorRbacWithCreator, RuleContext.requireNew, pure_bind, ne_eq,
    not_true_eq_false, if_false, beq_iff_eq, Bool.and_eq_true, Option.isSome_iff_ne_none]
  split
  · next hownerless => exact .deny fun h => h hownerless
  · next hownerless => exact .allow hownerless

/-! ## Version management -/

theorem managedDrivers_contains (driver : Text) :
    managedDrivers.contains driver = true ↔ Managed driver := by
  simp [managedDrivers, Managed]

theorem versionManagementValues_contains (value : Text) :
    versionManagementValues.contains value = true ↔ Supported value := by
  simp [versionManagementValues, Supported]

theorem result_versionManagementChecked {setting? : Text → Option Setting}
    (hsetting : answers (.setting versionManagementSetting) =
      .ok (setting? versionManagementSetting)) :
    ∃ checked, versionManagementChecked.result answers = .ok checked ∧
      (checked = true ↔ VersionChecked setting?) := by
  simp only [versionManagementChecked, Consultation.result_bind, Consultation.result_setting?,
    hsetting, Except.ok_bind]
  cases hfound : setting? versionManagementSetting with
  | none => exact ⟨false, rfl, by simp [VersionChecked, hfound]⟩
  | some setting => exact ⟨setting.value == "true", rfl, by simp [VersionChecked, hfound]⟩

/-- Where the version is not managed, the annotation is warned about at most. -/
theorem enforces_unmanagedVersion {P : Prop} (driver : Text) (value : Option Text) (h : P) :
    Enforces (.ok (unmanagedVersion driver value)) ⟨.badRequest, P⟩ := by
  cases value with
  | none => exact .allow h
  | some value =>
    rw [unmanagedVersion]
    split
    · exact .warn h
    · exact .warn h

theorem enforces_managedVersion_create (driver : Text) (old value : Option Text) :
    Enforces (.ok (managedVersion .create driver old value))
      ⟨.badRequest, ∃ written, value = some written ∧ Supported written⟩ := by
  cases value with
  | none => exact .deny (by simp)
  | some value =>
    simp only [managedVersion, reduceCtorEq, decide_false, Bool.false_and, Bool.false_eq_true,
      if_false]
    split
    · next hsupported =>
      exact .allow ⟨value, rfl, (versionManagementValues_contains value).mp hsupported⟩
    · next hunsupported =>
      rw [versionManagementValues_contains] at hunsupported
      exact .deny (by simpa using hunsupported)

theorem enforces_managedVersion_update (driver : Text) :
    Enforces (.ok (managedVersion .update driver (old.annotationValue? versionManagement)
      (new.annotationValue? versionManagement))) ⟨.badRequest, VersionKept old new⟩ := by
  unfold VersionKept
  -- No value may be taken away, and one that was changed must be supported.
  cases hvalue : new.annotationValue? versionManagement with
  | none =>
    cases hold : old.annotationValue? versionManagement with
    | none => exact .allow rfl
    | some value => exact .deny (by simp)
  | some value =>
    simp only [managedVersion, decide_true, Bool.true_and, beq_iff_eq]
    split
    · next hsame => exact .allow (.inl hsame)
    · next hdiffer =>
      split
      · next hsupported =>
        exact .allow (.inr ((versionManagementValues_contains value).mp hsupported))
      · next hunsupported =>
        rw [versionManagementValues_contains] at hunsupported
        exact .deny fun h => h.elim hdiffer hunsupported

/-- The rule on version management asks for what a managed version asks for, where the checks are
on and the driver is a managed one. -/
theorem enforces_versionManagementRule {setting? : Text → Option Setting} {P : Prop}
    (hwrites : Writes operation before)
    (hsetting : answers (.setting versionManagementSetting) =
      .ok (setting? versionManagementSetting))
    (hmanaged : Enforces (.ok (managedVersion operation (effectiveDriver before new)
      (before.bind (·.annotationValue? versionManagement))
      (new.annotationValue? versionManagement))) ⟨.badRequest, P⟩) :
    Enforces ((versionManagementRule ⟨operation, before, some new, user⟩).result answers)
      ⟨.badRequest, VersionChecked setting? → Managed (effectiveDriver before new) → P⟩ := by
  obtain ⟨checked, hresult, hchecked⟩ := result_versionManagementChecked hsetting
  simp only [versionManagementRule, hwrites.not_skipped, Bool.false_eq_true, if_false,
    Consultation.result_bind, hresult, Except.ok_bind, RuleContext.requireNew, pure_bind]
  cases checked with
  | false =>
    -- Without the checks, nothing is asked of the annotation.
    exact .allow fun h => by cases hchecked.mpr h
  | true =>
    by_cases hdriver : Managed (effectiveDriver before new)
    · simp only [Bool.not_true, Bool.false_eq_true, if_false,
        if_pos ((managedDrivers_contains _).mpr hdriver), hchecked.mp rfl, hdriver, forall_const]
      exact hmanaged
    · simp only [Bool.not_true, Bool.false_eq_true, if_false,
        if_neg (fun h => hdriver ((managedDrivers_contains _).mp h))]
      exact enforces_unmanagedVersion _ _ fun _ h => absurd h hdriver

/-! ## The decision -/

variable (collaborators : Collaborators)

theorem effectiveDriver_none (new : Cluster) : effectiveDriver none new = new.driver := by
  by_cases h : new.driver = ""
  · simp [effectiveDriver, h]
  · simp [effectiveDriver, h]

theorem effectiveDriver_some (old new : Cluster) :
    effectiveDriver (some old) new = if new.driver = "" then old.driver else new.driver := by
  simp [effectiveDriver]

/-- The rules that apply to a creation enforce its obligations. -/
theorem enforcesAll_create (new : Cluster) :
    EnforcesAll (ruleResults collaborators.answers ⟨.create, none, some new, user⟩ all)
      (createObligations collaborators user new) := by
  refine .skip (.cons ?_ (.skip (.cons ?_ (.skip (.cons ?_ (.cons ?_ .nil))))))
  · have hpermission : Enforces ((fleetWorkspacePermission ⟨.create, none, some new, user⟩).result
      collaborators.answers) _ := enforces_fleetWorkspacePermission .create rfl
    simpa [MayEnter] using hpermission
  · exact enforces_creatorReference rfl
  · exact enforces_noCreatorRbacWithCreator
  · rw [← effectiveDriver_none new]
    exact enforces_versionManagementRule .create rfl (enforces_managedVersion_create _ _ _)

/-- The rules that apply to an update enforce its obligations. -/
theorem enforcesAll_update (old new : Cluster) :
    EnforcesAll (ruleResults collaborators.answers ⟨.update, some old, some new, user⟩ all)
      (updateObligations collaborators user old new) := by
  refine .cons enforces_fleetWorkspaceUnset (.cons ?_ (.cons enforces_creatorAnnotationsImmutable
    (.skip (.cons enforces_noCreatorRbacImmutable (.skip (.cons ?_ .nil))))))
  · have hpermission : Enforces ((fleetWorkspacePermission ⟨.update, some old, some new,
      user⟩).result collaborators.answers) _ := enforces_fleetWorkspacePermission (.update old) rfl
    simpa [MayEnter] using hpermission
  · rw [← effectiveDriver_some old new]
    exact enforces_versionManagementRule (.update old) rfl (enforces_managedVersion_update _)

/-- No rule applies to a deletion. -/
theorem enforcesAll_delete (old : Cluster) :
    EnforcesAll (ruleResults collaborators.answers ⟨.delete, some old, none, user⟩ all) [] :=
  .skip (.skip (.skip (.skip (.skip (.skip (.skip .nil))))))

/-- The decision on a cluster's request allows it exactly when it meets its obligations, and else
denies it for the reason of the first that it does not meet. -/
theorem cluster_decision_meets_obligations (handler : Handler σ) (state : σ)
    (hgives : handler.Gives collaborators.answers) (request : AdmissionRequest)
    (old new : Option Cluster) (hcarried : Carried "Cluster" Cluster.decode request old new) :
    ∃ decision, ((decideRequest .cluster request).run handler state).result = .ok decision ∧
      (decision.allowed = true ↔ ∀ obligation ∈
        obligations collaborators request.userInfo old new, obligation.holds) ∧
      (decision.allowed = false →
        FirstUnmet (obligations collaborators request.userInfo old new) decision.reason) := by
  -- Each rule enforces its obligation, in the order in which they are listed.
  have henforces : EnforcesAll
      (ruleResults collaborators.answers ⟨request.operation, old, new, request.userInfo⟩ all)
      (obligations collaborators request.userInfo old new) := by
    cases hcarried with
    | create hop _ => rw [hop]; exact enforcesAll_create _ _
    | update hop _ _ => rw [hop]; exact enforcesAll_update _ _ _
    | delete hop _ => rw [hop]; exact enforcesAll_delete _ _
  rw [Consultation.result_run hgives]
  have hdecided : (decideRequest .cluster request).result collaborators.answers = _ :=
    result_decideBy collaborators.answers all hcarried
  rw [hdecided]
  exact settle_of_enforcesAll henforces []

/-- A directory in which one user may add clusters to one workspace, and in which the checks on
version management are on. -/
def guardedDirectory : Directory where
  users := [("u-alice", ⟨"u-alice", ["local://u-alice"]⟩)]
  settings := [(versionManagementSetting, ⟨versionManagementSetting, "true"⟩)]
  policy := some (Directory.grantsPolicy [("alice", addClusterVerb, "fleet-default")])

/-- A managed cluster in that workspace, created by that user. -/
def importedCluster : Cluster where
  metadata := { annotations := [
    (creatorId, "u-alice"), (creatorPrincipalName, "local://u-alice"),
    (versionManagement, "system-default")] }
  spec := { fleetWorkspaceName := "fleet-default" }
  status := { driver := "rke2" }

/-- A request of a user to create a cluster. -/
def creationBy (username : Text) (cluster : Cluster) : AdmissionRequest where
  operation := .create
  userInfo := { username := username }
  object := some [("metadata", cluster.metadata.toJson), ("spec", cluster.spec.toJson),
    ("status", cluster.status.toJson)]

theorem imported_creation_allowed :
    guardedDirectory.handler.Gives guardedDirectory.collaborators.answers ∧
    Carried "Cluster" Cluster.decode (creationBy "alice" importedCluster) none
      (some importedCluster) ∧
    ∃ decision, ((decideRequest .cluster (creationBy "alice" importedCluster)).run
      guardedDirectory.handler []).result = .ok decision ∧ decision.allowed = true := by
  have hgives : guardedDirectory.handler.Gives guardedDirectory.collaborators.answers :=
    Directory.gives_collaborators rfl
  have hcarried : Carried "Cluster" Cluster.decode (creationBy "alice" importedCluster) none
      (some importedCluster) := .create rfl rfl
  obtain ⟨decision, hdecision, hallowed, -⟩ :=
    cluster_decision_meets_obligations guardedDirectory.collaborators guardedDirectory.handler []
      hgives (creationBy "alice" importedCluster) none (some importedCluster) hcarried
  refine ⟨hgives, hcarried, decision, hdecision, hallowed.mpr ?_⟩
  -- The obligations of a creation in turn, each met as its statement says.
  simp only [obligations, createObligations, List.forall_mem_cons]
  refine ⟨.inr ?_, .inr ⟨?_, ⟨"u-alice", ["local://u-alice"]⟩, ?_, .inr ?_⟩, ?_, ?_, by simp⟩
  · unfold MayEnter
    decide +kernel
  · decide +kernel
  · rfl
  · decide +kernel
  · rintro ⟨hrbac, -⟩
    revert hrbac
    decide +kernel
  · intro _ _
    exact ⟨"system-default", rfl, .inr (.inr rfl)⟩

end ClusterRules

end AdmissionControl
