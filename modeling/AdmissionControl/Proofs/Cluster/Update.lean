/-
  AdmissionControl.Proofs.Cluster.Update

  What an admitted update of a cluster comes to, and chains of updates.

  The rules for an update compare two clusters and ask two questions: for the setting on version
  management always, and for access to a workspace that the cluster moves into.  `Permits` says
  under which answers a user may update one cluster to another, and an attempt over a stored cluster
  is admitted exactly when its directory permits it (`admitted_update_iff`).

  For clusters with one driver the relation is transitive (`Permits.trans`): an entry into the last
  workspace of a chain was asked for at some step of it, and an annotation that may stay at each
  step goes back to the first cluster or to a value that may be set at any time.  So a chain of
  admitted updates does no more than the one update from its first cluster to its last.
-/

import AdmissionControl.Proofs.Cluster.Provenance
import AdmissionControl.Proofs.Cluster.Workspace

namespace AdmissionControl

namespace ClusterRules

variable {answers : Answers} {user : UserInfo} {old new : Cluster}

/-! ## What the rules for an update permit -/

/-- Under these answers a user may update a cluster to another one. -/
structure Permits (answers : Answers) (user : UserInfo) (old new : Cluster) : Prop where
  /-- A workspace is not unset. -/
  staysSet : ¬ (old.workspace ≠ "" ∧ new.workspace = "")
  /-- A new workspace is asked for and granted. -/
  entry : new.workspace = "" ∨ old.workspace = new.workspace ∨
    answers (.access (entryCheck user new.workspace)) = .ok true
  descends : ClusterRun.Descends old new
  /-- The setting is asked for in any case, and counts for managed drivers. -/
  version : ∃ found, answers (.setting versionManagementSetting) = .ok found ∧
    (VersionChecked (fun _ => found) → Managed (effectiveDriver (some old) new) →
      VersionKept old new)

/-- The rule on permission passes on an update that stays where it is, and on one that moves if the
authorizer answers and grants it. -/
theorem fleetWorkspacePermission_passes_iff :
    (fleetWorkspacePermission ⟨.update, some old, some new, user⟩).Passes answers ↔
      new.workspace = "" ∨ old.workspace = new.workspace ∨
        answers (.access (entryCheck user new.workspace)) = .ok true := by
  have hwrites : Writes .update (some old) := .update old
  by_cases hstay : new.workspace = "" ∨ (some old).map Cluster.workspace = some new.workspace
  · rw [fleetWorkspacePermission_of_stay hwrites hstay]
    have hmet : new.workspace = "" ∨ old.workspace = new.workspace := by
      simpa using hstay
    exact ⟨fun _ => or_assoc.mp (.inl hmet), fun _ => ⟨.allow, rfl, rfl⟩⟩
  · cases hanswer : answers (.access (entryCheck user new.workspace)) with
    | ok granted =>
      have henforces : Enforces ((fleetWorkspacePermission ⟨.update, some old, some new,
          user⟩).result answers) _ := enforces_fleetWorkspacePermission hwrites hanswer
      rw [henforces.passes_iff]
      simp
    | error failure =>
      -- A failed question ends the rule, and nothing has passed.
      obtain ⟨message, hrule⟩ := fleetWorkspacePermission_of_move user hwrites hstay
      have hfails : (fleetWorkspacePermission ⟨.update, some old, some new, user⟩).result answers =
          .error failure := by
        rw [hrule, Consultation.result_bind, Consultation.result_granted, hanswer,
          Except.error_bind]
      constructor
      · rintro ⟨r, hr, -⟩
        rw [hfails] at hr
        cases hr
      · intro h
        refine absurd ?_ hstay
        simpa using h

/-- The rule on version management passes on what is written if the setting is answered and what the
annotation must be for a managed version holds. -/
theorem versionManagementRule_passes_iff {operation : Operation} {before : Option Cluster}
    {P : Prop} (hwrites : Writes operation before)
    (hmanaged : Enforces (.ok (managedVersion operation (effectiveDriver before new)
      (before.bind (·.annotationValue? versionManagement))
      (new.annotationValue? versionManagement))) ⟨.badRequest, P⟩) :
    (versionManagementRule ⟨operation, before, some new, user⟩).Passes answers ↔
      ∃ found, answers (.setting versionManagementSetting) = .ok found ∧
        (VersionChecked (fun _ => found) → Managed (effectiveDriver before new) → P) := by
  cases hanswer : answers (.setting versionManagementSetting) with
  | ok found =>
    -- The obligation is stated over a map of settings; one that knows this answer will do.
    let setting? : Text → Option Setting := fun _ => found
    have hlookup : answers (.setting versionManagementSetting) =
        .ok (setting? versionManagementSetting) := hanswer
    have henforces : Enforces ((versionManagementRule ⟨operation, before, some new,
        user⟩).result answers) _ := enforces_versionManagementRule hwrites hlookup hmanaged
    rw [henforces.passes_iff]
    simp [setting?]
  | error failure =>
    -- Without an answer the rule fails before it looks at the cluster.
    have hfails : (versionManagementRule ⟨operation, before, some new, user⟩).result answers =
        .error failure := by
      simp only [versionManagementRule, versionManagementChecked, hwrites.not_skipped,
        Bool.false_eq_true, if_false, Consultation.result_bind, Consultation.result_setting?,
        hanswer, Except.error_bind]
    constructor
    · rintro ⟨r, hr, -⟩
      rw [hfails] at hr
      cases hr
    · rintro ⟨found, hfound, -⟩
      cases hfound

/-- The rules pass on an update exactly when the answers permit it. -/
theorem passes_update_iff :
    (∀ rule ∈ all, (rule.check ⟨.update, some old, some new, user⟩).Passes answers) ↔
      Permits answers user old new := by
  -- Two of the rules are about creations alone.
  have hreference : (creatorReference ⟨.update, some old, some new, user⟩).Passes answers :=
    ⟨.allow, rfl, rfl⟩
  have hexclusive : (noCreatorRbacWithCreator ⟨.update, some old, some new, user⟩).Passes
      answers := ⟨.allow, rfl, rfl⟩
  have hunset : Enforces ((fleetWorkspaceUnset ⟨.update, some old, some new, user⟩).result answers)
      _ := enforces_fleetWorkspaceUnset
  have hannotations : Enforces ((creatorAnnotationsImmutable ⟨.update, some old, some new,
      user⟩).result answers) _ := enforces_creatorAnnotationsImmutable
  have hrbac : Enforces ((noCreatorRbacImmutable ⟨.update, some old, some new, user⟩).result
      answers) _ := enforces_noCreatorRbacImmutable
  have hversion : (versionManagementRule ⟨.update, some old, some new, user⟩).Passes answers ↔ _ :=
    versionManagementRule_passes_iff (.update old) (enforces_managedVersion_update _)
  -- The others pass exactly if their obligations are met.
  simp only [all, List.forall_mem_cons, hunset.passes_iff, fleetWorkspacePermission_passes_iff,
    hannotations.passes_iff, hrbac.passes_iff, hversion]
  constructor
  · rintro ⟨hset, hentry, ⟨hcreator, hprincipal⟩, -, hsame, -, hversion, -⟩
    exact ⟨hset, hentry, ⟨hcreator, hprincipal, hsame⟩, hversion⟩
  · rintro ⟨hset, hentry, ⟨hcreator, hprincipal, hsame⟩, hversion⟩
    exact ⟨hset, hentry, ⟨hcreator, hprincipal⟩, hreference, hsame, hexclusive, hversion,
      fun rule hrule => absurd hrule List.not_mem_nil⟩

/-! ## Two updates in a row -/

variable {first second third : Cluster}

/-- What may stay at each of two steps goes back to the first cluster, or is a supported value. -/
theorem VersionKept.trans (h : VersionKept first second) (h' : VersionKept second third) :
    VersionKept first third := by
  unfold VersionKept at h h' ⊢
  -- The last annotation decides: taken from the one before, or supported by itself.
  cases hthird : third.annotationValue? versionManagement with
  | none =>
    rw [hthird] at h'
    simp only at h'
    rw [h'] at h
    exact h
  | some value =>
    rw [hthird] at h'
    rcases h' with hsame | hsupported
    · rw [hsame] at h
      exact h
    · exact .inr hsupported

theorem effectiveDriver_of_same (h : second.driver = first.driver) :
    effectiveDriver (some first) second = first.driver := by
  rw [effectiveDriver_some, h]
  split <;> rfl

/-- For clusters with one driver, two permitted updates in a row do no more than one. -/
theorem Permits.trans (h : Permits answers user first second)
    (h' : Permits answers user second third) (hsecond : second.driver = first.driver)
    (hthird : third.driver = first.driver) : Permits answers user first third where
  staysSet := by
    rintro ⟨hset, hunset⟩
    have hbetween : second.workspace ≠ "" := fun hempty => h.staysSet ⟨hset, hempty⟩
    exact h'.staysSet ⟨hbetween, hunset⟩
  entry := by
    -- A cluster that did not move in the second step is where the first step left it.
    rcases h'.entry with hempty | hstays | hgranted
    · exact .inl hempty
    · rw [← hstays]
      exact h.entry
    · exact .inr (.inr hgranted)
  descends := h.descends.trans h'.descends
  version := by
    obtain ⟨found, hfound, hkept⟩ := h.version
    obtain ⟨found', hfound', hkept'⟩ := h'.version
    obtain rfl : found = found' := Except.ok.inj (hfound.symm.trans hfound')
    have hdriver : third.driver = second.driver := hthird.trans hsecond.symm
    rw [effectiveDriver_of_same hsecond] at hkept
    rw [effectiveDriver_of_same hdriver, hsecond] at hkept'
    rw [effectiveDriver_of_same hthird]
    exact ⟨found, hfound, fun hchecked hmanaged =>
      (hkept hchecked hmanaged).trans (hkept' hchecked hmanaged)⟩

end ClusterRules

/-- Two directories answer alike for settings and for accesses; their users may differ. -/
structure Directory.Agrees (directory other : Directory) : Prop where
  setting : ∀ name, directory.answers (.setting name) = other.answers (.setting name)
  access : ∀ check, directory.answers (.access check) = other.answers (.access check)

theorem Directory.Agrees.refl (directory : Directory) : directory.Agrees directory :=
  ⟨fun _ => rfl, fun _ => rfl⟩

theorem Directory.agrees_users (directory : Directory) (users : Entries User) :
    ({ directory with users := users } : Directory).Agrees directory :=
  ⟨fun _ => rfl, fun _ => rfl⟩

/-- An update does not depend on the users. -/
theorem ClusterRules.Permits.of_agrees {directory other : Directory} {user : UserInfo}
    {old new : Cluster} (hagrees : directory.Agrees other)
    (h : Permits directory.answers user old new) : Permits other.answers user old new where
  staysSet := h.staysSet
  entry := by
    rw [← hagrees.access]
    exact h.entry
  descends := h.descends
  version := by
    rw [← hagrees.setting]
    exact h.version

namespace ClusterRun

open ClusterRules

/-! ## Admitted updates -/

variable {stored : Stored} {attempt direct : Attempt} {first old : Cluster}

/-- An attempt over a stored cluster is admitted exactly when it brings a cluster to which its
directory permits the update. -/
theorem admitted_update_iff (hold : Shows stored (some old)) :
    attempt.admitted stored = true ↔ ∃ new, Shows attempt.request.object (some new) ∧
      Permits attempt.directory.answers attempt.request.userInfo old new := by
  obtain ⟨object, rfl⟩ : ∃ object, stored = some object := by
    cases stored with
    | none => cases hold.unique shows_none
    | some object => exact ⟨object, rfl⟩
  constructor
  · intro hadmitted
    obtain ⟨new, hnew, -, hpasses⟩ := admitted_step hold hadmitted
    rw [store_of_admitted hadmitted] at hnew
    exact ⟨new, hnew, passes_update_iff.mp hpasses⟩
  · rintro ⟨new, hnew, hpermits⟩
    -- Both clusters are carried, so the update is decided by the rules alone.
    have hcarried : Carried "Cluster" Cluster.decode (attempt.over (some object)) (some old)
        (some new) := .update rfl hold hnew
    exact admitted_iff.mpr ((decideBy_allowed_iff attempt.directory.answers ClusterRules.all
      hasRules_over).mpr ⟨some old, some new, hcarried, passes_update_iff.mpr hpermits⟩)

/-- Each of some attempts is admitted, over what the ones before it stored. -/
def AllAdmitted : Stored → List Attempt → Prop
  | _, [] => True
  | stored, attempt :: later =>
    attempt.admitted stored = true ∧ AllAdmitted (store stored attempt) later

/-- A chain of updates by one user, permitted under the same answers, is permitted as one. -/
theorem permits_of_chain {steps : List Attempt} (hfirst : Shows stored (some first))
    (hsteps : steps ≠ []) (hadmitted : AllAdmitted stored steps)
    (hdriver : ∀ step ∈ steps, ∀ cluster, Shows step.request.object (some cluster) →
      cluster.driver = first.driver)
    (hsame : ∀ step ∈ steps, step.request.userInfo = direct.request.userInfo ∧
      step.directory.Agrees direct.directory) :
    ∃ last, Shows (run stored steps) (some last) ∧ last.driver = first.driver ∧
      Permits direct.directory.answers direct.request.userInfo first last := by
  -- Over the steps: the first one leads to a cluster from which the others go on.
  induction steps generalizing stored first with
  | nil => exact absurd rfl hsteps
  | cons step later ih =>
    obtain ⟨hstep, hlater⟩ := hadmitted
    rw [List.forall_mem_cons] at hdriver hsame
    obtain ⟨⟨huser, hagrees⟩, hsame⟩ := hsame
    obtain ⟨second, hsecond, hpermits⟩ := (admitted_update_iff hfirst).mp hstep
    have hkept : second.driver = first.driver := hdriver.1 second hsecond
    have hpermitted := hpermits.of_agrees hagrees
    rw [huser] at hpermitted
    rw [store_of_admitted hstep] at hlater
    rw [run_cons, store_of_admitted hstep]
    by_cases hlast : later = []
    · rw [hlast, run_nil]
      exact ⟨second, hsecond, hkept, hpermitted⟩
    · have hdriver' : ∀ step ∈ later, ∀ cluster, Shows step.request.object (some cluster) →
          cluster.driver = second.driver := by
        intro step hmem cluster hcluster
        rw [hkept]
        exact hdriver.2 step hmem cluster hcluster
      obtain ⟨last, hshows, hsame', hrest⟩ := ih hsecond hlast hlater hdriver' hsame
      have hend : last.driver = first.driver := hsame'.trans hkept
      exact ⟨last, hshows, hend, hpermitted.trans hrest hkept hend⟩

/-- Updates of a cluster by one user that are admitted one after the other, all with the same driver
and under the same settings and verdicts, come to one update that is admitted as well. -/
theorem direct_update_admitted_of_chain (stored : Stored) (first : Cluster)
    (steps : List Attempt) (direct : Attempt) (hfirst : Shows stored (some first))
    (hsteps : steps ≠ []) (hadmitted : AllAdmitted stored steps)
    (hdriver : ∀ step ∈ steps, ∀ cluster, Shows step.request.object (some cluster) →
      cluster.driver = first.driver)
    (hsame : ∀ step ∈ steps, step.request.userInfo = direct.request.userInfo ∧
      step.directory.Agrees direct.directory)
    (hdirect : direct.request.object = run stored steps) : direct.admitted stored = true := by
  obtain ⟨last, hlast, -, hpermits⟩ := permits_of_chain hfirst hsteps hadmitted hdriver hsame
  rw [← hdirect] at hlast
  exact (admitted_update_iff hfirst).mpr ⟨last, hlast, hpermits⟩

/-- The imported cluster enters its workspace, when the user who created it is there. -/
def moving : Attempt := ⟨creationBy "alice" importedCluster, guardedDirectory⟩

/-- It loses the principal of its creator, when there are no users any more. -/
def trimming : Attempt :=
  ⟨creationBy "alice" forgetfulCluster, { guardedDirectory with users := [] }⟩

/-- Both at once. -/
def movingTrimmed : Attempt := ⟨creationBy "alice" forgetfulCluster, guardedDirectory⟩

theorem homeless_moved_and_trimmed :
    Shows settling.request.object (some homelessCluster) ∧
    AllAdmitted settling.request.object [moving, trimming] ∧
    movingTrimmed.request.object = run settling.request.object [moving, trimming] ∧
    movingTrimmed.admitted settling.request.object = true := by
  have hmoved : moving.admitted settling.request.object = true := by decide +kernel
  have htrimmed : trimming.admitted moving.request.object = true := by decide +kernel
  have hadmitted : AllAdmitted settling.request.object [moving, trimming] := by
    refine ⟨hmoved, ?_, trivial⟩
    rw [store_of_admitted hmoved]
    exact htrimmed
  have hrun : movingTrimmed.request.object = run settling.request.object [moving, trimming] := by
    rw [run_cons, run_cons, run_nil, store_of_admitted hmoved, store_of_admitted htrimmed]
    rfl
  have hfirst : Shows settling.request.object (some homelessCluster) := rfl
  refine ⟨hfirst, hadmitted, hrun, direct_update_admitted_of_chain settling.request.object
    homelessCluster [moving, trimming] movingTrimmed hfirst (by simp) hadmitted ?_ ?_ hrun⟩
  · -- The two updates write the same driver, none.
    have hshows : Shows moving.request.object (some importedCluster) := rfl
    have hshows' : Shows trimming.request.object (some forgetfulCluster) := rfl
    simp only [List.forall_mem_cons]
    refine ⟨fun cluster hcluster => ?_, fun cluster hcluster => ?_,
      fun step hstep => absurd hstep List.not_mem_nil⟩
    · rw [← Option.some.inj (hshows.unique hcluster)]
      rfl
    · rw [← Option.some.inj (hshows'.unique hcluster)]
      rfl
  · -- They are made by one user, over directories that agree.
    have huser : ∀ cluster, (creationBy "alice" cluster).userInfo = { username := "alice" } :=
      fun _ => rfl
    simp only [List.forall_mem_cons]
    exact ⟨⟨(huser importedCluster).trans (huser forgetfulCluster).symm, .refl guardedDirectory⟩,
      ⟨rfl, guardedDirectory.agrees_users []⟩, fun step hstep => absurd hstep List.not_mem_nil⟩

end ClusterRun

end AdmissionControl
