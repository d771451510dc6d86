/-
  AdmissionControl.Proofs.Cluster.Classification

  Clusters whose version management can be classified.

  Two readers look at the annotation on version management.  The rule checks it when a cluster is
  written, and the classifier reads it later, from the cluster as it was stored.  Where the global
  setting is "true", the classifier succeeds on exactly the supported values
  (`classified_of_annotation`), and these are the values that the rule lets through on a managed
  driver, as far as the annotation was set or changed by the request
  (`not_denied_managedVersion_iff`).  So a cluster that the rule admits can be classified, and one
  that cannot be was denied (`admitted_version_classified`).  An old value that an update leaves as
  it is was not looked at again, and may be any text.
-/

import AdmissionControl.Proofs.Cluster.Obligations

namespace AdmissionControl

namespace ClusterRules

variable {answers : Answers} {setting : Setting} {operation : Operation}
  {before : Option Cluster} {new : Cluster} {value : Text}

/-! ## The classifier -/

/-- What a value of the annotation is classified as while the global setting is "true". -/
inductive Classified (value : Text) : Except Failure Bool → Prop where
  | on : value = "true" ∨ value = "system-default" → Classified value (.ok true)
  | off : value = "false" → Classified value (.ok false)
  | unknown : ¬ Supported value → Classified value
      (.error (.versionManagement
        (.unknownValue versionManagement value versionManagementValues)))

/-- The classifier goes through the supported values one by one, and asks for the setting behind the
last of them. -/
theorem classified_of_annotation
    (hsetting : answers (.setting versionManagementSetting) = .ok (some setting))
    (hchecked : setting.value = "true")
    (hvalue : new.annotationValue? versionManagement = some value) :
    Classified value ((versionManagementEnabled (some new)).result answers) := by
  simp only [versionManagementEnabled, hvalue, beq_iff_eq]
  -- The cases are the words that the classifier knows; behind the last one stands the setting.
  split
  · next htrue => exact .on (.inl htrue)
  · next htrue =>
    split
    · next hfalse => exact .off hfalse
    · next hfalse =>
      split
      · next hdefault =>
        have hresult : ((Consultation.setting versionManagementSetting >>= fun setting =>
            pure (setting.value == "true")).result answers) = .ok true := by
          simp [Consultation.setting, hsetting, hchecked]
        rw [hresult]
        exact .on (.inr hdefault)
      · next hdefault =>
        exact .unknown fun hsupported => hsupported.elim htrue fun h => h.elim hfalse hdefault

/-- A supported value is classified by what it says. -/
theorem Classified.of_supported {result : Except Failure Bool} (h : Classified value result)
    (hsupported : Supported value) :
    ((value = "true" ∨ value = "system-default") ∧ result = .ok true) ∨
      (value = "false" ∧ result = .ok false) := by
  cases h with
  | on hvalue => exact .inl ⟨hvalue, rfl⟩
  | off hvalue => exact .inr ⟨hvalue, rfl⟩
  | unknown hunsupported => exact absurd hsupported hunsupported

/-- A value on which the classifier fails is not supported. -/
theorem Classified.not_supported {failure : Failure} (h : Classified value (.error failure)) :
    ¬ Supported value := by
  cases h with
  | unknown hunsupported => exact hunsupported

/-! ## The rule -/

/-- Where the checks are on and the driver is a managed one, the rule says what is said about a
managed version. -/
theorem result_versionManagementRule_of_managed
    (hsetting : answers (.setting versionManagementSetting) = .ok (some setting))
    (hchecked : setting.value = "true") (user : UserInfo) (hwrites : Writes operation before)
    (hmanaged : Managed (effectiveDriver before new)) :
    (versionManagementRule ⟨operation, before, some new, user⟩).result answers =
      .ok (managedVersion operation (effectiveDriver before new)
        (before.bind (·.annotationValue? versionManagement))
        (new.annotationValue? versionManagement)) := by
  have hresult : versionManagementChecked.result answers = .ok true := by
    simp [versionManagementChecked, hsetting, hchecked]
  simp only [versionManagementRule, hwrites.not_skipped, Bool.false_eq_true, if_false,
    Consultation.result_bind, hresult, Except.ok_bind, Bool.not_true, RuleContext.requireNew,
    pure_bind, if_pos ((managedDrivers_contains _).mpr hmanaged), Consultation.result_pure]

/-- The request sets the annotation or changes it: there is no cluster before, or the one before has
another value or none. -/
def FreshVersion (before : Option Cluster) (new : Cluster) : Prop :=
  ∀ old, before = some old →
    new.annotationValue? versionManagement ≠ old.annotationValue? versionManagement

/-- A new value of the annotation is let through exactly when it is supported. -/
theorem not_denied_managedVersion_iff (driver : Text) (hwrites : Writes operation before)
    (hfresh : FreshVersion before new)
    (hvalue : new.annotationValue? versionManagement = some value) :
    (managedVersion operation driver (before.bind (·.annotationValue? versionManagement))
      (new.annotationValue? versionManagement)).denied = false ↔ Supported value := by
  cases hwrites with
  | create =>
    refine (enforces_managedVersion_create _ _ _).not_denied_iff.trans ?_
    simp [hvalue]
  | update old =>
    -- The value is not the old one, so it was kept only if it is supported.
    have hchanged : old.annotationValue? versionManagement ≠ some value :=
      fun hold => hfresh old rfl (hvalue.trans hold.symm)
    refine (enforces_managedVersion_update _).not_denied_iff.trans ?_
    simp [VersionKept, hvalue, hchanged]

/-! ## The two together -/

/-- While the global setting is "true", the rule on version management has a result for every
request that writes a cluster of a managed driver and sets the annotation or changes it.  If this is
no denial and the annotation is there, the classifier succeeds on the new cluster, whenever it is
asked: with true for the values "true" and "system-default", and with false for "false".  If the
classifier fails on the annotation, the request is denied.  A creation that is not denied has the
annotation. -/
theorem admitted_version_classified (handler : Handler σ) (state later : σ)
    (hgives : handler.Gives answers)
    (hsetting : answers (.setting versionManagementSetting) = .ok (some setting))
    (hchecked : setting.value = "true") (user : UserInfo) (new : Cluster)
    (hwrites : Writes operation before) (hfresh : FreshVersion before new)
    (hmanaged : Managed (effectiveDriver before new)) :
    let classified := ((versionManagementEnabled (some new)).run handler later).result
    ∃ said, ((versionManagementRule ⟨operation, before, some new, user⟩).run handler state).result =
        .ok said ∧
      (∀ value, new.annotationValue? versionManagement = some value →
        (said.denied = false →
          ((value = "true" ∨ value = "system-default") ∧ classified = .ok true) ∨
          (value = "false" ∧ classified = .ok false)) ∧
        ((∃ failure, classified = .error failure) → said.denied = true)) ∧
      (operation = .create → said.denied = false →
        new.annotationValue? versionManagement ≠ none) := by
  intro classified
  have hclassified : classified = (versionManagementEnabled (some new)).result answers :=
    Consultation.result_run hgives _ later
  refine ⟨_, (Consultation.result_run hgives _ state).trans
    (result_versionManagementRule_of_managed hsetting hchecked user hwrites hmanaged), ?_, ?_⟩
  · intro value hvalue
    -- The rule looks at the value, and the classifier at the same one.
    have hpasses := not_denied_managedVersion_iff (effectiveDriver before new) hwrites hfresh hvalue
    have hreads := classified_of_annotation hsetting hchecked hvalue
    rw [← hclassified] at hreads
    refine ⟨fun hadmitted => hreads.of_supported (hpasses.mp hadmitted), ?_⟩
    rintro ⟨failure, hfailure⟩
    rw [hfailure] at hreads
    rw [← Bool.not_eq_false]
    exact fun hadmitted => hreads.not_supported (hpasses.mp hadmitted)
  · -- A creation without the annotation is denied.
    rintro rfl hadmitted
    obtain ⟨value, hvalue, -⟩ := (enforces_managedVersion_create _ _ _).not_denied_iff.mp hadmitted
    simp [hvalue]

/-- A cluster whose version the platform does not manage although its driver is a managed one. -/
def releasedCluster : Cluster where
  metadata := { annotations := [(versionManagement, "false")] }
  status := { driver := "k3s" }

/-- The same cluster written without its driver, now deferring to the global setting. -/
def deferringCluster : Cluster where
  metadata := { annotations := [(versionManagement, "system-default")] }

theorem deferring_update_classified :
    guardedDirectory.answers (.setting versionManagementSetting) =
      .ok (some ⟨versionManagementSetting, "true"⟩) ∧
    Managed (effectiveDriver (some releasedCluster) deferringCluster) ∧
    FreshVersion (some releasedCluster) deferringCluster ∧
    ((versionManagementRule ⟨.update, some releasedCluster, some deferringCluster, {}⟩).run
      guardedDirectory.handler []).result = .ok .allow ∧
    ((versionManagementEnabled (some deferringCluster)).run guardedDirectory.handler []).result =
      .ok true := by
  have hsetting : guardedDirectory.answers (.setting versionManagementSetting) =
      .ok (some ⟨versionManagementSetting, "true"⟩) := rfl
  have hmanaged : Managed (effectiveDriver (some releasedCluster) deferringCluster) := .inr rfl
  have hfresh : FreshVersion (some releasedCluster) deferringCluster := by
    rintro old ⟨⟩
    decide
  have hallowed : ((versionManagementRule
      ⟨.update, some releasedCluster, some deferringCluster, {}⟩).run guardedDirectory.handler
        []).result = .ok .allow := by
    rw [Consultation.result_run guardedDirectory.handler_gives,
      result_versionManagementRule_of_managed hsetting rfl {} (.update releasedCluster) hmanaged]
    exact congrArg Except.ok (by decide +kernel)
  -- The update says "system-default", so its two readings are settled by the setting.
  obtain ⟨said, hsaid, hvalues, -⟩ := admitted_version_classified guardedDirectory.handler [] []
    guardedDirectory.handler_gives hsetting rfl {} deferringCluster (.update releasedCluster)
    hfresh hmanaged
  obtain rfl : RuleResult.allow = said := Except.ok.inj (hallowed.symm.trans hsaid)
  refine ⟨hsetting, hmanaged, hfresh, hallowed, ?_⟩
  rcases (hvalues "system-default" rfl).1 rfl with ⟨-, hon⟩ | ⟨hvalue, -⟩
  · exact hon
  · exact absurd hvalue (by decide)

end ClusterRules

end AdmissionControl
