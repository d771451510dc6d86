/-
  AdmissionControl.Proofs.Cluster.VersionManagement

  How long a cluster keeps its annotation on version management.

  While the checks are on, a cluster of a managed driver is created with a supported value of the
  annotation.  An update looks at the driver of the new cluster, or else at that of the one before,
  and at nothing further back.  So an update that leaves the driver out is checked when the cluster
  had a driver, and keeps the annotation (`stated_of_permits`); over a cluster without a driver it
  counts as an update of an unmanaged one, and is free to drop the annotation.  Every run keeps the
  annotation up to such an update (`version_annotation_kept_with_driver`), and one of them is enough
  to lose it (`version_annotation_lost_without_driver`).
-/

import AdmissionControl.Proofs.Cluster.Update

namespace AdmissionControl

namespace ClusterRules

variable {answers : Answers} {user : UserInfo} {old new : Cluster}

/-- A cluster carries the annotation on version management with a supported value. -/
def VersionStated (cluster : Cluster) : Prop :=
  ∃ value, cluster.annotationValue? versionManagement = some value ∧ Supported value

/-- A driver whose version is managed, or none. -/
def ManagedOrNone (driver : Text) : Prop := Managed driver ∨ driver = ""

theorem VersionStated.of_kept (h : VersionStated old) (hkept : VersionKept old new) :
    VersionStated new := by
  obtain ⟨value, hvalue, hsupported⟩ := h
  unfold VersionKept at hkept
  cases hnew : new.annotationValue? versionManagement with
  | none =>
    -- A stated annotation is not removed.
    rw [hnew] at hkept
    simp only at hkept
    rw [hvalue] at hkept
    cases hkept
  | some written =>
    rw [hnew] at hkept
    rcases hkept with hsame | hwritten
    · rw [hvalue] at hsame
      obtain rfl : value = written := Option.some.inj hsame
      exact ⟨value, hnew, hsupported⟩
    · exact ⟨written, hnew, hwritten⟩

/-- Of two clusters of managed drivers or none, the one that has a driver makes the update count as
one of a managed cluster. -/
theorem managed_effectiveDriver (hold : ManagedOrNone old.driver) (hnew : ManagedOrNone new.driver)
    (hdriver : ¬ (old.driver = "" ∧ new.driver = "")) :
    Managed (effectiveDriver (some old) new) := by
  rw [effectiveDriver_some]
  by_cases hempty : new.driver = ""
  · have hpresent : old.driver ≠ "" := fun h => hdriver ⟨h, hempty⟩
    rw [if_pos hempty]
    exact hold.resolve_right hpresent
  · rw [if_neg hempty]
    exact hnew.resolve_right hempty

/-- Where the checks are on, a permitted update keeps the annotation unless neither cluster has a
driver. -/
theorem stated_of_permits {directory : Directory}
    (hchecked : VersionChecked directory.collaborators.setting?)
    (hpermits : Permits directory.answers user old new) (hstated : VersionStated old)
    (hold : ManagedOrNone old.driver) (hnew : ManagedOrNone new.driver)
    (hdriver : ¬ (old.driver = "" ∧ new.driver = "")) : VersionStated new := by
  obtain ⟨found, hfound, hversion⟩ := hpermits.version
  have hlookup := Directory.answers_setting_eq_ok hfound
  obtain ⟨setting, hsetting, hvalue⟩ := hchecked
  have hchecked' : VersionChecked fun _ => found :=
    ⟨setting, hlookup.symm.trans hsetting, hvalue⟩
  exact hstated.of_kept (hversion hchecked' (managed_effectiveDriver hold hnew hdriver))

end ClusterRules

namespace ClusterRun

open ClusterRules

variable {stored : Stored} {creation : Attempt} {first old : Cluster}

/-- Where the checks are on, a cluster of a managed driver is created with the annotation. -/
theorem stated_of_creation
    (hchecked : VersionChecked creation.directory.collaborators.setting?)
    (hadmitted : creation.admitted none = true)
    (hfirst : Shows creation.request.object (some first)) (hmanaged : Managed first.driver) :
    VersionStated first := by
  obtain ⟨new, hnew, hcarried, hpasses⟩ := admitted_step shows_none hadmitted
  rw [store_of_admitted hadmitted] at hnew
  obtain rfl : first = new := Option.some.inj (hfirst.unique hnew)
  cases hcarried with
  | create hop _ =>
    have hpassed := hpasses ⟨"version-management", versionManagementRule⟩ (by simp [all])
    rw [hop] at hpassed
    -- The rule passed, and the setting it was told is that of the directory.
    obtain ⟨found, hfound, hstated⟩ := (versionManagementRule_passes_iff .create
      (enforces_managedVersion_create _ _ _)).mp hpassed
    have hlookup := Directory.answers_setting_eq_ok hfound
    obtain ⟨setting, hsetting, hvalue⟩ := hchecked
    rw [effectiveDriver_none] at hstated
    exact hstated ⟨setting, hlookup.symm.trans hsetting, hvalue⟩ hmanaged

/-- Among some attempts over what is stored there is an admitted one that leaves the driver out over
a cluster that had none. -/
def LosesDriver : Stored → List Attempt → Prop
  | _, [] => False
  | stored, attempt :: later =>
    (attempt.admitted stored = true ∧ ∃ old new, Shows stored (some old) ∧
      Shows attempt.request.object (some new) ∧ old.driver = "" ∧ new.driver = "") ∨
    LosesDriver (store stored attempt) later

/-- Over a cluster with the annotation, every run to managed drivers or none keeps it or leaves the
driver out twice in a row. -/
theorem stated_of_run {updates : List Attempt} (hold : Shows stored (some old))
    (hstated : VersionStated old) (hmanaged : ManagedOrNone old.driver)
    (hchecked : ∀ update ∈ updates, VersionChecked update.directory.collaborators.setting?)
    (hdrivers : ∀ update ∈ updates, ∀ cluster, Shows update.request.object (some cluster) →
      ManagedOrNone cluster.driver) :
    ∃ last, Shows (run stored updates) (some last) ∧
      (VersionStated last ∨ LosesDriver stored updates) := by
  induction updates generalizing stored old with
  | nil => exact ⟨old, hold, .inl hstated⟩
  | cons update later ih =>
    rw [List.forall_mem_cons] at hchecked hdrivers
    rw [run_cons]
    by_cases hadmitted : update.admitted stored = true
    · -- Admitted: the annotation is kept over this step, and by induction over the rest.
      obtain ⟨new, hnew, hpermits⟩ := (admitted_update_iff hold).mp hadmitted
      have hstored : Shows (store stored update) (some new) := by
        rw [store_of_admitted hadmitted]
        exact hnew
      by_cases hdriver : old.driver = "" ∧ new.driver = ""
      · -- From here on the run may store what it likes.
        have hloses : LosesDriver stored (update :: later) :=
          .inl ⟨hadmitted, old, new, hold, hnew, hdriver⟩
        obtain ⟨last, hlast, -⟩ := descends_of_run later hstored
        exact ⟨last, hlast, .inr hloses⟩
      · have hnext := stated_of_permits hchecked.1 hpermits hstated hmanaged
          (hdrivers.1 new hnew) hdriver
        obtain ⟨last, hlast, hkept⟩ :=
          ih hstored hnext (hdrivers.1 new hnew) hchecked.2 hdrivers.2
        exact ⟨last, hlast, hkept.imp_right .inr⟩
    · -- Not admitted: the store is as it was, so the rest of the run starts from the same cluster.
      rw [store_of_not_admitted hadmitted]
      obtain ⟨last, hlast, hkept⟩ := ih hold hstated hmanaged hchecked.2 hdrivers.2
      refine ⟨last, hlast, hkept.imp_right fun hloses => .inr ?_⟩
      rw [store_of_not_admitted hadmitted]
      exact hloses

/-- While the checks are on, every run from the creation of a cluster with a managed driver, through
updates to managed drivers or none, stores a cluster with the annotation on version management,
unless one of its updates left the driver out over a cluster that had none. -/
theorem version_annotation_kept_with_driver (creation : Attempt) (updates : List Attempt)
    (first : Cluster)
    (hchecked : ∀ attempt ∈ creation :: updates,
      VersionChecked attempt.directory.collaborators.setting?)
    (hcreated : creation.admitted none = true)
    (hfirst : Shows creation.request.object (some first)) (hmanaged : Managed first.driver)
    (hdrivers : ∀ update ∈ updates, ∀ cluster, Shows update.request.object (some cluster) →
      Managed cluster.driver ∨ cluster.driver = "") :
    ∃ last, Shows (run none (creation :: updates)) (some last) ∧
      ((∃ value, last.annotationValue? versionManagement = some value ∧ Supported value) ∨
        LosesDriver creation.request.object updates) := by
  rw [List.forall_mem_cons] at hchecked
  have hstated := stated_of_creation hchecked.1 hcreated hfirst hmanaged
  rw [run_cons, store_of_admitted hcreated]
  exact stated_of_run hfirst hstated (.inl hmanaged) hchecked.2 hdrivers

/-- A cluster with a driver and a value of the annotation, either of which may be missing. -/
def versionedCluster (driver : Text) (value : Option Text) : Cluster where
  metadata := { annotations := value.toList.map fun value => (versionManagement, value) }
  status := { driver := driver }

/-- It is written while the checks on version management are on. -/
def writing (driver : Text) (value : Option Text) : Attempt :=
  ⟨creationBy "alice" (versionedCluster driver value), guardedDirectory⟩

theorem shows_writing (driver : Text) (value : Option Text) :
    Shows (writing driver value).request.object (some (versionedCluster driver value)) := by
  -- An empty driver is read as a trivial value, which stands for the empty text too.
  obtain ⟨symbols⟩ := driver
  cases symbols <;> cases value <;> rfl

theorem driver_left_out_once :
    (writing "rke2" (some "true")).admitted none = true ∧
    ∃ last, Shows (run none [writing "rke2" (some "true"), writing "" (some "true"),
        writing "k3s" (some "false")]) (some last) ∧
      ∃ value, last.annotationValue? versionManagement = some value ∧ Supported value := by
  have hcreated : (writing "rke2" (some "true")).admitted none = true := by decide +kernel
  have hupdated : (writing "" (some "true")).admitted
      (writing "rke2" (some "true")).request.object = true := by decide +kernel
  -- The premises of the theorem, one step at a time.
  have hchecked : ∀ attempt ∈ [writing "rke2" (some "true"), writing "" (some "true"),
      writing "k3s" (some "false")],
      VersionChecked attempt.directory.collaborators.setting? := by
    simp only [List.forall_mem_cons]
    exact ⟨⟨_, rfl, rfl⟩, ⟨_, rfl, rfl⟩, ⟨_, rfl, rfl⟩, fun attempt h => absurd h List.not_mem_nil⟩
  have hdrivers : ∀ update ∈ [writing "" (some "true"), writing "k3s" (some "false")], ∀ cluster,
      Shows update.request.object (some cluster) →
      Managed cluster.driver ∨ cluster.driver = "" := by
    simp only [List.forall_mem_cons]
    refine ⟨fun cluster hcluster => ?_, fun cluster hcluster => ?_,
      fun attempt h => absurd h List.not_mem_nil⟩
    · rw [← Option.some.inj ((shows_writing _ _).unique hcluster)]
      exact .inr rfl
    · rw [← Option.some.inj ((shows_writing _ _).unique hcluster)]
      exact .inl (.inr rfl)
  obtain ⟨last, hlast, hstated | hloses⟩ := version_annotation_kept_with_driver
    (writing "rke2" (some "true")) [writing "" (some "true"), writing "k3s" (some "false")]
    (versionedCluster "rke2" (some "true")) hchecked hcreated (shows_writing _ _) (.inl rfl)
    hdrivers
  · exact ⟨hcreated, last, hlast, hstated⟩
  · -- In each update one of the two clusters has a driver.
    exfalso
    rcases hloses with ⟨-, old, new, hold, -, hdriver, -⟩ | ⟨-, old, new, -, hnew, -, hdriver⟩ | h
    · rw [← Option.some.inj ((shows_writing _ _).unique hold)] at hdriver
      exact absurd hdriver (by decide)
    · rw [← Option.some.inj ((shows_writing _ _).unique hnew)] at hdriver
      exact absurd hdriver (by decide)
    · exact h

/-- Two updates in a row that leave the driver out lose the annotation: the first one keeps it, and
the second one is no longer checked. -/
theorem version_annotation_lost_without_driver :
    (∀ attempt ∈ [writing "rke2" (some "true"), writing "" (some "true"), writing "" none],
      VersionChecked attempt.directory.collaborators.setting?) ∧
    (writing "rke2" (some "true")).admitted none = true ∧
    Shows (writing "rke2" (some "true")).request.object
      (some (versionedCluster "rke2" (some "true"))) ∧
    Managed (versionedCluster "rke2" (some "true")).driver ∧
    AllAdmitted (writing "rke2" (some "true")).request.object
      [writing "" (some "true"), writing "" none] ∧
    (∀ update ∈ [writing "" (some "true"), writing "" none], ∀ cluster,
      Shows update.request.object (some cluster) →
      Managed cluster.driver ∨ cluster.driver = "") ∧
    ¬ ∃ last, Shows (run none [writing "rke2" (some "true"), writing "" (some "true"),
        writing "" none]) (some last) ∧
      ∃ value, last.annotationValue? versionManagement = some value ∧ Supported value := by
  have hcreated : (writing "rke2" (some "true")).admitted none = true := by decide +kernel
  have hkept : (writing "" (some "true")).admitted
      (writing "rke2" (some "true")).request.object = true := by decide +kernel
  have hdropped : (writing "" none).admitted (writing "" (some "true")).request.object = true := by
    decide +kernel
  -- The premises hold, and the cluster that is stored last has no annotation.
  refine ⟨?_, hcreated, shows_writing _ _, .inl rfl, ⟨hkept, ?_, trivial⟩, ?_, ?_⟩
  · simp only [List.forall_mem_cons]
    exact ⟨⟨_, rfl, rfl⟩, ⟨_, rfl, rfl⟩, ⟨_, rfl, rfl⟩, fun attempt h => absurd h List.not_mem_nil⟩
  · rw [store_of_admitted hkept]
    exact hdropped
  · simp only [List.forall_mem_cons]
    refine ⟨fun cluster hcluster => ?_, fun cluster hcluster => ?_,
      fun attempt h => absurd h List.not_mem_nil⟩
    · rw [← Option.some.inj ((shows_writing _ _).unique hcluster)]
      exact .inr rfl
    · rw [← Option.some.inj ((shows_writing _ _).unique hcluster)]
      exact .inr rfl
  · rintro ⟨last, hlast, value, hvalue, -⟩
    rw [run_cons, run_cons, run_cons, run_nil, store_of_admitted hcreated,
      store_of_admitted hkept, store_of_admitted hdropped] at hlast
    rw [← Option.some.inj ((shows_writing "" none).unique hlast)] at hvalue
    cases hvalue

end ClusterRun

end AdmissionControl
