/-
  AdmissionControl.Proofs.Cluster.Workspace

  How clusters come into fleet workspaces.

  The rule on permission asks the authorizer only where the workspace changes, so a stored cluster
  may be in a workspace by a grant of long ago.  The run remembers it: a cluster is in a workspace
  because some attempt entered it, and was asked for and granted, and the cluster has been there
  ever since (`EnteredByGrant`).  Each attempt either keeps that entry or is one itself.
-/

import AdmissionControl.Proofs.Cluster.Obligations
import AdmissionControl.Proofs.Cluster.Run
import Mathlib.Data.List.Induction

namespace AdmissionControl

namespace ClusterRules

/-! ## What the authorizer is asked -/

variable {kind : Query → Prop} (context : RuleContext Cluster)

open Consultation

theorem asksOnly_fleetWorkspaceUnset : (fleetWorkspaceUnset context).AsksOnly kind := by
  unfold fleetWorkspaceUnset
  split
  · exact .pure _
  · refine .bind (asksOnly_requireOld context) fun old => ?_
    split
    · exact .pure _
    · refine .bind (asksOnly_requireNew context) fun new => ?_
      split <;> exact .pure _

theorem asksOnly_creatorAnnotationsImmutable :
    (creatorAnnotationsImmutable context).AsksOnly kind := by
  unfold creatorAnnotationsImmutable
  split
  · exact .pure _
  · refine .bind (asksOnly_requireOld context) fun old => ?_
    refine .bind (asksOnly_requireNew context) fun new => ?_
    dsimp only
    split <;> exact .pure _

theorem asksOnly_creatorReference (hkind : ∀ name, kind (.user name)) :
    (creatorReference context).AsksOnly kind := by
  unfold creatorReference
  split
  · exact .pure _
  · refine .bind (asksOnly_requireNew context) fun new => ?_
    dsimp only
    split
    · exact .pure _
    · split
      · exact .pure _
      · refine .bind (.ask (hkind _) fun _ => .pure _) fun found => ?_
        split
        · exact .pure _
        · split <;> exact .pure _

theorem asksOnly_noCreatorRbacImmutable : (noCreatorRbacImmutable context).AsksOnly kind := by
  unfold noCreatorRbacImmutable
  split
  · exact .pure _
  · refine .bind (asksOnly_requireOld context) fun old => ?_
    refine .bind (asksOnly_requireNew context) fun new => ?_
    dsimp only
    split <;> exact .pure _

theorem asksOnly_noCreatorRbacWithCreator : (noCreatorRbacWithCreator context).AsksOnly kind := by
  unfold noCreatorRbacWithCreator
  split
  · exact .pure _
  · refine .bind (asksOnly_requireNew context) fun new => ?_
    dsimp only
    split <;> exact .pure _

theorem asksOnly_versionManagementRule (hkind : ∀ name, kind (.setting name)) :
    (versionManagementRule context).AsksOnly kind := by
  unfold versionManagementRule versionManagementChecked
  split
  · exact .pure _
  · refine .bind (.bind (.ask (hkind _) fun _ => .pure _) fun found => ?_) fun checked => ?_
    · split
      · exact .pure _
      · exact .bind (.record _ _) fun _ => .pure _
    · split
      · exact .pure _
      · refine .bind (asksOnly_requireNew context) fun new => ?_
        dsimp only
        split <;> exact .pure _

/-- A directory records of an evaluation only what the rule on permission asks. -/
theorem recorded_asked (directory : Directory) :
    (all.flatMap fun rule => (rule.check context).asked directory.answers).filterMap
      directory.recorded? =
    ((fleetWorkspacePermission context).asked directory.answers).filterMap
      directory.recorded? := by
  have hnone : ∀ {c : Consultation RuleResult},
      c.AsksOnly (fun query => directory.recorded? query = none) →
      (c.asked directory.answers).filterMap directory.recorded? = [] := by
    intro c hc
    rw [List.filterMap_eq_nil_iff]
    exact hc.forall_mem_asked _
  simp only [all, List.flatMap_cons, List.flatMap_nil, List.filterMap_append,
    hnone (asksOnly_fleetWorkspaceUnset context),
    hnone (asksOnly_creatorAnnotationsImmutable context),
    hnone (asksOnly_creatorReference context fun _ => rfl),
    hnone (asksOnly_noCreatorRbacImmutable context),
    hnone (asksOnly_noCreatorRbacWithCreator context),
    hnone (asksOnly_versionManagementRule context fun _ => rfl),
    List.nil_append, List.append_nil]

variable {operation : Operation} {before : Option Cluster} {new : Cluster} {user : UserInfo}

/-- A cluster that passes in a new workspace was asked for and granted. -/
theorem granted_of_passes {directory : Directory} (hwrites : Writes operation before)
    (hmove : ¬ (new.workspace = "" ∨ before.map Cluster.workspace = some new.workspace))
    (hpasses : (fleetWorkspacePermission ⟨operation, before, some new, user⟩).Passes
      directory.answers) :
    directory.verdict (entryCheck user new.workspace) = true ∧
      ((fleetWorkspacePermission ⟨operation, before, some new, user⟩).asked
        directory.answers).filterMap directory.recorded? = [entryCheck user new.workspace] := by
  obtain ⟨message, hrule⟩ := fleetWorkspacePermission_of_move user hwrites hmove
  rw [hrule] at hpasses ⊢
  obtain ⟨r, hr, hdenied⟩ := hpasses
  rw [result_bind, result_granted] at hr
  rw [asked_bind, asked_granted, result_granted]
  cases hanswer : directory.answers (.access (entryCheck user new.workspace)) with
  -- Neither a failure nor a refusal lets the cluster pass.
  | error failure =>
    rw [hanswer] at hr
    cases hr
  | ok allowed =>
    obtain ⟨hverdict, hrecorded⟩ := Directory.answers_access_eq_ok hanswer
    rw [hanswer, Except.ok_bind] at hr
    cases allowed with
    | false =>
      cases hr
      cases hdenied
    | true =>
      refine ⟨hverdict, ?_⟩
      simp [hrecorded]

end ClusterRules

namespace ClusterRun

open ClusterRules

/-! ## Entries into a workspace -/

variable {stored : Stored} {attempt : Attempt} {before : Option Cluster} {workspace : Text}

/-- What is stored shows a cluster in a workspace. -/
def InWorkspace (stored : Stored) (workspace : Text) : Prop :=
  ∃ cluster, Shows stored (some cluster) ∧ cluster.workspace = workspace

/-- An attempt brings the cluster into a workspace: the authorizer is asked for exactly this, and
grants it. -/
structure Enters (attempt : Attempt) (stored : Stored) (workspace : Text) : Prop where
  outside : ¬ InWorkspace stored workspace
  admitted : attempt.admitted stored = true
  asked : (attempt.review stored).state = [entryCheck attempt.request.userInfo workspace]
  granted : attempt.directory.verdict (entryCheck attempt.request.userInfo workspace) = true

/-- Among some attempts over nothing there is one that enters the workspace, and after it the
cluster has been there ever since. -/
def EnteredByGrant (attempts : List Attempt) (workspace : Text) : Prop :=
  ∃ earlier entry later, attempts = earlier ++ entry :: later ∧
    Enters entry (run none earlier) workspace ∧
    ∀ since, since <+: later → InWorkspace (run none (earlier ++ entry :: since)) workspace

/-- An admitted attempt after which the cluster is in a workspace where it was not enters it. -/
theorem enters_of_admitted (hbefore : Shows stored before) (hnonempty : workspace ≠ "")
    (hadmitted : attempt.admitted stored = true) (houtside : ¬ InWorkspace stored workspace)
    (hinside : InWorkspace (store stored attempt) workspace) :
    Enters attempt stored workspace := by
  obtain ⟨new, hnew, hcarried, hpasses⟩ := admitted_step hbefore hadmitted
  obtain ⟨cluster, hcluster, rfl⟩ := hinside
  obtain rfl : new = cluster := Option.some.inj (hnew.unique hcluster)
  -- The workspace is a new one, so the rule on entry asked for it.
  have hmove : ¬ (new.workspace = "" ∨
      before.map Cluster.workspace = some new.workspace) := by
    rintro (hempty | hsame)
    · exact hnonempty hempty
    · obtain ⟨old, rfl, hold⟩ := Option.map_eq_some_iff.mp hsame
      exact houtside ⟨old, hbefore, hold⟩
  have hpermission := hpasses ⟨"fleet-workspace-permission", fleetWorkspacePermission⟩
    (by simp [ClusterRules.all])
  obtain ⟨hgranted, hasked⟩ := granted_of_passes hcarried.writes hmove hpermission
  refine ⟨houtside, hadmitted, ?_, hgranted⟩
  rw [Attempt.review, Consultation.state_run_directory, List.nil_append]
  -- No other rule has a check on record.
  have hdecided : (decideRequest .cluster (attempt.over stored)).asked attempt.directory.answers =
      _ := asked_decideBy attempt.directory.answers ClusterRules.all hcarried (by
        rw [over_userInfo]
        exact hpasses)
  rw [hdecided, recorded_asked, over_userInfo, hasked]

/-! ## Runs -/

/-- One more attempt after which the cluster is still there keeps the entry. -/
theorem EnteredByGrant.concat {attempts : List Attempt} (h : EnteredByGrant attempts workspace)
    (hinside : InWorkspace (run none (attempts ++ [attempt])) workspace) :
    EnteredByGrant (attempts ++ [attempt]) workspace := by
  obtain ⟨earlier, entry, later, rfl, henters, hsince⟩ := h
  refine ⟨earlier, entry, later ++ [attempt], by simp, henters, fun since hprefix => ?_⟩
  -- Only the whole of the longer run is new; every shorter one was there before.
  rcases List.prefix_concat_iff.mp hprefix with rfl | hprefix
  · simpa using hinside
  · exact hsince since hprefix

/-- A cluster is in a workspace by a granted entry. -/
theorem enteredByGrant_of_inWorkspace (attempts : List Attempt) (hnonempty : workspace ≠ "")
    (hinside : InWorkspace (run none attempts) workspace) :
    EnteredByGrant attempts workspace := by
  induction attempts using List.reverseRecOn with
  | nil =>
    obtain ⟨cluster, hcluster, -⟩ := hinside
    cases hcluster.unique shows_none
  | append_singleton attempts attempt ih =>
    -- Either the cluster was there before the last attempt, or this attempt is the entry.
    by_cases hbefore : InWorkspace (run none attempts) workspace
    · exact (ih hbefore).concat hinside
    · obtain ⟨shown, hshown⟩ := exists_shows attempts
      have hstore : InWorkspace (store (run none attempts) attempt) workspace := by
        rw [run_append] at hinside
        exact hinside
      -- A step that leaves what is stored could not have brought the cluster in.
      have hadmitted : attempt.admitted (run none attempts) = true := by
        by_contra hdenied
        rw [store_of_not_admitted hdenied] at hstore
        exact hbefore hstore
      refine ⟨attempts, attempt, [], rfl,
        enters_of_admitted hshown hnonempty hadmitted hbefore hstore, fun since hprefix => ?_⟩
      rw [List.prefix_nil.mp hprefix]
      exact hinside

/-- An admitted update leaves no cluster without a workspace that had one. -/
theorem workspace_nonempty_of_update {old : Cluster} (hold : Shows stored (some old))
    (hnonempty : old.workspace ≠ "") (hadmitted : attempt.admitted stored = true) :
    ∃ new, Shows (store stored attempt) (some new) ∧ new.workspace ≠ "" := by
  obtain ⟨new, hnew, hcarried, hpasses⟩ := admitted_step hold hadmitted
  cases hcarried with
  | update hop _ _ =>
    simp only [hop, ClusterRules.all, List.forall_mem_cons] at hpasses
    have hset := (enforces_fleetWorkspaceUnset.passes_iff _).mp hpasses.1
    exact ⟨new, hnew, fun hempty => hset ⟨hnonempty, hempty⟩⟩

theorem workspace_nonempty_of_run (later : List Attempt) {cluster : Cluster}
    (hcluster : Shows stored (some cluster)) (hnonempty : cluster.workspace ≠ "") :
    ∃ last, Shows (run stored later) (some last) ∧ last.workspace ≠ "" := by
  refine run_preserves (fun stored => ∃ last, Shows stored (some last) ∧ last.workspace ≠ "") ?_
    later ⟨cluster, hcluster, hnonempty⟩
  rintro stored attempt ⟨old, hold, hnonempty⟩ hadmitted
  exact workspace_nonempty_of_update hold hnonempty hadmitted

/-- Whatever the attempts over nothing, a stored cluster that is in a workspace came into it by a
granted entry, and it is in one after all later attempts. -/
theorem workspace_entered_by_grant (attempts later : List Attempt) (cluster : Cluster)
    (hshows : Shows (run none attempts) (some cluster)) (hnonempty : cluster.workspace ≠ "") :
    EnteredByGrant attempts cluster.workspace ∧
      ∃ last, Shows (run none (attempts ++ later)) (some last) ∧ last.workspace ≠ "" := by
  refine ⟨enteredByGrant_of_inWorkspace attempts hnonempty ⟨cluster, hshows, rfl⟩, ?_⟩
  rw [run_append]
  exact workspace_nonempty_of_run later hshows hnonempty

/-- The imported cluster outside of every workspace. -/
def homelessCluster : Cluster := { importedCluster with spec := {} }

/-- It is created there. -/
def settling : Attempt := ⟨creationBy "bob" homelessCluster, guardedDirectory⟩

/-- It is moved into the workspace by the user who may. -/
def entering : Attempt := ⟨creationBy "alice" importedCluster, guardedDirectory⟩

theorem settled_by_grant :
    Shows (run none [settling, entering]) (some importedCluster) ∧
    importedCluster.workspace ≠ "" ∧
    EnteredByGrant [settling, entering] importedCluster.workspace ∧
    ∃ last, Shows (run none ([settling, entering] ++ [settling])) (some last) ∧
      last.workspace ≠ "" := by
  have hsettled : settling.admitted none = true := by decide +kernel
  have hentered : entering.admitted settling.request.object = true := by decide +kernel
  have hshows : Shows (run none [settling, entering]) (some importedCluster) := by
    rw [run_cons, run_cons, run_nil, store_of_admitted hsettled, store_of_admitted hentered]
    rfl
  have hnonempty : importedCluster.workspace ≠ "" := by decide +kernel
  exact ⟨hshows, hnonempty,
    workspace_entered_by_grant [settling, entering] [settling] importedCluster hshows hnonempty⟩

end ClusterRun

end AdmissionControl
