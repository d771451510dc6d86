/-
  AdmissionControl.Proofs.Cluster.AccessCheck

  The access check of a cluster review.

  The authorizer is asked by one rule alone, and only where a cluster comes into a workspace
  (`EntersWorkspace`): it is created there, or an update brings it there from another one.  The rule
  before it, which keeps a workspace from being unset, then allows; so such a review is that one
  question, with a denial for one of its replies and for the other the rules behind
  (`review_of_enters`), and these ask for a user and a setting at most.  Every other review asks for
  nothing else from the start (`asksOnly_review_of_stay`).

  A directory therefore records exactly that check, and goes by its verdict (`access_check_exact`).
  Two directories that differ only in whom they authorize give the same run of whatever asks for
  users and settings alone (`run_granting`).
-/

import AdmissionControl.Proofs.Cluster.Workspace
import AdmissionControl.Proofs.Review.Failing

namespace AdmissionControl

/-! ## Questions for users and settings -/

/-- A question for a user or a setting, which no authorizer is asked. -/
inductive Query.IsLookup : Query → Prop where
  | user (name : Text) : IsLookup (.user name)
  | setting (name : Text) : IsLookup (.setting name)

namespace Consultation

variable {kind : Query → Prop} {handler : Handler σ}

/-- Every question of a run is of the kind that the consultation asks. -/
theorem AsksOnly.forall_mem_visits {c : Consultation α} (hc : c.AsksOnly kind) (state : σ) :
    ∀ visit ∈ c.visits handler state, kind visit.1 := by
  induction hc generalizing state with
  | done result => simp [visits]
  | log _ ih => exact ih state
  | @ask query next hquery _ ih =>
    rw [visits, List.forall_mem_cons]
    refine ⟨hquery, ?_⟩
    cases (handler query state).reply with
    | ok reply => exact ih reply _
    | error failure => simp

end Consultation

namespace Directory

variable {directory : Directory} {c : Consultation α} {checks : List AccessCheck}

/-- The directory with an authorizer that grants every access. -/
def granting (directory : Directory) : Directory :=
  { directory with authorized := true, policy := none }

/-- Whom a directory authorizes has no influence on what asks for users and settings alone. -/
theorem run_granting (hc : c.AsksOnly Query.IsLookup) :
    c.run directory.handler checks = c.run directory.granting.handler checks := by
  apply Consultation.run_eq_of_visits
  intro visit hvisit
  obtain ⟨query, state⟩ := visit
  have hlookup : query.IsLookup := hc.forall_mem_visits checks _ hvisit
  cases hlookup <;> rfl

/-- Nothing is recorded for it. -/
theorem state_run_of_lookups (hc : c.AsksOnly Query.IsLookup) :
    (c.run directory.handler checks).state = checks := by
  have hnone : (c.asked directory.answers).filterMap directory.recorded? = [] := by
    rw [List.filterMap_eq_nil_iff]
    intro query hquery
    have hlookup := hc.forall_mem_asked directory.answers query hquery
    cases hlookup <;> rfl
  rw [Consultation.state_run_directory, hnone, List.append_nil]

/-- An authorizer in order replies to a check by its verdict, and the check is recorded. -/
theorem run_granted (directory : Directory) (hworks : directory.outage.authorizer = false)
    (check : AccessCheck) (f : Bool → Consultation α) :
    (Consultation.granted check >>= f).run directory.handler checks =
      (f (directory.verdict check)).run directory.handler (checks ++ [check]) := by
  have hhandled : directory.handler (.access check) checks =
      ⟨[], .ok (directory.verdict check), checks ++ [check]⟩ := by
    simp only [handler, hworks, Bool.false_eq_true, if_false]
  show (Consultation.ask (.access check) f).run directory.handler checks = _
  rw [Consultation.run, hhandled]
  rfl

end Directory

/-! ## The rules -/

namespace ClusterRules

open Consultation (granted)

variable {operation : Operation} {before old new : Option Cluster} {cluster : Cluster}
  {user : UserInfo}

/-- A cluster comes into a workspace: it is created in it, or an update brings it there from
another one. -/
structure EntersWorkspace (operation : Operation) (old new : Option Cluster) (workspace : Text) :
    Prop where
  writes : operation = .create ∨ operation = .update
  named : ∃ cluster, new = some cluster ∧ cluster.workspace = workspace
  nonempty : workspace ≠ ""
  changed : operation = .create ∨ ∃ cluster, old = some cluster ∧ cluster.workspace ≠ workspace

/-- Of an operation that writes a cluster this says that the workspace is no old one. -/
theorem entersWorkspace_iff (hwrites : Writes operation before) {workspace : Text} :
    EntersWorkspace operation before (some cluster) workspace ↔ cluster.workspace = workspace ∧
      ¬ (cluster.workspace = "" ∨ before.map Cluster.workspace = some cluster.workspace) := by
  constructor
  · rintro ⟨-, ⟨_, ⟨⟩, hworkspace⟩, hnonempty, hchanged⟩
    refine ⟨hworkspace, ?_⟩
    rw [hworkspace, not_or]
    refine ⟨hnonempty, ?_⟩
    -- Only an update has a workspace to compare with.
    cases hwrites with
    | create => simp
    | update old =>
      obtain ⟨_, ⟨⟩, hother⟩ := hchanged.resolve_left (by decide)
      intro hsame
      exact hother (Option.some.inj hsame)
  · rintro ⟨rfl, hmove⟩
    rw [not_or] at hmove
    obtain ⟨hnonempty, hmoved⟩ := hmove
    cases hwrites with
    | create => exact ⟨.inl rfl, ⟨_, rfl, rfl⟩, hnonempty, .inl rfl⟩
    | update old =>
      refine ⟨.inr rfl, ⟨_, rfl, rfl⟩, hnonempty, .inr ⟨_, rfl, ?_⟩⟩
      intro hsame
      exact hmoved (congrArg some hsame)

/-- A cluster that names a workspace has not unset it. -/
theorem fleetWorkspaceUnset_of_nonempty (hwrites : Writes operation before)
    (hnonempty : cluster.workspace ≠ "") :
    fleetWorkspaceUnset ⟨operation, before, some cluster, user⟩ = pure .allow := by
  cases hwrites with
  | create => rfl
  | update old =>
    simp only [fleetWorkspaceUnset, RuleContext.requireOld, RuleContext.requireNew, pure_bind,
      ne_eq, not_true_eq_false, if_pos hnonempty, ite_self]

/-- The rules behind that on permission. -/
def behindPermission : List (Rule Cluster) := [
  ⟨"creator-annotations-immutable", creatorAnnotationsImmutable⟩,
  ⟨"creator-reference", creatorReference⟩,
  ⟨"no-creator-rbac-immutable", noCreatorRbacImmutable⟩,
  ⟨"no-creator-rbac-creator-id", noCreatorRbacWithCreator⟩,
  ⟨"version-management", versionManagementRule⟩]

theorem all_eq : all = ⟨"fleet-workspace-unset", fleetWorkspaceUnset⟩ ::
    ⟨"fleet-workspace-permission", fleetWorkspacePermission⟩ :: behindPermission := rfl

/-- They ask for a user and a setting at most. -/
theorem asksOnly_behindPermission (context : RuleContext Cluster) :
    ∀ rule ∈ behindPermission, (rule.check context).AsksOnly Query.IsLookup := by
  simp only [behindPermission, List.forall_mem_cons]
  exact ⟨asksOnly_creatorAnnotationsImmutable context, asksOnly_creatorReference context .user,
    asksOnly_noCreatorRbacImmutable context, asksOnly_noCreatorRbacWithCreator context,
    asksOnly_versionManagementRule context .setting, nofun⟩

/-- Where a cluster does not come into a workspace, no rule asks more than that. -/
theorem asksOnly_decisionOn_of_stay (hwrites : Writes operation before)
    (hstay : cluster.workspace = "" ∨ before.map Cluster.workspace = some cluster.workspace) :
    (decisionOn all ⟨operation, before, some cluster, user⟩).AsksOnly Query.IsLookup := by
  apply asksOnly_decisionOn
  rw [all_eq, List.forall_mem_cons, List.forall_mem_cons]
  refine ⟨asksOnly_fleetWorkspaceUnset _, ?_, asksOnly_behindPermission _⟩
  show (fleetWorkspacePermission _).AsksOnly _
  rw [fleetWorkspacePermission_of_stay hwrites hstay]
  exact .pure _

/-- Where it does, the decision is up to the authorizer, and to the rules behind if access is
granted. -/
theorem decisionOn_of_move (user : UserInfo) (hwrites : Writes operation before)
    (hmove : ¬ (cluster.workspace = "" ∨
      before.map Cluster.workspace = some cluster.workspace)) :
    ∃ record message, decisionOn all ⟨operation, before, some cluster, user⟩ =
      granted (entryCheck user cluster.workspace) >>= fun granted =>
        if granted then decisionOn behindPermission ⟨operation, before, some cluster, user⟩
        else .log record (pure (.deny .forbidden message [])) := by
  obtain ⟨message, hrule⟩ := fleetWorkspacePermission_of_move user hwrites hmove
  have hset : cluster.workspace ≠ "" := fun hempty => hmove (.inl hempty)
  rw [all_eq, decisionOn_cons_of_allow (fleetWorkspaceUnset_of_nonempty hwrites hset)]
  exact ⟨_, message, decisionOn_cons_of_granted hrule⟩

/-! ## Reviews -/

variable {admissionReview : Json} {resource : Text} {request : AdmissionRequest}

/-- A review of a cluster that comes into a workspace asks for the access, and denies without it;
with it the rest asks for a user and a setting at most. -/
theorem review_of_enters (hrequest : requestOf admissionReview = .ok request)
    (hdispatch : dispatch request resource = .ok .cluster)
    (hcarried : Carried "Cluster" Cluster.decode request old new) {workspace : Text}
    (henters : EntersWorkspace request.operation old new workspace) :
    ∃ decided : Bool → Consultation ReviewResponse,
      review admissionReview resource =
        granted (entryCheck request.userInfo workspace) >>= decided ∧
      (∃ first second message, decided false = .log first (.log second
        (pure (Decision.respond (.deny .forbidden message []) request.uid)))) ∧
      (decided true).AsksOnly Query.IsLookup := by
  obtain ⟨cluster, rfl, -⟩ := henters.named
  have hwrites := hcarried.writes
  obtain ⟨rfl, hmove⟩ := (entersWorkspace_iff hwrites).mp henters
  obtain ⟨record, message, hdecision⟩ := decisionOn_of_move request.userInfo hwrites hmove
  have hdecide : decideRequest .cluster request =
      decisionOn all ⟨request.operation, old, some cluster, request.userInfo⟩ :=
    decideBy_of_carried all hcarried
  have hreview : review admissionReview resource = _ := review_of_dispatch hrequest hdispatch
  rw [hdecide, hdecision, bind_assoc] at hreview
  refine ⟨_, hreview, ⟨record, _, message, rfl⟩, ?_⟩
  -- Behind the permission only lookups are left.
  refine (asksOnly_decisionOn (asksOnly_behindPermission _)).bind fun decision => ?_
  exact .bind (.record _ _) fun _ => .pure _

/-- Every other review of a cluster asks for a user and a setting at most. -/
theorem asksOnly_review_of_stay (hrequest : requestOf admissionReview = .ok request)
    (hdispatch : dispatch request resource = .ok .cluster)
    (hcarried : request.operation = .connect ∨ Carried "Cluster" Cluster.decode request old new)
    (hstay : ¬ ∃ workspace, EntersWorkspace request.operation old new workspace) :
    (review admissionReview resource).AsksOnly Query.IsLookup := by
  have hdecide : (decideRequest .cluster request).AsksOnly Query.IsLookup := by
    show (decideBy "Cluster" Cluster.decode all request).AsksOnly Query.IsLookup
    rcases hcarried with hconnect | hcarried
    · have hrules : ¬ hasRules request.operation = true := by
        rw [hconnect]
        decide
      rw [decideBy, if_neg hrules]
      exact .pure _
    · rw [decideBy_of_carried all hcarried]
      cases new with
      | some cluster =>
        apply asksOnly_decisionOn_of_stay hcarried.writes
        by_contra hmove
        exact hstay ⟨_, (entersWorkspace_iff hcarried.writes).mpr ⟨rfl, hmove⟩⟩
      | none =>
        -- What is left is a deletion, which every rule allows at once.
        cases hcarried with
        | delete hdelete _ =>
          rw [hdelete]
          exact .pure _
  rw [review_of_dispatch hrequest hdispatch]
  refine hdecide.bind fun decision => ?_
  exact .bind (.record _ _) fun _ => .pure _

/-- A review of a cluster, whose request holds the objects that its operation carries, is recorded
by the directory with one access check if it brings the cluster into a workspace, for the user of
the request and that workspace, and with none otherwise.  A refusal denies the request with 403
Forbidden, whatever else it holds; with a grant, or without a check, the run is the one over a
directory that grants every access. -/
theorem access_check_exact (hrequest : requestOf admissionReview = .ok request)
    (hdispatch : dispatch request resource = .ok .cluster)
    (hcarried : request.operation = .connect ∨ Carried "Cluster" Cluster.decode request old new)
    (directory : Directory) (hworks : directory.outage.authorizer = false)
    (checks : List AccessCheck) :
    let run := (review admissionReview resource).run directory.handler checks
    let unlimited := (review admissionReview resource).run directory.granting.handler checks
    (∀ workspace, EntersWorkspace request.operation old new workspace →
      run.state = checks ++ [entryCheck request.userInfo workspace] ∧
      (directory.verdict (entryCheck request.userInfo workspace) = false →
        ∃ message, run.result =
          .ok ⟨request.uid, false, some ⟨403, .forbidden, message⟩, []⟩) ∧
      (directory.verdict (entryCheck request.userInfo workspace) = true → run = unlimited)) ∧
    ((¬ ∃ workspace, EntersWorkspace request.operation old new workspace) →
      run.state = checks ∧ run = unlimited) := by
  intro run unlimited
  refine ⟨fun workspace henters => ?_, fun hstay => ?_⟩
  · -- A connection enters nothing.
    have hobjects : Carried "Cluster" Cluster.decode request old new := by
      refine hcarried.resolve_left fun hconnect => ?_
      rw [hconnect] at henters
      exact henters.writes.elim nofun nofun
    obtain ⟨decided, hreview, ⟨first, second, message, hrefused⟩, hgranted⟩ :=
      review_of_enters hrequest hdispatch hobjects henters
    -- Every directory records the check; what follows is up to the verdict.
    have hruns : ∀ other : Directory, other.outage.authorizer = false →
        (review admissionReview resource).run other.handler checks =
          (decided (other.verdict (entryCheck request.userInfo workspace))).run other.handler
            (checks ++ [entryCheck request.userInfo workspace]) := by
      intro other hother
      rw [hreview]
      exact other.run_granted hother _ decided
    have hrun : run = _ := hruns directory hworks
    have hunlimited : unlimited = _ := hruns directory.granting hworks
    cases hverdict : directory.verdict (entryCheck request.userInfo workspace) with
    | false =>
      rw [hverdict, hrefused] at hrun
      rw [hrun]
      exact ⟨rfl, fun _ => ⟨message, rfl⟩, nofun⟩
    | true =>
      rw [hverdict] at hrun
      rw [hrun, hunlimited]
      exact ⟨Directory.state_run_of_lookups hgranted, nofun,
        fun _ => Directory.run_granting hgranted⟩
  · -- Without entry only lookups are asked, and these leave the record of checks alone.
    have hlookups := asksOnly_review_of_stay hrequest hdispatch hcarried hstay
    exact ⟨Directory.state_run_of_lookups hlookups, Directory.run_granting hlookups⟩

/-- A cluster in a workspace, as a request carries it. -/
def housedMembers : List (Text × Json) := [
  ("spec", .obj [("fleetWorkspaceName", .str "fleet-default")])]

/-- A request for that cluster, with the same one before it. -/
def housedRequest (operation : Operation) : AdmissionRequest where
  uid := "1"
  resource := { resource := "clusters" }
  operation := operation
  userInfo := { username := "bob" }
  object := some housedMembers
  oldObject := some housedMembers

/-- A review of that request. -/
def housedReview (operation : Operation) : Json :=
  .obj [("request", (housedRequest operation).toJson)]

theorem requestOf_housedReview (operation : Operation) :
    requestOf (housedReview operation) = .ok (housedRequest operation) := by
  cases operation <;> rfl

theorem dispatch_housedRequest (operation : Operation) :
    dispatch (housedRequest operation) "" = .ok .cluster := rfl

/-- The cluster itself. -/
def housedCluster : Cluster where
  spec := { fleetWorkspaceName := "fleet-default" }

theorem housed_creation_refused :
    requestOf (housedReview .create) = .ok (housedRequest .create) ∧
    guardedDirectory.verdict (entryCheck { username := "bob" } "fleet-default") = false ∧
    ((review (housedReview .create) "").run guardedDirectory.handler []).state =
      [entryCheck { username := "bob" } "fleet-default"] ∧
    (∃ message, ((review (housedReview .create) "").run guardedDirectory.handler []).result =
      .ok ⟨"1", false, some ⟨403, .forbidden, message⟩, []⟩) ∧
    ((review (housedReview .update) "").run guardedDirectory.handler []).state = [] := by
  have hrefused : guardedDirectory.verdict (entryCheck { username := "bob" } "fleet-default") =
      false := by decide +kernel
  obtain ⟨hchecked, -⟩ := access_check_exact (requestOf_housedReview .create)
    (dispatch_housedRequest .create)
    (.inr (.create rfl rfl : Carried "Cluster" Cluster.decode (housedRequest .create) none
      (some housedCluster))) guardedDirectory rfl []
  obtain ⟨hstate, hdenied, -⟩ := hchecked "fleet-default"
    ⟨.inl rfl, ⟨_, rfl, rfl⟩, by decide, .inl rfl⟩
  -- The update stays in its workspace, so it enters none.
  obtain ⟨-, hunchecked⟩ := access_check_exact (requestOf_housedReview .update)
    (dispatch_housedRequest .update)
    (.inr (.update rfl rfl rfl : Carried "Cluster" Cluster.decode (housedRequest .update)
      (some housedCluster) (some housedCluster))) guardedDirectory rfl []
  refine ⟨requestOf_housedReview .create, hrefused, hstate, hdenied hrefused,
    (hunchecked ?_).1⟩
  rintro ⟨workspace, -, ⟨_, ⟨⟩, hnew⟩, -, hchanged⟩
  obtain ⟨_, ⟨⟩, hold⟩ := hchanged.resolve_left (by decide)
  exact hold hnew

end ClusterRules

end AdmissionControl
