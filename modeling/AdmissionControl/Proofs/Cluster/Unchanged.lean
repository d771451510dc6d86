/-
  AdmissionControl.Proofs.Cluster.Unchanged

  Updates that leave a cluster as it is.

  The rules for updates compare the new cluster with the old one, and the others are for creations.
  Where the two clusters are the same, the first six rules therefore allow at once and ask nobody
  (`decisionOn_unchanged`), whatever the cluster holds.  The rule on version management first asks
  for its setting; whatever that is, it allows the old value of the annotation on a managed cluster,
  and warns at most on any other (`versionManagementRule_unchanged`).

  So a review of such an update is one question for a setting, and behind each reply to it an
  allowing response with no further question (`review_unchanged`).
-/

import AdmissionControl.Proofs.Cluster.Obligations
import AdmissionControl.Proofs.Review.Failing

namespace AdmissionControl

/-! ## Consultations that come to a result by themselves -/

namespace Consultation

variable {α β : Type} {P : α → Prop} {Q : β → Prop} {c : Consultation α}

/-- The consultation asks nothing, does not fail, and its result has `P`. -/
inductive Yields (P : α → Prop) : Consultation α → Prop where
  | ok {a : α} : P a → Yields P (.done (.ok a))
  | log {record : LogRecord} {rest : Consultation α} : Yields P rest →
      Yields P (.log record rest)

theorem Yields.bind {f : α → Consultation β} (hc : c.Yields P)
    (hf : ∀ a, P a → (f a).Yields Q) : (c >>= f).Yields Q := by
  show (c.bind f).Yields Q
  induction hc with
  | ok ha => exact hf _ ha
  | log _ ih => exact .log ih

theorem Yields.pure {a : α} (h : P a) : (pure a : Consultation α).Yields P := .ok h

theorem Yields.record (level : LogLevel) (message : Text) :
    (record level message).Yields fun _ => True := .log (.ok trivial)

/-- A run of it has a result with `P`, over every handler, and leaves the handler as it is. -/
theorem Yields.exists_run (hc : c.Yields P) (handler : Handler σ) (state : σ) :
    ∃ a log, c.run handler state = ⟨.ok a, log, state⟩ ∧ P a := by
  induction hc with
  | @ok a ha => exact ⟨a, [], rfl, ha⟩
  | @log record rest _ ih =>
    obtain ⟨a, log, hrun, ha⟩ := ih
    refine ⟨a, record :: log, ?_, ha⟩
    rw [run, hrun]
    rfl

theorem Yields.visits_eq (hc : c.Yields P) (handler : Handler σ) (state : σ) :
    c.visits handler state = [] := by
  induction hc with
  | ok _ => rfl
  | log _ ih => exact ih

end Consultation

/-- A rule by itself that does not deny comes to an allowing decision. -/
theorem exists_decisionOn_singleton {α : Type} (rule : Rule α) (context : RuleContext α)
    {c : Consultation RuleResult} (hrule : rule.check context = c) :
    ∃ next : RuleResult → Consultation Decision, decisionOn [rule] context = c >>= next ∧
      ∀ r, r.denied = false → (next r).Yields fun decision =>
        ∃ warnings, decision = .allow warnings := by
  rw [← hrule]
  refine ⟨_, bind_assoc _ _ _, fun r hallows => ?_⟩
  cases r with
  | allow => exact .pure ⟨[], rfl⟩
  | warn message => exact .log (.pure ⟨[message], rfl⟩)
  | deny reason message => cases hallows

namespace ClusterRules

variable (cluster : Cluster) (user : UserInfo)

/-! ## The rules on two equal clusters -/

theorem fleetWorkspaceUnset_unchanged :
    fleetWorkspaceUnset ⟨.update, some cluster, some cluster, user⟩ = pure .allow := by
  by_cases hempty : cluster.workspace = ""
  · simp [fleetWorkspaceUnset, RuleContext.requireOld, hempty]
  · simp [fleetWorkspaceUnset, RuleContext.requireOld, RuleContext.requireNew, hempty]

theorem creatorAnnotationsImmutable_unchanged :
    creatorAnnotationsImmutable ⟨.update, some cluster, some cluster, user⟩ = pure .allow := by
  have hkept : ∀ key, annotationKept cluster cluster key = true := by
    intro key
    rw [annotationKept_iff]
    intro value hvalue
    exact hvalue
  simp [creatorAnnotationsImmutable, RuleContext.requireOld, RuleContext.requireNew, hkept]

theorem noCreatorRbacImmutable_unchanged :
    noCreatorRbacImmutable ⟨.update, some cluster, some cluster, user⟩ = pure .allow := by
  simp [noCreatorRbacImmutable, RuleContext.requireOld, RuleContext.requireNew]

/-- The decision is up to the rule on version management alone. -/
theorem decisionOn_unchanged :
    decisionOn all ⟨.update, some cluster, some cluster, user⟩ =
      decisionOn [⟨"version-management", versionManagementRule⟩]
        ⟨.update, some cluster, some cluster, user⟩ := by
  have hstay : cluster.workspace = "" ∨
      (some cluster).map Cluster.workspace = some cluster.workspace := .inr rfl
  rw [all, decisionOn_cons_of_allow (fleetWorkspaceUnset_unchanged cluster user),
    decisionOn_cons_of_allow (fleetWorkspacePermission_of_stay (.update cluster) hstay),
    decisionOn_cons_of_allow (creatorAnnotationsImmutable_unchanged cluster user)]
  -- The rules for creations are not for this.
  have hreference : creatorReference ⟨.update, some cluster, some cluster, user⟩ =
      pure .allow := rfl
  have hwithCreator : noCreatorRbacWithCreator ⟨.update, some cluster, some cluster, user⟩ =
      pure .allow := rfl
  rw [decisionOn_cons_of_allow hreference,
    decisionOn_cons_of_allow (noCreatorRbacImmutable_unchanged cluster user),
    decisionOn_cons_of_allow hwithCreator]

theorem managedVersion_unchanged (driver : Text) (value : Option Text) :
    managedVersion .update driver value value = .allow := by
  cases value <;> simp [managedVersion]

theorem denied_unmanagedVersion (driver : Text) (value : Option Text) :
    (unmanagedVersion driver value).denied = false := by
  unfold unmanagedVersion
  split
  · rfl
  · split <;> rfl

/-- The rule on version management asks for its setting, and does not deny whatever it is. -/
theorem versionManagementRule_unchanged :
    ∃ next : Option Setting → Consultation RuleResult,
      versionManagementRule ⟨.update, some cluster, some cluster, user⟩ =
        Consultation.setting? versionManagementSetting >>= next ∧
      ∀ found, (next found).Yields fun r => r.denied = false := by
  refine ⟨_, bind_assoc _ _ _, fun found => ?_⟩
  -- Whether the checks are on is known from the reply.
  refine Consultation.Yields.bind (P := fun _ => True) ?_ fun checked _ => ?_
  · cases found with
    | some setting => exact .pure trivial
    | none => exact (Consultation.Yields.record _ _).bind fun _ _ => .pure trivial
  · cases checked with
    | false => exact .pure rfl
    | true =>
      show (if managedDrivers.contains (effectiveDriver (some cluster) cluster) then _
        else _ : Consultation RuleResult).Yields _
      split
      · refine .pure ?_
        show (managedVersion .update _ (cluster.annotationValue? versionManagement)
          (cluster.annotationValue? versionManagement)).denied = false
        rw [managedVersion_unchanged]
        rfl
      · exact .pure (denied_unmanagedVersion _ _)

/-! ## Reviews -/

variable {cluster} {admissionReview : Json} {resource : Text} {request : AdmissionRequest}

/-- A review of such an update asks for the setting, and allows whatever it is. -/
theorem review_unchanged (hrequest : requestOf admissionReview = .ok request)
    (hdispatch : dispatch request resource = .ok .cluster)
    (hcarried : Carried "Cluster" Cluster.decode request (some cluster) (some cluster)) :
    ∃ next : Option Setting → Consultation ReviewResponse,
      review admissionReview resource =
        Consultation.setting? versionManagementSetting >>= next ∧
      ∀ found, (next found).Yields fun response =>
        ∃ warnings, response = Decision.respond (.allow warnings) request.uid := by
  have hupdate : request.operation = .update := by
    cases hcarried with
    | update hop _ _ => exact hop
  -- Of all rules, only the one on version management asks anything or may record a warning.
  have hdecide : decideRequest .cluster request =
      decisionOn all ⟨.update, some cluster, some cluster, request.userInfo⟩ := by
    rw [← hupdate]
    exact decideBy_of_carried all hcarried
  obtain ⟨said, hrule, hsaid⟩ := versionManagementRule_unchanged cluster request.userInfo
  obtain ⟨decided, hdecision, hdecided⟩ := exists_decisionOn_singleton
    ⟨"version-management", versionManagementRule⟩
    ⟨.update, some cluster, some cluster, request.userInfo⟩ hrule
  have hreview : review admissionReview resource = _ := review_of_dispatch hrequest hdispatch
  -- Its first step is the lookup of the setting, so the review starts with it as well.
  rw [hdecide, decisionOn_unchanged, hdecision, bind_assoc, bind_assoc] at hreview
  refine ⟨_, hreview, fun found => ?_⟩
  refine (hsaid found).bind fun r hpasses => (hdecided r hpasses).bind fun decision hallows => ?_
  obtain ⟨warnings, rfl⟩ := hallows
  exact (Consultation.Yields.record _ _).bind fun _ _ => .pure ⟨warnings, rfl⟩

/-- An update from a cluster to the same cluster is allowed wherever the setting on version
management is answered for, and that setting is the only thing that is asked: no user is looked up
and no access is checked, so neither has any part in it. -/
theorem unchanged_cluster_allowed (hrequest : requestOf admissionReview = .ok request)
    (hdispatch : dispatch request resource = .ok .cluster)
    (hcarried : Carried "Cluster" Cluster.decode request (some cluster) (some cluster))
    (handler : Handler σ) (state : σ) {found : Option Setting}
    (hsetting : (handler (.setting versionManagementSetting) state).reply = .ok found) :
    let run := (review admissionReview resource).run handler state
    (∃ warnings, run.result = .ok (Decision.respond (.allow warnings) request.uid)) ∧
    (review admissionReview resource).visits handler state =
      [(.setting versionManagementSetting, state)] ∧
    run.state = (handler (.setting versionManagementSetting) state).state := by
  intro run
  obtain ⟨next, hreview, hnext⟩ := review_unchanged hrequest hdispatch hcarried
  obtain ⟨response, log, hrest, warnings, rfl⟩ := (hnext found).exists_run handler
    (handler (.setting versionManagementSetting) state).state
  -- The one question is answered, so the run is what follows it.
  have hrun : run = ((next found).run handler
      (handler (.setting versionManagementSetting) state).state).after
        (handler (.setting versionManagementSetting) state).log := by
    show (review admissionReview resource).run handler state = _
    rw [hreview]
    show (Consultation.ask (.setting versionManagementSetting) next).run handler state = _
    rw [Consultation.run]
    simp only [hsetting]
  rw [hrun, hrest, hreview]
  refine ⟨⟨warnings, rfl⟩, ?_, rfl⟩
  show (Consultation.ask (.setting versionManagementSetting) next).visits handler state = _
  simp only [Consultation.visits, hsetting, (hnext found).visits_eq]

/-- A cluster in a workspace that names a creator who is not to become owner, a principal, and a
value of the annotation on version management that is none. -/
def impossibleMembers : List (Text × Json) := [
  ("metadata", .obj [("annotations", .obj [
    (creatorId, .str "u-gone"), (creatorPrincipalName, .str "local://u-gone"),
    (noCreatorRbac, .str "true"), (versionManagement, .str "perhaps")])]),
  ("spec", .obj [("fleetWorkspaceName", .str "fleet-default")]),
  ("status", .obj [("driver", .str "rke2")])]

/-- That cluster. -/
def impossibleCluster : Cluster where
  metadata := { annotations := [
    (creatorId, "u-gone"), (creatorPrincipalName, "local://u-gone"),
    (noCreatorRbac, "true"), (versionManagement, "perhaps")] }
  spec := { fleetWorkspaceName := "fleet-default" }
  status := { driver := "rke2" }

/-- A request to write it over itself. -/
def touchingRequest : AdmissionRequest where
  uid := "1"
  resource := { resource := "clusters" }
  operation := .update
  userInfo := { username := "bob" }
  object := some impossibleMembers
  oldObject := some impossibleMembers

/-- A directory with the checks on version management turned on, and nothing else in order. -/
def settingsDirectory : Directory where
  settings := [(versionManagementSetting, ⟨versionManagementSetting, "true"⟩)]
  authorized := false
  outage := { users := true, authorizer := true }

theorem impossible_cluster_touched :
    Carried "Cluster" Cluster.decode touchingRequest (some impossibleCluster)
      (some impossibleCluster) ∧
    (∃ warnings, ((review (.obj [("request", touchingRequest.toJson)]) "").run
      settingsDirectory.handler []).result = .ok (Decision.respond (.allow warnings) "1")) ∧
    ((review (.obj [("request", touchingRequest.toJson)]) "").run
      settingsDirectory.handler []).state = [] := by
  have hcarried : Carried "Cluster" Cluster.decode touchingRequest (some impossibleCluster)
      (some impossibleCluster) := .update rfl rfl rfl
  have hrequest : requestOf (.obj [("request", touchingRequest.toJson)]) = .ok touchingRequest :=
    rfl
  have hdispatch : dispatch touchingRequest "" = .ok .cluster := rfl
  have hsetting : (settingsDirectory.handler (.setting versionManagementSetting) []).reply =
      .ok (some ⟨versionManagementSetting, "true"⟩) := rfl
  obtain ⟨hallowed, -, hstate⟩ := unchanged_cluster_allowed hrequest hdispatch hcarried
    settingsDirectory.handler [] hsetting
  exact ⟨hcarried, hallowed, hstate⟩

end ClusterRules

end AdmissionControl
