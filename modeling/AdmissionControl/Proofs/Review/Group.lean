/-
  AdmissionControl.Proofs.Review.Group

  Reviews for resources of other groups.

  A resource is told from others by its group and its name together, and the resources with rules
  belong to one group.  No step of a review looks at the group that the request names, though: the
  dispatch goes by the names of the resource and of the kind, and the rules look at the objects.  So
  the same request in another group gives the same review (`review_of_inGroup`).

  A review that falls under a kind ends by the objects that the request carries, or by its
  collaborators, and never for want of rules (`not_unsupported_of_designates`).  Hence a review is
  refused exactly if no registered name stands in it (`review_refused_iff_unregistered`), and a
  cluster or a project of a foreign group is judged as one of the rules' own
  (`foreign_cluster_judged`).
-/

import AdmissionControl.Proofs.Review.Dispatch
import AdmissionControl.Proofs.Review.Failing

namespace AdmissionControl

/-! ## Groups -/

namespace AdmissionRequest

/-- The same request for a resource and a kind of another group. -/
def inGroup (request : AdmissionRequest) (group : Text) : AdmissionRequest :=
  { request with
    kind := { request.kind with group }
    resource := { request.resource with group } }

/-- The request names a group, and not the one of the resources that have rules: neither for its
resource nor for its kind. -/
structure IsForeign (request : AdmissionRequest) : Prop where
  resource_named : request.resource.group ≠ ""
  resource_ne : request.resource.group ≠ ResourceKind.group
  kind_named : request.kind.group ≠ ""
  kind_ne : request.kind.group ≠ ResourceKind.group

end AdmissionRequest

section

variable {request : AdmissionRequest} {admissionReview other : Json} {group resource : Text}
  {kind : ResourceKind}

/-- The group of a request has no influence on the decision and on what is logged for it. -/
theorem evaluateRequest_inGroup :
    evaluateRequest (request.inGroup group) resource = evaluateRequest request resource := by
  have hdispatch : dispatch (request.inGroup group) resource = dispatch request resource := rfl
  have hdecide : ∀ kind, decideRequest kind (request.inGroup group) = decideRequest kind request :=
    fun kind => by cases kind <;> rfl
  have hrecord : ∀ kind decision,
      decisionRecord kind (request.inGroup group) decision = decisionRecord kind request decision :=
    fun _ _ => rfl
  simp only [evaluateRequest, hdispatch, hdecide, hrecord]

/-- Two reviews of one request but for its group are the same. -/
theorem review_of_inGroup (hrequest : requestOf admissionReview = .ok request)
    (hother : requestOf other = .ok (request.inGroup group)) :
    review other resource = review admissionReview resource := by
  rw [review_of_request hrequest, review_of_request hother, evaluateRequest_inGroup]
  rfl

/-! ## Reviews that fall under a kind -/

/-- The evaluation of a request that falls under a kind fails because of its objects. -/
theorem failsOnly_evaluateRequest (hdesignates : Designates request resource kind) :
    (evaluateRequest request resource).FailsOnly fun failure =>
      failure.OfObjects ∨ failure = .unshown := by
  rw [evaluateRequest_of_dispatch (dispatch_eq_ok_iff.mpr hdesignates)]
  refine .bind (failsOnly_decideRequest (fun _ => .inl) (.inr (.inr rfl)) kind) fun decision => ?_
  exact .bind (.record _ _) fun _ => .pure _

/-- A review that falls under a kind does not end for want of rules. -/
theorem not_unsupported_of_designates (hrequest : requestOf admissionReview = .ok request)
    (hdesignates : Designates request resource kind) (directory : Directory)
    (checks : List AccessCheck) (name : Text) :
    ((review admissionReview resource).run directory.handler checks).result ≠
      .error (.unsupportedResource name) := by
  intro hresult
  -- Behind the dispatch, failures are of the objects or of collaborators.
  have hfails : (review admissionReview resource).FailsOnly fun failure =>
      failure.OfObjects ∨ failure = .unshown := by
    rw [review_of_request hrequest]
    exact .bind (failsOnly_evaluateRequest hdesignates) fun _ => .pure _
  rcases hfails.of_result_run hresult with
    (hobjects | hunshown) | ⟨query, found, -, hreply⟩
  · cases hobjects
  · cases hunshown
  · -- A collaborator that is out of order says so.
    rw [directory.handler_gives query found] at hreply
    obtain ⟨service, item, hfailure⟩ := Directory.unavailable_of_answers hreply
    cases hfailure

open ResourceKind in
/-- A request that names a registered resource or kind, and no resource from the caller, falls under
a kind. -/
theorem exists_designates_of_registered
    (h : ¬ (¬ Registered request.resource.resource ∧ ¬ RegisteredKind request.kind.kind)) :
    ∃ kind, Designates request "" kind := by
  by_contra hnone
  rw [not_exists, undesignated_iff] at hnone
  rcases hnone with ⟨hempty, -⟩ | ⟨-, hunregistered⟩
  · exact hempty rfl
  · exact h hunregistered

/-! ## Requests of any group -/

open ResourceKind in
/-- A review with no resource from the caller is refused for want of rules exactly if neither its
resource nor its kind bears a registered name, whatever the group of either; and then at once, with
nothing asked and nothing logged.  In any other group the same request gives the same run. -/
theorem review_refused_iff_unregistered (hrequest : requestOf admissionReview = .ok request)
    (directory : Directory) (checks : List AccessCheck) :
    let run := (review admissionReview "").run directory.handler checks
    ((∃ name, run.result = .error (.unsupportedResource name)) ↔
      ¬ Registered request.resource.resource ∧ ¬ RegisteredKind request.kind.kind) ∧
    (¬ Registered request.resource.resource ∧ ¬ RegisteredKind request.kind.kind →
      run = ⟨.error (.unsupportedResource (request.askedFor "")), [], checks⟩) ∧
    ∀ group other, requestOf other = .ok (request.inGroup group) →
      (review other "").run directory.handler checks = run := by
  intro run
  have hrefused : ¬ Registered request.resource.resource ∧ ¬ RegisteredKind request.kind.kind →
      run = ⟨.error (.unsupportedResource (request.askedFor "")), [], checks⟩ := by
    intro hunregistered
    have hnone : ∀ kind, ¬ Designates request "" kind :=
      undesignated_iff.mpr (.inr ⟨rfl, hunregistered⟩)
    show (review admissionReview "").run directory.handler checks = _
    rw [review_of_undesignated hrequest hnone]
    rfl
  refine ⟨⟨?_, fun hunregistered => ⟨_, by rw [hrefused hunregistered]⟩⟩, hrefused, ?_⟩
  · rintro ⟨name, hresult⟩
    -- A kind that is designated has its rules run, and no rule refuses a resource.
    by_contra hregistered
    obtain ⟨kind, hdesignates⟩ := exists_designates_of_registered hregistered
    exact not_unsupported_of_designates hrequest hdesignates directory checks name hresult
  · intro group other hother
    show _ = (review admissionReview "").run directory.handler checks
    rw [review_of_inGroup hrequest hother]

end

/-! ## Objects of another group with clusters -/

/-- A review of the creation of an object in another group that has clusters. -/
def machineryReview (resource kind : String) : Json := .obj [("request", .obj [
  ("uid", .str "1"), ("operation", .str "CREATE"),
  ("kind", .obj [("group", .str "cluster.x-k8s.io"), ("kind", .str kind)]),
  ("resource", .obj [("group", .str "cluster.x-k8s.io"), ("resource", .str resource)]),
  ("object", .obj [("metadata", .obj [("name", .str "c-1")])])])]

/-- The request of that review. -/
def machineryRequest (resource kind : String) : AdmissionRequest where
  uid := "1"
  kind := { group := "cluster.x-k8s.io", kind }
  resource := { group := "cluster.x-k8s.io", resource }
  operation := .create
  object := some [("metadata", .obj [("name", .str "c-1")])]

theorem requestOf_machineryReview (resource kind : String) :
    requestOf (machineryReview resource kind) = .ok (machineryRequest resource kind) := rfl

theorem isForeign_machineryRequest (resource kind : String) :
    (machineryRequest resource kind).IsForeign :=
  ⟨by show ("cluster.x-k8s.io" : Text) ≠ ""; decide,
    by show ("cluster.x-k8s.io" : Text) ≠ ResourceKind.group; decide,
    by show ("cluster.x-k8s.io" : Text) ≠ ""; decide,
    by show ("cluster.x-k8s.io" : Text) ≠ ResourceKind.group; decide⟩

open ResourceKind in
theorem foreign_machine_refused :
    requestOf (machineryReview "machines" "Machine") =
      .ok (machineryRequest "machines" "Machine") ∧
    (machineryRequest "machines" "Machine").IsForeign ∧
    ¬ Registered "machines" ∧ ¬ RegisteredKind "Machine" ∧
    (review (machineryReview "machines" "Machine") "").run ({} : Directory).handler [] =
      ⟨.error (.unsupportedResource "machines"), [], []⟩ := by
  have hrequest := requestOf_machineryReview "machines" "Machine"
  have hforeign := isForeign_machineryRequest "machines" "Machine"
  have hresource : ¬ Registered "machines" := ofResource?_eq_none_iff.mp (by decide)
  have hkind : ¬ RegisteredKind "Machine" := ofKind?_eq_none_iff.mp (by decide)
  obtain ⟨-, hrefused, -⟩ := review_refused_iff_unregistered hrequest {} []
  exact ⟨hrequest, hforeign, hresource, hkind, hrefused ⟨hresource, hkind⟩⟩

/-- A cluster of another group is judged by the rules for clusters, and here allowed. -/
theorem foreign_cluster_judged :
    requestOf (machineryReview "clusters" "Cluster") =
      .ok (machineryRequest "clusters" "Cluster") ∧
    (machineryRequest "clusters" "Cluster").IsForeign ∧
    ((review (machineryReview "clusters" "Cluster") "").run ({} : Directory).handler []).result =
      .ok ⟨"1", true, none, []⟩ :=
  ⟨requestOf_machineryReview "clusters" "Cluster", isForeign_machineryRequest "clusters" "Cluster",
    Except.eq_ok_of_toOption (by decide +kernel)⟩

end AdmissionControl
