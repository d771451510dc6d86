/-
  AdmissionControl.Proofs.Review.Undecodable

  Reviews of what does not decode.

  The request of a review is decoded before anything else is done, and the objects that its
  operation carries before any rule is run (`AdmissionRequest.carried`).  So a request or an object
  with errors ends the review at once, with the report that lists them
  (`review_of_undecodable_request`, `decideBy_of_undecodable`).
-/

import AdmissionControl.Proofs.Model.Violations
import AdmissionControl.Proofs.Review.Carrying

namespace AdmissionControl

/-- The objects that the operation of a request carries, in the order in which they are decoded. -/
def AdmissionRequest.carried (request : AdmissionRequest) : List (List (Text × Json)) :=
  match request.operation with
  | .create => request.object.toList
  | .update => request.oldObject.toList ++ request.object.toList
  | .delete => request.oldObject.toList
  | .connect => []

/-- With errors there is a report of them. -/
theorem Decoded.exists_report {x : Decoded α} (h : x.details ≠ []) (model : String) :
    ∃ report, x.report model = .error report := by
  cases x with
  | value a => exact absurd rfl h
  | errors first more => exact ⟨⟨model, first, more⟩, rfl⟩

section

variable {α : Type} {decoder : Decoder α} {request : AdmissionRequest}
  {members : List (Text × Json)}

/-- An object fails to decode by a report of its errors. -/
theorem decodeObject_eq_error {name : String} {object : Option (List (Text × Json))}
    {failure : Failure} : decodeObject name decoder object = .error failure ↔
      ∃ members ∈ object.toList, ∃ report, (decoder (.obj members)).report name = .error report ∧
        failure = .undecodable name report := by
  cases object with
  | none => simp [decodeObject]
  | some members =>
    rw [decodeObject]
    cases hreport : (decoder (.obj members)).report name <;> simp [hreport, eq_comm]

theorem decodeObject_of_details (name : String) {object : Option (List (Text × Json))}
    (hobject : members ∈ object.toList) (hfails : (decoder (.obj members)).details ≠ []) :
    ∃ report, (decoder (.obj members)).report name = .error report ∧
      decodeObject name decoder object = .error (.undecodable name report) := by
  obtain ⟨report, hreport⟩ := Decoded.exists_report hfails name
  exact ⟨report, hreport, decodeObject_eq_error.mpr ⟨members, hobject, report, hreport, rfl⟩⟩

/-- Where an object that is carried has errors, there is nothing for rules to look at: the first of
the objects with errors is reported. -/
theorem ruleContext_of_undecodable (name : String) (hmembers : members ∈ request.carried)
    (hfails : (decoder (.obj members)).details ≠ []) :
    ∃ found ∈ request.carried, ∃ report, (decoder (.obj found)).report name = .error report ∧
      ruleContext name decoder request = .error (.undecodable name report) := by
  rw [ruleContext_eq]
  unfold AdmissionRequest.carried at *
  cases hop : request.operation with
  | connect =>
    rw [hop] at hmembers
    cases hmembers
  | create =>
    rw [hop] at hmembers
    obtain ⟨report, hreport, hobject⟩ := decodeObject_of_details name hmembers hfails
    exact ⟨members, hmembers, report, hreport, by rw [hobject]; rfl⟩
  | delete =>
    rw [hop] at hmembers
    obtain ⟨report, hreport, hobject⟩ := decodeObject_of_details name hmembers hfails
    exact ⟨members, hmembers, report, hreport, by rw [hobject]; rfl⟩
  | update =>
    rw [hop] at hmembers
    -- The old object goes first, so its errors hide those of the new one.
    cases hold : decodeObject name decoder request.oldObject with
    | error failure =>
      obtain ⟨found, hfound, report, hreport, rfl⟩ := decodeObject_eq_error.mp hold
      exact ⟨found, List.mem_append_left _ hfound, report, hreport, rfl⟩
    | ok old =>
      rcases List.mem_append.mp hmembers with hbefore | hafter
      · -- The old object decodes, so it has no errors.
        obtain ⟨report, -, herror⟩ := decodeObject_of_details name hbefore hfails
        rw [hold] at herror
        cases herror
      · obtain ⟨report, hreport, hobject⟩ := decodeObject_of_details name hafter hfails
        exact ⟨members, hmembers, report, hreport, by rw [hobject]; rfl⟩

/-- So no rule is run, whatever the rules. -/
theorem decideBy_of_undecodable (name : String) (hmembers : members ∈ request.carried)
    (hfails : (decoder (.obj members)).details ≠ []) :
    ∃ found ∈ request.carried, ∃ report, (decoder (.obj found)).report name = .error report ∧
      ∀ rules, decideBy name decoder rules request = .fail (.undecodable name report) := by
  obtain ⟨found, hfound, report, hreport, hcontext⟩ :=
    ruleContext_of_undecodable name hmembers hfails
  have hrules : hasRules request.operation = true := by
    cases hop : request.operation with
    | connect =>
      rw [AdmissionRequest.carried, hop] at hmembers
      cases hmembers
    | _ => rfl
  refine ⟨found, hfound, report, hreport, fun rules => ?_⟩
  rw [decideBy, if_pos hrules, hcontext]
  rfl

end

/-! ## Reviews -/

variable {admissionReview : Json} {resource : Text}

/-- A request with errors ends the review. -/
theorem review_of_undecodable_request {members : List (Text × Json)}
    (hmember : admissionReview.member? "request" = some (.obj members))
    (hfails : (AdmissionRequest.decode (.obj members)).details ≠ []) :
    ∃ report, (AdmissionRequest.decode (.obj members)).report "AdmissionRequest" = .error report ∧
      review admissionReview resource = .fail (.undecodable "admission request" report) := by
  obtain ⟨report, hreport⟩ := Decoded.exists_report hfails "AdmissionRequest"
  refine ⟨report, hreport, ?_⟩
  rw [review, requestOf, hmember]
  simp only [hreport]
  rfl

/-- A review in which an object of the request has errors for a decoder ends with the report of one
of them, and no rules get anything to look at. -/
def EndsUndecodable (decoder : Decoder α) (name : String) (request : AdmissionRequest)
    (outcome : Consultation ReviewResponse) : Prop :=
  ∀ members ∈ request.carried, (decoder (.obj members)).details ≠ [] →
    ∃ found ∈ request.carried, ∃ report, (decoder (.obj found)).report name = .error report ∧
      (∀ rules, decideBy name decoder rules request = .fail (.undecodable name report)) ∧
      outcome = .fail (.undecodable name report)

/-- An object with errors ends the review. -/
theorem endsUndecodable_review {α : Type} {decoder : Decoder α} {request : AdmissionRequest}
    {kind : ResourceKind} {rules : List (Rule α)}
    (hdecide : decideRequest kind request = decideBy kind.kind decoder rules request)
    (hrequest : requestOf admissionReview = .ok request)
    (hdispatch : dispatch request resource = .ok kind) :
    EndsUndecodable decoder kind.kind request (review admissionReview resource) := by
  intro members hmembers hfails
  obtain ⟨found, hfound, report, hreport, hall⟩ :=
    decideBy_of_undecodable kind.kind hmembers hfails
  refine ⟨found, hfound, report, hreport, hall, ?_⟩
  rw [review_of_dispatch hrequest hdispatch, hdecide, hall]
  rfl

/-- Errors of decoding are complete and well placed.  In what is read from a text, to whatever
depth, the members of each object have different names.  Let such a value be decoded as a cluster, a
project, a request or a user: decoding fails just if there are errors to list, all of them are
listed and counted, each in a place of its own, which is that of a part of the value, and which is
shown with halves of surrogate pairs replaced, so as it is where no text holds any; and decoding
fails just if some part is not as it should be, each of which is listed however many others are.  A
request with errors, or an object that its operation carries, ends the review with a report, and no
rule is run. -/
theorem decoding_reports_every_fault :
    (∀ depth text j, Json.ofText depth text = .ok j → j.Distinct) ∧
    (∀ j : Json, j.isEncodable = true → j.ShowsPaths) ∧
    (∀ j : Json, j.Distinct →
      Cluster.decode.Thorough (.model .cluster) j ∧
      Project.decode.Thorough (.model .project) j ∧
      AdmissionRequest.decode.Thorough (.model (.request none)) j ∧
      UserInfo.decode.Thorough (.model .userInfo) j) ∧
    (∀ (admissionReview : Json) (resource : Text) (members : List (Text × Json)),
      admissionReview.member? "request" = some (.obj members) →
      (AdmissionRequest.decode (.obj members)).details ≠ [] →
      ∃ report, (AdmissionRequest.decode (.obj members)).report "AdmissionRequest" =
          .error report ∧
        review admissionReview resource = .fail (.undecodable "admission request" report)) ∧
    ∀ (admissionReview : Json) (resource : Text) (request : AdmissionRequest),
      requestOf admissionReview = .ok request →
      (dispatch request resource = .ok .cluster →
        EndsUndecodable Cluster.decode "Cluster" request (review admissionReview resource)) ∧
      (dispatch request resource = .ok .project →
        EndsUndecodable Project.decode "Project" request (review admissionReview resource)) :=
  ⟨fun _ _ _ => Json.distinct_of_ofText, fun _ => Json.showsPaths_of_isEncodable,
    fun _ hdistinct => ⟨Cluster.follows.thorough hdistinct, Project.follows.thorough hdistinct,
      AdmissionRequest.follows.thorough hdistinct, UserInfo.follows.thorough hdistinct⟩,
    fun _ _ _ => review_of_undecodable_request,
    fun _ _ _ hrequest =>
      ⟨endsUndecodable_review rfl hrequest, endsUndecodable_review rfl hrequest⟩⟩

/-- The members of a project with errors in three places. -/
def faultyMembers : List (Text × Json) := [
  ("metadata", .obj [("labels", .obj [("team", .int 1)])]),
  ("spec", .obj [
    ("displayName", .null),
    ("resourceQuota", .obj [("limit", .obj [("pods", .arr [])])])])]

set_option maxRecDepth 2000 in
theorem ofText_faultyMembers :
    Json.ofText 5 ((Json.obj faultyMembers).text .compact) = .ok (.obj faultyMembers) := by
  rfl

/-- All of them are reported where they are, that of the limit's value three times, and no project
is created.  Nor is a request read that does not say its operation. -/
theorem faulty_project_reported :
    (Json.obj faultyMembers).Distinct ∧
    Project.decode.Thorough (.model .project) (.obj faultyMembers) ∧
    (Project.decode (.obj faultyMembers)).details = [
      ⟨[.name "metadata", .name "labels", .name "team"], .stringType⟩,
      ⟨[.name "spec", .name "displayName"], .stringType⟩,
      ⟨[.name "spec", .name "resourceQuota", .name "limit", .name "pods", .name "str"],
        .stringType⟩,
      ⟨[.name "spec", .name "resourceQuota", .name "limit", .name "pods", .name "int"], .intType⟩,
      ⟨[.name "spec", .name "resourceQuota", .name "limit", .name "pods", .name "float"],
        .floatType⟩] ∧
    (∀ detail ∈ (Project.decode (.obj faultyMembers)).details,
      (Shape.model .project).Places (.obj faultyMembers) detail) ∧
    (∃ report, review (projectReview .create (some faultyMembers) none) "" =
        .fail (.undecodable "Project" report) ∧
      report.message = "5 validation errors for Project") ∧
    ∃ report, review (.obj [("request", .obj [])]) "" =
        .fail (.undecodable "admission request" report) ∧
      report.details = [⟨[.name "operation"], .missing⟩] := by
  obtain ⟨hread, hshows, hthorough, hrequests, hobjects⟩ := decoding_reports_every_fault
  have hdistinct : (Json.obj faultyMembers).Distinct := hread _ _ _ ofText_faultyMembers
  obtain ⟨-, hproject, -⟩ := hthorough _ hdistinct
  refine ⟨hdistinct, hproject, rfl, (hproject.exact (hshows _ rfl)).2, ?project, ?request⟩
  case project =>
    -- The project is undecodable behind a request that is not.
    have hends :=
      (hobjects _ "" _ (requestOf_projectReview .create (some faultyMembers) none)).2 rfl
    obtain ⟨found, hfound, report, hreport, -, hreview⟩ :=
      hends faultyMembers (List.mem_singleton_self _) (List.cons_ne_nil _ _)
    refine ⟨report, hreview, ?_⟩
    rw [List.mem_singleton.mp hfound] at hreport
    exact (hproject.reported _ _ hreport).2
  case request =>
    -- A request without its operation is undecodable itself.
    obtain ⟨report, hreport, hreview⟩ := hrequests (.obj [("request", .obj [])]) "" [] rfl
      (List.cons_ne_nil _ _)
    refine ⟨report, hreview, ?_⟩
    cases hreport
    rfl

/-- The members of a cluster with two labels that are no texts, each named by half of a surrogate
pair. -/
def halfNamedMembers : List (Text × Json) :=
  [("metadata", .obj [("labels", .obj [
    (⟨(Symbol.ofCode? 0xd800).toList⟩, .int 1), (⟨(Symbol.ofCode? 0xd801).toList⟩, .int 2)])])]

/-- Both are reported in one place, where there is nothing. -/
theorem half_named_labels_reported_in_one_place :
    (Json.obj halfNamedMembers).Distinct ∧
    ¬ ((Cluster.decode (.obj halfNamedMembers)).details.map Detail.loc).Nodup ∧
    ∀ detail ∈ (Cluster.decode (.obj halfNamedMembers)).details,
      detail.defect = .stringType ∧ (Json.obj halfNamedMembers).at? detail.loc = none := by
  have hdetails : (Cluster.decode (.obj halfNamedMembers)).details = List.replicate 2
      ⟨[.name "metadata", .name "labels", .name "\ufffd\ufffd\ufffd"], .stringType⟩ := rfl
  have hlabels : (Json.obj [
      (⟨(Symbol.ofCode? 0xd800).toList⟩, .int 1),
      (⟨(Symbol.ofCode? 0xd801).toList⟩, .int 2)]).Distinct :=
    .obj (by decide) (by simp [Json.Distinct.int])
  refine ⟨.obj (by decide) ?_, by rw [hdetails]; decide, ?_⟩
  · rw [halfNamedMembers, List.forall_mem_singleton]
    exact .obj (by decide) (List.forall_mem_singleton.mpr hlabels)
  · intro detail hdetail
    rw [hdetails] at hdetail
    rw [List.eq_of_mem_replicate hdetail]
    exact ⟨rfl, rfl⟩

end AdmissionControl
