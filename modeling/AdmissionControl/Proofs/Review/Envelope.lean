/-
  AdmissionControl.Proofs.Review.Envelope

  The response that a review is answered with.

  A response carries the decision on the request of the review (`exists_decision_of_review`), and
  the JSON around it is read member by member.  Which members there are, and what they hold, follows
  from the kind of decision that rules come to: an allowance, a denial with a reason that has a
  code, or an allowance with one warning (`Decision.Regular.envelope`).
-/

import AdmissionControl.Directory
import AdmissionControl.Proofs.Review.Branches

namespace AdmissionControl

/-! ## Reasons and their codes -/

/-- The reasons of denials as they are sent, each with its code. -/
def Reason.sent : List (Text × Nat) := [("BadRequest", 400), ("Forbidden", 403), ("Invalid", 422)]

theorem Reason.mem_sent {reason : Reason} (h : reason ≠ .unspecified) :
    (reason.name, reason.code) ∈ Reason.sent := by
  cases reason with
  | unspecified => exact absurd rfl h
  | badRequest => exact List.mem_cons_self
  | forbidden => exact List.mem_cons_of_mem _ List.mem_cons_self
  | invalid => exact List.mem_cons_of_mem _ (List.mem_cons_of_mem _ List.mem_cons_self)

/-! ## Members of a response -/

namespace ReviewResponse

variable (response : ReviewResponse)

theorem member?_response : response.toJson.member? "response" = some response.responseJson := rfl

theorem member?_uid : response.responseJson.member? "uid" = some (.str response.uid) := rfl

theorem member?_allowed :
    response.responseJson.member? "allowed" = some (.bool response.allowed) := rfl

theorem member?_status :
    response.responseJson.member? "status" = response.status.map DenialStatus.toJson := by
  obtain ⟨uid, allowed, status, warnings⟩ := response
  cases status with
  | none => cases warnings <;> rfl
  | some status => rfl

theorem member?_warnings :
    response.responseJson.member? "warnings" =
      if response.warnings = [] then none else some (.arr (response.warnings.map .str)) := by
  obtain ⟨uid, allowed, status, warnings⟩ := response
  cases status <;> cases warnings <;> rfl

end ReviewResponse

/-! ## Envelopes -/

/-- A JSON value is the response that carries a decision on a request which falls under a kind. -/
structure Envelope (request : AdmissionRequest) (kind : ResourceKind) (decision : Decision)
    (body : Json) : Prop where
  uid : body.member? "uid" = some (.str request.uid)
  allowed : body.member? "allowed" = some (.bool decision.allowed)
  /-- A denial, and nothing else, has a status. -/
  status_iff : (∃ status, body.member? "status" = some status) ↔ decision.allowed = false
  status : ∀ status, body.member? "status" = some status →
    (decision.reason.name, decision.reason.code) ∈ Reason.sent ∧
    status.member? "reason" = some (.str decision.reason.name) ∧
    status.member? "code" = some (.int decision.reason.code) ∧
    status.member? "message" = some (.str decision.message) ∧ decision.message ≠ ""
  /-- Warnings are there if there is one. -/
  warnings_iff : (∃ warnings, body.member? "warnings" = some warnings) ↔ decision.warnings ≠ []
  warnings : ∀ warnings, body.member? "warnings" = some warnings →
    (∃ warning, decision.warnings = [warning] ∧ warnings = .arr [.str warning]) ∧
    decision.allowed = true ∧ kind = .cluster ∧
    (request.operation = .create ∨ request.operation = .update)

/-- The response to a regular decision is its envelope. -/
theorem Decision.Regular.envelope {request : AdmissionRequest} {kind : ResourceKind}
    {decision : Decision} (h : decision.Regular (request.MayWarn kind)) :
    Envelope request kind decision (decision.respond request.uid).responseJson where
  uid := ReviewResponse.member?_uid _
  allowed := ReviewResponse.member?_allowed _
  status_iff := by
    -- Only a denial gives the response a status.
    rw [ReviewResponse.member?_status]
    cases h <;> simp [respond, Decision.allow, Decision.deny]
  status := by
    intro status hstatus
    rw [ReviewResponse.member?_status] at hstatus
    cases h with
    | allow => cases hstatus
    | warn _ _ => cases hstatus
    | deny hreason hmessage =>
      obtain rfl := Option.some.inj hstatus
      exact ⟨Reason.mem_sent hreason, rfl, rfl, rfl, hmessage⟩
  warnings_iff := by
    rw [ReviewResponse.member?_warnings]
    cases h <;> simp [respond, Decision.allow, Decision.deny]
  warnings := by
    intro warnings hwarnings
    rw [ReviewResponse.member?_warnings] at hwarnings
    cases h with
    | allow => cases hwarnings
    | deny _ _ => cases hwarnings
    | warn warning hmay =>
      obtain rfl := Option.some.inj hwarnings
      exact ⟨⟨warning, rfl, rfl⟩, rfl, hmay⟩

/-! ## Reviews -/

section

variable {handler : Handler σ} {state : σ} {admissionReview : Json} {resource : Text}
  {request : AdmissionRequest}

/-- A review responds with the decision on its request. -/
theorem exists_decision_of_review {response : ReviewResponse}
    (h : ((review admissionReview resource).run handler state).result = .ok response) :
    ∃ request decision, requestOf admissionReview = .ok request ∧
      ((evaluateRequest request resource).run handler state).result = .ok decision ∧
      response = decision.respond request.uid := by
  unfold review at h
  cases hrequest : requestOf admissionReview with
  | error failure =>
    rw [hrequest] at h
    cases h
  | ok request =>
    rw [hrequest] at h
    have hevaluated : ((evaluateRequest request resource >>= fun decision =>
        pure (decision.respond request.uid)).run handler state).result = .ok response := h
    obtain ⟨decision, hdecision, hresponse⟩ := Consultation.exists_result_of_bind hevaluated
    exact ⟨request, decision, rfl, hdecision, (Except.ok.inj hresponse).symm⟩

/-- What is decided on a request is regular for the kind that it is dispatched to. -/
theorem exists_regular_of_evaluateRequest {decision : Decision}
    (h : ((evaluateRequest request resource).run handler state).result = .ok decision) :
    ∃ kind, dispatch request resource = .ok kind ∧
      decision.Regular (request.MayWarn kind) := by
  obtain ⟨queries, -, hbranches⟩ := branches_evaluateRequest request resource
  exact hbranches.of_run h

end

/-- Whenever a review gets a response, whatever the collaborators reply: the response carries the
decision on the request of the review.  Its body repeats whether the request is allowed and the uid
of the request; it has a status exactly for a denial, with one of three reasons, the code of this
reason and a message; and it has a warning, one at most, only where the creation or an update of a
cluster is allowed. -/
theorem response_carries_decision (handler : Handler σ) (state : σ) (admissionReview : Json)
    (resource : Text) (response : ReviewResponse)
    (hrun : ((review admissionReview resource).run handler state).result = .ok response) :
    ∃ request kind decision body,
      requestOf admissionReview = .ok request ∧ dispatch request resource = .ok kind ∧
      ((evaluateRequest request resource).run handler state).result = .ok decision ∧
      response.allowed = decision.allowed ∧
      response.toJson.member? "response" = some body ∧ Envelope request kind decision body := by
  obtain ⟨request, decision, hrequest, hdecision, rfl⟩ := exists_decision_of_review hrun
  obtain ⟨kind, hdispatch, hregular⟩ := exists_regular_of_evaluateRequest hdecision
  exact ⟨request, kind, decision, _, hrequest, hdispatch, hdecision, rfl,
    ReviewResponse.member?_response _, hregular.envelope⟩

/-- A review of the creation of a cluster with a driver and the annotation on version management. -/
def annotatedReview (driver value : Text) : Json := .obj [("request", .obj [
  ("uid", .str "1"), ("operation", .str "CREATE"),
  ("resource", .obj [("resource", .str "clusters")]),
  ("object", .obj [
    ("metadata", .obj [("annotations", .obj [(ClusterRules.versionManagement, .str value)])]),
    ("status", .obj [("driver", .str driver)])])])]

theorem ignored_annotation_warned :
    ∃ response body, ((review (annotatedReview "imported" "true") "").run
        ClusterRules.guardedDirectory.handler []).result = .ok response ∧
      response.allowed = true ∧ response.toJson.member? "response" = some body ∧
      body.member? "uid" = some (.str "1") ∧ (∀ status, body.member? "status" ≠ some status) ∧
      ∃ warning, body.member? "warnings" = some (.arr [.str warning]) := by
  -- The verdict is evaluated; all that is in the answer follows from it.
  have hverdict : ((review (annotatedReview "imported" "true") "").run
      ClusterRules.guardedDirectory.handler []).result.toOption.map
        (fun response => (response.allowed, response.warnings.isEmpty)) = some (true, false) := by
    decide +kernel
  obtain ⟨response, hresponse, hsame⟩ := Option.map_eq_some_iff.mp hverdict
  obtain ⟨hallowed, hwarned⟩ := Prod.mk.inj hsame
  have hrun := Except.eq_ok_of_toOption hresponse
  obtain ⟨request, kind, decision, body, hrequest, -, -, hdecided, hbody, henvelope⟩ :=
    response_carries_decision _ _ _ _ response hrun
  have huid : request.uid = "1" := by
    cases hrequest
    rfl
  refine ⟨response, body, hrun, hallowed, hbody, ?_, fun status hstatus => ?_, ?_⟩
  · rw [henvelope.uid, huid]
  · have hdenied := henvelope.status_iff.mp ⟨status, hstatus⟩
    rw [← hdecided, hallowed] at hdenied
    cases hdenied
  · -- That there is a warning is seen in the response; that it is the only one, in the envelope.
    have hpresent : body.member? "warnings" = some (.arr (response.warnings.map .str)) := by
      obtain rfl := Option.some.inj hbody
      rw [ReviewResponse.member?_warnings, if_neg (by simpa using hwarned)]
    obtain ⟨⟨warning, -, hone⟩, -⟩ := henvelope.warnings _ hpresent
    exact ⟨warning, hone ▸ hpresent⟩

end AdmissionControl
