/-
  AdmissionControl.Proofs.Service.Posted

  What the status of an answer tells about a body that was posted.

  A body is not read as JSON, or its review ends with a response or with a failure
  (`posted_cases`).  A response is sent with status 200, be the request allowed or denied.  All else
  is answered with status 500 and a text that says what went wrong: the same for every body that is
  not JSON, and the message of the failure for every review that fails.

  There are two exceptions, and both are broken off with that status and no explanation: a body
  nested too deep to be read, and an answer in which a text holds half of a surrogate pair.  A
  review makes no such halves (`whole_of_review`): they are halves of the body, or of the message of
  a collaborator that failed.
-/

import AdmissionControl.Proofs.ApiServer.Replies
import AdmissionControl.Proofs.Offline.Agreement
import AdmissionControl.Proofs.Review.Whole

namespace AdmissionControl

/-! ## Answers that have to be encoded -/

namespace ServiceReply

/-- The answer that explains an error by a text and holds nothing else. -/
def explained (text : Text) : ServiceReply :=
  .ofContent 500 (.json (.obj [("detail", .str text)]))

theorem detail_eq (text : Text) :
    detail 500 text = if text.Whole then explained text else broken := by
  have hwhole : (Json.obj [("detail", .str text)]).isEncodable = true ↔ text.Whole := by
    rw [Json.isEncodable_obj, List.forall_mem_singleton, Json.isEncodable_str]
    exact and_iff_right (Text.whole_ofString _)
  rw [detail, ofJson]
  exact if_congr hwhole rfl rfl

/-- A body that is not read as JSON is answered with one text, unless it is nested too deep. -/
theorem ofJsonError_eq (cause : JsonError) : ofJsonError cause =
    if cause = .tooDeep then broken else explained "Failed to decode admission review." := by
  cases cause <;> rfl

theorem whole_explanation (message : Text) :
    ("Admission evaluation failed: " ++ message : Text).Whole ↔ message.Whole := by
  rw [Text.whole_append]
  exact and_iff_right (Text.whole_ofString _)

/-- A reported failure is answered with its message, if this can be sent. -/
theorem ofFailure_eq {failure : Failure} (hreported : failure.isReported = true)
    {message : Text} (hmessage : failure.message? = some message) : ofFailure failure =
      if message.Whole then explained ("Admission evaluation failed: " ++ message) else broken := by
  rw [ofFailure, if_pos hreported, hmessage, Option.getD_some, detail_eq]
  exact if_congr (whole_explanation message) rfl rfl

theorem explained_ne_broken (text : Text) : explained text ≠ broken :=
  fun h => nomatch congrArg content h

end ServiceReply

theorem Failure.exists_message_of_isReported {failure : Failure} (h : failure.isReported = true) :
    ∃ message, failure.message? = some message := by
  cases failure <;> first | exact ⟨_, rfl⟩ | cases h

/-! ## Bodies that are posted -/

/-- A body that is posted to a route is read as JSON, to a depth, and the review of it ends with a
result. -/
def ReviewsTo (depth : Nat) (handler : Handler σ) (state : σ) (target : Option ResourceKind)
    (body : List UInt8) (result : Except Failure ReviewResponse) : Prop :=
  ∃ admissionReview, Json.ofBytes depth body = .ok admissionReview ∧
    ((review admissionReview (Route.admission target).resource).run handler state).result = result

/-- A body is not JSON, or the review of it ends in one of two ways. -/
theorem posted_cases (depth : Nat) (handler : Handler σ) (state : σ)
    (target : Option ResourceKind) (body : List UInt8) :
    (∃ cause, Json.ofBytes depth body = .error cause) ∨
    (∃ response, ReviewsTo depth handler state target body (.ok response)) ∨
    ∃ failure, ReviewsTo depth handler state target body (.error failure) := by
  cases hbody : Json.ofBytes depth body with
  | error cause => exact .inl ⟨cause, rfl⟩
  | ok admissionReview =>
    cases hresult : ((review admissionReview (Route.admission target).resource).run
        handler state).result with
    | ok response => exact .inr (.inl ⟨response, admissionReview, hbody, hresult⟩)
    | error failure => exact .inr (.inr ⟨failure, admissionReview, hbody, hresult⟩)

section

variable {depth : Nat} {handler : Handler σ} {state : σ} {target : Option ResourceKind}
  {body : List UInt8}

theorem reply_of_error {cause : JsonError} (h : Json.ofBytes depth body = .error cause) :
    ((Route.admission target).answer depth handler body state).reply =
      if cause = .tooDeep then .broken
      else .explained "Failed to decode admission review." := by
  rw [Route.answer, h]
  exact ServiceReply.ofJsonError_eq cause

theorem reply_of_response {response : ReviewResponse}
    (h : ReviewsTo depth handler state target body (.ok response)) :
    ((Route.admission target).answer depth handler body state).reply =
      if response.toJson.isEncodable then .ofContent 200 (.json response.toJson)
      else .broken := by
  obtain ⟨admissionReview, hbody, hresult⟩ := h
  rw [ApiServer.reply_answer hbody, hresult, ServiceReply.ofResult, ServiceReply.ofResponse,
    ServiceReply.ofJson]

/-- Every failure of a review has a message, which is sent. -/
theorem reply_of_failure (hhandler : handler.FailsAsCollaborator) {failure : Failure}
    (h : ReviewsTo depth handler state target body (.error failure)) :
    ∃ message, failure.message? = some message ∧
      ((Route.admission target).answer depth handler body state).reply =
        if message.Whole then .explained ("Admission evaluation failed: " ++ message)
        else .broken := by
  obtain ⟨admissionReview, hbody, hresult⟩ := h
  have hreported := hhandler.isReported (Json.isWritable_of_ofBytes hbody) hresult
  obtain ⟨message, hmessage⟩ := Failure.exists_message_of_isReported hreported
  refine ⟨message, hmessage, ?_⟩
  rw [ApiServer.reply_answer hbody, hresult, ServiceReply.ofResult,
    ServiceReply.ofFailure_eq hreported hmessage]

/-- A detail text for a failure: its message behind some words.  The message of an object that does
not decode is the first line of a report, behind which there are more. -/
def Failure.IsDetail (failure : Failure) (detail : Text) : Prop :=
  ∃ message more, failure.message? = some message ∧
    detail = "Admission evaluation failed: " ++ message ++ more ∧
    (more = "" ∨ ∃ subject report, failure = .undecodable subject report)

theorem exists_detail_of_failure (hhandler : handler.FailsAsCollaborator) {failure : Failure}
    (h : ReviewsTo depth handler state target body (.error failure)) :
    ∃ detail, failure.IsDetail detail ∧
      ((Route.admission target).answer depth handler body state).reply =
        if detail.Whole then .explained detail else .broken := by
  obtain ⟨message, hmessage, hreply⟩ := reply_of_failure hhandler h
  have hempty (t : Text) : t = t ++ "" := congrArg Text.mk (List.append_nil t.symbols).symm
  refine ⟨_, ⟨message, "", hmessage, hempty _, .inl rfl⟩, hreply.trans ?_⟩
  exact if_congr (ServiceReply.whole_explanation message).symm rfl rfl

theorem status_of_error {cause : JsonError} (h : Json.ofBytes depth body = .error cause) :
    ((Route.admission target).answer depth handler body state).reply.status = 500 := by
  rw [reply_of_error h]
  split <;> rfl

/-- Only a response is sent with status 200. -/
theorem status_of_response {response : ReviewResponse}
    (h : ReviewsTo depth handler state target body (.ok response)) :
    ((Route.admission target).answer depth handler body state).reply.status =
      if response.toJson.isEncodable then 200 else 500 := by
  rw [reply_of_response h]
  split <;> rfl

theorem status_of_failure (hhandler : handler.FailsAsCollaborator) {failure : Failure}
    (h : ReviewsTo depth handler state target body (.error failure)) :
    ((Route.admission target).answer depth handler body state).reply.status = 500 := by
  obtain ⟨message, -, hreply⟩ := reply_of_failure hhandler h
  rw [hreply]
  split <;> rfl

/-- An answer to a body without halves of surrogate pairs is broken off only because of a half in
the message of a collaborator that failed, where there is none in the question. -/
theorem exists_half_of_broken (hhandler : handler.FailsAsCollaborator) {admissionReview : Json}
    (hbody : Json.ofBytes depth body = .ok admissionReview)
    (hwhole : admissionReview.isEncodable = true)
    (hbroken : ((Route.admission target).answer depth handler body state).reply = .broken) :
    ∃ query found failure, query.unavailable.Whole ∧
      (handler query found).reply = .error failure ∧ ¬ failure.Whole := by
  obtain ⟨hresponse, hfailure⟩ :=
    whole_of_review hwhole (Route.admission target).resource handler state
  -- A response to a whole review can be sent, so it was a failure with a message that cannot.
  cases hresult : ((review admissionReview (Route.admission target).resource).run
      handler state).result with
  | ok response =>
    rw [reply_of_response ⟨admissionReview, hbody, hresult⟩,
      if_pos (hresponse response hresult)] at hbroken
    exact nomatch congrArg ServiceReply.content hbroken
  | error failure =>
    obtain ⟨message, hmessage, hreply⟩ :=
      reply_of_failure hhandler ⟨admissionReview, hbody, hresult⟩
    have hhalf : ¬ failure.Whole := by
      intro hwholeFailure
      rw [hreply, if_pos (hwholeFailure message hmessage)] at hbroken
      exact ServiceReply.explained_ne_broken _ hbroken
    rcases hfailure failure hresult with h | ⟨query, found, hquery, hfailed⟩
    · exact absurd h hhalf
    · exact ⟨query, found, failure, hquery, hfailed, hhalf⟩

/-- Over a directory, out of order or not, no answer to such a body is broken off. -/
theorem directory_answers_whole_body (directory : Directory) (checks : List AccessCheck)
    {admissionReview : Json} (hbody : Json.ofBytes depth body = .ok admissionReview)
    (hwhole : admissionReview.isEncodable = true) :
    ((Route.admission target).answer depth directory.handler body checks).reply ≠ .broken := by
  intro hbroken
  obtain ⟨query, found, failure, hquery, hfailed, hhalf⟩ :=
    exists_half_of_broken directory.failsAsCollaborator hbody hwhole hbroken
  rw [directory.handler_gives query found] at hfailed
  rw [Directory.eq_unavailable_of_answers hfailed] at hhalf
  exact hhalf hquery

end

/-- Whatever is posted to a route for reviews, over any collaborators that fail only as such: it is
answered with status 200 or 500, and with 200 exactly if the body is JSON whose review ends with a
response that can be sent.  Then the response is the content, be the request allowed or denied.  A
review that fails is answered with a text that holds the message of the failure, and a body that is
not JSON with one text.  This is so to whatever depth the bodies are read.

Where the body is nested too deep, or a text of the response or the message holds half of a
surrogate pair, the answer is broken off.  It never is for a body that is read and in which no text
holds such a half, unless there is one in the message of a collaborator that failed. -/
theorem status_separates_verdicts_from_failures (depth : Nat) {handler : Handler σ}
    (hhandler : handler.FailsAsCollaborator) (state : σ) (target : Option ResourceKind)
    (body : List UInt8) :
    let posted : ServiceRequest := ⟨"POST", (Route.admission target).path, body⟩
    let reviewsTo := ReviewsTo depth handler state target body
    ∃ served, posted.answer depth handler state = .ok served ∧
      (served.reply.status = 200 ∨ served.reply.status = 500) ∧
      (served.reply.status = 200 ↔
        ∃ response, reviewsTo (.ok response) ∧ response.toJson.isEncodable = true) ∧
      (∀ response, reviewsTo (.ok response) → served.reply =
        if response.toJson.isEncodable then .ofContent 200 (.json response.toJson)
        else .broken) ∧
      (∀ failure, reviewsTo (.error failure) → ∃ detail, failure.IsDetail detail ∧
        served.reply = if detail.Whole then .explained detail else .broken) ∧
      (∀ cause, Json.ofBytes depth body = .error cause → served.reply =
        if cause = .tooDeep then .broken
        else .explained "Failed to decode admission review.") ∧
      ∀ admissionReview, Json.ofBytes depth body = .ok admissionReview →
        admissionReview.isEncodable = true → served.reply = .broken →
        ∃ query found failure, query.unavailable.Whole ∧
          (handler query found).reply = .error failure ∧ ¬ failure.Whole := by
  intro posted reviewsTo
  refine ⟨_, Route.answer_post depth handler target body state, ?status, ?ok,
    fun _ => reply_of_response, fun _ => exists_detail_of_failure hhandler, fun _ => reply_of_error,
    fun _ => exists_half_of_broken hhandler⟩
  case status =>
    -- A body that cannot be read, a response, or a failure.
    rcases posted_cases depth handler state target body with ⟨_, h⟩ | ⟨_, h⟩ | ⟨_, h⟩
    · exact .inr (status_of_error h)
    · rw [status_of_response h]
      split <;> decide
    · exact .inr (status_of_failure hhandler h)
  case ok =>
    constructor
    · intro hok
      rcases posted_cases depth handler state target body with ⟨_, h⟩ | ⟨response, h⟩ | ⟨_, h⟩
      · rw [status_of_error h] at hok
        cases hok
      · refine ⟨response, h, ?_⟩
        rw [status_of_response h] at hok
        split at hok
        next hsent => exact hsent
        next => cases hok
      · rw [status_of_failure hhandler h] at hok
        cases hok
    · rintro ⟨response, h, hsent⟩
      rw [status_of_response h, if_pos hsent]

/-- A directory whose users are out of order. -/
def usersOut : Directory := { outage := { users := true } }

/-- The deletion of a project is decided without the users, and sent; the creation of a cluster is
not, where its creator cannot be looked up. -/
theorem verdict_and_failure_over_usersOut :
    usersOut.handler.FailsAsCollaborator ∧
    (∃ served, (⟨"POST", "/v1/webhook/validation", kindOnlyBody⟩ : ServiceRequest).answer
        100 usersOut.handler [] = .ok served ∧ served.reply.status = 200) ∧
    ∃ served, (⟨"POST", "/v1/webhook/validation", creationBody⟩ : ServiceRequest).answer
        100 usersOut.handler [] = .ok served ∧ served.reply.status = 500 ∧
      served.reply = .explained "Admission evaluation failed: users unavailable: u-1" := by
  have hdecided : ∃ response, ReviewsTo 100 usersOut.handler [] none kindOnlyBody (.ok response) ∧
      response.toJson.isEncodable = true := by
    have hsent : ((review kindOnlyReview "").run usersOut.handler []).result.toOption.map
        (·.toJson.isEncodable) = some true := by decide +kernel
    obtain ⟨response, hresponse, hencodable⟩ := Option.map_eq_some_iff.mp hsent
    exact ⟨response, ⟨_, ofBytes_kindOnlyBody, Except.eq_ok_of_toOption hresponse⟩, hencodable⟩
  -- The creation asks for its creator first, and there the users are out of order.
  have hfailed : ReviewsTo 100 usersOut.handler [] none creationBody
      (.error (.unavailable "users" "u-1")) := by
    obtain ⟨next, hasked⟩ := creator_asked_first
    have hreply : (usersOut.handler (.user "u-1") []).reply =
        .error (.unavailable "users" "u-1") := rfl
    refine ⟨_, ofBytes_creationBody, ?_⟩
    rw [hasked]
    simp only [Consultation.run, hreply]
  refine ⟨usersOut.failsAsCollaborator, ?_, ?_⟩
  · obtain ⟨served, hserved, -, hok, -⟩ :=
      status_separates_verdicts_from_failures 100 usersOut.failsAsCollaborator [] none kindOnlyBody
    exact ⟨served, hserved, hok.mpr hdecided⟩
  · obtain ⟨served, hserved, -, -, -, hexplained, -⟩ :=
      status_separates_verdicts_from_failures 100 usersOut.failsAsCollaborator [] none creationBody
    -- The failure is none of decoding, so its message is all of the explanation.
    obtain ⟨detail, ⟨message, more, hmessage, rfl, hmore⟩, hreply⟩ := hexplained _ hfailed
    obtain rfl : more = "" := hmore.resolve_right (by rintro ⟨_, _, ⟨⟩⟩)
    cases hmessage
    have hreply : served.reply =
        .explained "Admission evaluation failed: users unavailable: u-1" := hreply
    exact ⟨served, hserved, by rw [hreply]; rfl, hreply⟩

/-- A review that is answered with an allowance, as the service answers it: the identifier of the
request is half of a surrogate pair, so there is neither the response nor an explanation. -/
theorem half_uid_allowed_and_broken :
    (∃ response,
      ReviewsTo 100 ({} : Directory).handler [] none (Text.utf8 halfText) (.ok response) ∧
      response.allowed = true) ∧
    ∃ served, (⟨"POST", "/v1/webhook/validation", Text.utf8 halfText⟩ : ServiceRequest).answer
        100 ({} : Directory).handler [] = .ok served ∧
      served.reply.status = 500 ∧ served.reply.contentType = some "text/plain; charset=utf-8" := by
  have hmark : halfText.head? ≠ some '\ufeff' := by decide +kernel
  have hzero : '\x00' ∉ halfText := by decide +kernel
  have hbody : Json.ofBytes 100 (Text.utf8 halfText) = .ok halfReview :=
    (Json.ofBytes_utf8 hmark hzero 100).trans ofText_halfText
  have hallowed : ReviewsTo 100 ({} : Directory).handler [] none (Text.utf8 halfText)
      (.ok (Decision.respond (.allow []) ⟨[.half ⟨0, by decide⟩]⟩)) := ⟨_, hbody, rfl⟩
  have hreply := reply_of_response hallowed
  refine ⟨⟨_, hallowed, rfl⟩, _, Route.answer_post 100 _ none _ [], ?_⟩
  rw [hreply]
  exact ⟨rfl, rfl⟩

end AdmissionControl
