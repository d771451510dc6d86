/-
  AdmissionControl.Proofs.ApiServer.Replies

  What comes of the replies of the API server, whatever they are.

  A request ends on one reply: the first that is no transient fault, or that to its last try
  (`Exchange.Decides`).  The client understands a fault, a status that says an error, and a value
  that can be read for the question (`Reply.Understood`).  A question whose request can be built and
  ends on such a reply is answered, or fails as a collaborator does.  Every other question fails as
  nothing else does: with a failure that is not reported (`Client.understands_or_escapes`).

  A review asks its questions one after the other, and such a failure ends it.  So the service
  answers a review with its response or with a detail text if every question on the way is
  understood, and breaks off if one is not (`replies_answered_iff_understood`).
-/

import AdmissionControl.Proofs.ApiServer.Readable
import AdmissionControl.Proofs.Json.Reading
import AdmissionControl.Service.Answer

namespace AdmissionControl

open ApiServer

/-! ## Failures that escape -/

/-- A result is there, or a collaborator failed. -/
def Answered (result : Except Failure α) : Prop :=
  (∃ a, result = .ok a) ∨ FailsByCollaborator result

/-- A result is a failure that is not reported. -/
def Escapes (result : Except Failure α) : Prop :=
  ∃ failure, result = .error failure ∧ failure.isReported = false

/-- A failure that escapes is no answer. -/
theorem Escapes.not_answered {result : Except Failure α} (h : Escapes result) :
    ¬ Answered result := by
  obtain ⟨failure, rfl, hescapes⟩ := h
  rintro (⟨a, ha⟩ | ⟨cause, hcause, hcollaborator⟩)
  · cases ha
  · cases hcause
    rw [Failure.isReported_of_isCollaborator hcollaborator] at hescapes
    cases hescapes

namespace ApiServer

/-! ## Replies that are understood -/

/-- A reply that is understood for a question by a client which reads to some depth: a fault, an
error by its status, or a value that is read for the question. -/
inductive Reply.Understood (depth : Nat) (query : Query) : Reply → Prop where
  | fault (fault : Fault) (reason : Text) : Understood depth query (.fault fault reason)
  | error {status : Nat} {body : ReplyBody} : body.checkSendable = .ok () → 400 ≤ status →
      status ≤ 599 → Understood depth query (.response status body)
  | value {status : Nat} {body : ReplyBody} {j : Json} : body.checkSendable = .ok () →
      body.value depth = .ok j → query.Readable j →
      Understood depth query (.response status body)

theorem isReported_of_checkSendable {body : ReplyBody} {failure : Failure}
    (h : body.checkSendable = .error failure) : failure.isReported = false := by
  cases body with
  | json j =>
    rw [ReplyBody.checkSendable] at h
    split at h
    · cases h
      rfl
    · split at h <;> cases h
      rfl
  | text s =>
    rw [ReplyBody.checkSendable] at h
    split at h <;> cases h
    rfl

theorem isReported_of_value {depth : Nat} {body : ReplyBody} {failure : Failure}
    (h : body.value depth = .error failure) : failure.isReported = false := by
  cases body with
  | json j => cases h
  | text s =>
    rw [ReplyBody.value] at h
    split at h <;> cases h
    rfl

/-- A reply from a URL counts: it is a fault, or its body can be sent and the URL has a scheme. -/
def Reply.Counts (url : Url) : Reply → Prop
  | .fault .. => True
  | .response _ body => body.checkSendable = .ok () ∧ url.beginsWithScheme = true

section

variable {depth : Nat} {query : Query} {url : Url} {subject : Subject} {reply : Reply}
  {status : Nat} {body : ReplyBody} {handled : Handled Exchange (Option Json)}

theorem resolveFrom_of_counts (h : reply.Counts url) :
    resolveFrom depth url subject reply = resolve depth subject reply := by
  cases reply with
  | fault fault reason => rfl
  | response status body =>
    obtain ⟨hsendable, hscheme⟩ := h
    simp only [resolveFrom, hsendable, hscheme, if_true]

/-- A reply that does not count is a failure that is not reported. -/
theorem resolveFrom_of_not_counts (h : ¬ reply.Counts url) :
    Escapes (resolveFrom depth url subject reply).2 := by
  cases reply with
  | fault fault reason => exact absurd trivial h
  | response status body =>
    cases hbody : body.checkSendable with
    | error failure =>
      refine ⟨failure, ?_, isReported_of_checkSendable hbody⟩
      simp only [resolveFrom, hbody]
    | ok _ =>
      have hscheme : ¬ url.beginsWithScheme = true := fun hscheme => h ⟨hbody, hscheme⟩
      refine ⟨.noScheme, ?_, rfl⟩
      simp only [resolveFrom, hbody, if_neg hscheme]

/-- A request that failed fails the question, and escapes as the request does. -/
theorem escapes_of_error {failure : Failure} (h : handled.reply = .error failure)
    (hescapes : failure.isReported = false) : Escapes (query.read handled).reply :=
  ⟨failure, Query.read_of_error h, hescapes⟩

theorem answered_of_error {failure : Failure} (h : handled.reply = .error failure)
    (hcollaborator : failure.isCollaborator = true) : Answered (query.read handled).reply :=
  .inr ⟨failure, Query.read_of_error h, hcollaborator⟩

/-- That nothing was found is an answer about a user or a setting, and fails an access check. -/
theorem answered_of_none (h : handled.reply = .ok none) : Answered (query.read handled).reply := by
  cases query with
  | user name => exact .inl ⟨none, by simp only [Query.read, readFound, h, Except.ok_bind]⟩
  | setting name => exact .inl ⟨none, by simp only [Query.read, readFound, h, Except.ok_bind]⟩
  | access check =>
    refine .inr ⟨.notFound "subjectaccessreview" check.resource.name, ?_, rfl⟩
    simp only [Query.read, readVerdict, h]

/-- A response from a URL with a scheme is answered if it is understood, and escapes otherwise. -/
theorem understood_or_escapes
    (h : handled.reply = (resolveFrom depth url query.subject (.response status body)).2)
    (hscheme : url.beginsWithScheme = true) :
    (Reply.response status body).Understood depth query ∧ Answered (query.read handled).reply ∨
      ¬ (Reply.response status body).Understood depth query ∧
        Escapes (query.read handled).reply := by
  cases hbody : body.checkSendable with
  | error failure =>
    simp only [resolveFrom, hbody] at h
    -- The body of the reply cannot even be had, which is no way to be understood.
    refine .inr ⟨fun hunderstood => ?_, escapes_of_error h (isReported_of_checkSendable hbody)⟩
    cases hunderstood with
    | error hsendable _ _ => cases hbody.symm.trans hsendable
    | value hsendable _ _ => cases hbody.symm.trans hsendable
  | ok _ =>
    have hcounts : (Reply.response status body).Counts url := ⟨hbody, hscheme⟩
    rw [resolveFrom_of_counts hcounts, resolve] at h
    by_cases hmissing : status = 404
    · rw [if_pos hmissing] at h
      -- Nothing was found, whatever the body is.
      exact .inl ⟨.error hbody (by omega) (by omega), answered_of_none h⟩
    · rw [if_neg hmissing] at h
      by_cases hstatus : 400 ≤ status ∧ status ≤ 599
      · rw [if_pos (by simpa using hstatus)] at h
        exact .inl ⟨.error hbody hstatus.1 hstatus.2, answered_of_error h rfl⟩
      · rw [if_neg (by simpa using hstatus)] at h
        -- Now all depends on the value of the body.
        cases hvalue : body.value depth with
        | error failure =>
          rw [hvalue] at h
          refine .inr ⟨fun hunderstood => ?_, escapes_of_error h (isReported_of_value hvalue)⟩
          cases hunderstood with
          | error _ hleast hgreatest => exact hstatus ⟨hleast, hgreatest⟩
          | value _ hread _ => cases hvalue.symm.trans hread
        | ok j =>
          rw [hvalue] at h
          by_cases hreadable : query.Readable j
          · exact .inl ⟨.value hbody hvalue hreadable,
              .inl ((Query.exists_read_iff h).mpr hreadable)⟩
          · refine .inr ⟨fun hunderstood => ?_, ?_⟩
            · cases hunderstood with
              | error _ hleast hgreatest => exact hstatus ⟨hleast, hgreatest⟩
              | value _ hread hother =>
                cases hvalue.symm.trans hread
                exact hreadable hother
            · cases hread : (query.read handled).reply with
              | ok a => exact absurd ((Query.exists_read_iff h).mp ⟨a, hread⟩) hreadable
              | error failure => exact ⟨failure, rfl, Query.read_escapes h hread⟩

theorem escapes_of_not_counts (h : handled.reply = (resolveFrom depth url query.subject reply).2)
    (hcounts : ¬ reply.Counts url) : Escapes (query.read handled).reply := by
  obtain ⟨failure, hfailure, hescapes⟩ := resolveFrom_of_not_counts hcounts
  exact escapes_of_error (h.trans hfailure) hescapes

end

/-! ## Questions -/

/-- The request for a question can be built, and it ends on a reply that the client understands; a
response has to come from a URL with a scheme. -/
inductive Client.Understands (client : Client) (query : Query) (exchange : Exchange) : Prop where
  | fault {prepared : Url × Request} {fault : Fault} {reason : Text} :
      client.prepare query = .ok prepared →
      exchange.Decides (client.maxTries - 1) (.fault fault reason) →
      Understands client query exchange
  | response {status : Nat} {body : ReplyBody} : client.Sends query →
      exchange.Decides (client.maxTries - 1) (.response status body) →
      (Reply.response status body).Understood client.depth query →
      Understands client query exchange

/-- A question that cannot be asked is not understood. -/
theorem Client.Understands.exists_prepare {client : Client} {query : Query} {exchange : Exchange}
    (h : client.Understands query exchange) : ∃ prepared, client.prepare query = .ok prepared := by
  cases h with
  | fault hprepare _ => exact ⟨_, hprepare⟩
  | response hsends _ _ =>
    obtain ⟨url, request, hprepare, -⟩ := hsends
    exact ⟨_, hprepare⟩

/-- What stands in the way of a request is not reported. -/
theorem Client.isReported_of_prepare_error {client : Client} {query : Query} {failure : Failure}
    (h : client.prepare query = .error failure) : failure.isReported = false := by
  rcases prepare_error h with rfl | rfl | ⟨cause, rfl⟩ <;> rfl

/-- A question that is understood is answered or fails as a collaborator does, and any other one
ends in a failure that escapes. -/
theorem Client.understands_or_escapes (client : Client) (query : Query) (exchange : Exchange) :
    client.Understands query exchange ∧ Answered (client.handler query exchange).reply ∨
      ¬ client.Understands query exchange ∧ Escapes (client.handler query exchange).reply := by
  rw [Query.handler_eq]
  cases hprepare : client.prepare query with
  | error failure =>
    have hreply : (client.request query.subject query.body? exchange).reply = .error failure := by
      rw [request_eq, hprepare]
    refine .inr ⟨fun hunderstands => ?_,
      escapes_of_error hreply (isReported_of_prepare_error hprepare)⟩
    -- Without a request no reply is understood.
    obtain ⟨prepared, hother⟩ := hunderstands.exists_prepare
    cases hprepare.symm.trans hother
  | ok prepared =>
    obtain ⟨url, request⟩ := prepared
    have hdecides := Exchange.decides_send request (client.maxTries - 1) exchange
    have hreply : (client.request query.subject query.body? exchange).reply =
        (resolveFrom client.depth url query.subject
          (exchange.send request (client.maxTries - 1)).1).2 := by
      rw [request_eq, hprepare]
    cases hends : (exchange.send request (client.maxTries - 1)).1 with
    | fault fault reason =>
      rw [hends] at hdecides hreply
      -- A fault that is left over is reported as such.
      exact .inl ⟨.fault hprepare hdecides, answered_of_error hreply rfl⟩
    | response status body =>
      rw [hends] at hdecides hreply
      -- No other reply ends the request, so the question is understood as this one is.
      have hiff : client.Understands query exchange ↔
          url.beginsWithScheme = true ∧
            (Reply.response status body).Understood client.depth query := by
        constructor
        · intro hunderstands
          cases hunderstands with
          | fault _ hother => cases hdecides.unique hother
          | response hsends hother hunderstood =>
            obtain ⟨url', request', hprepare', hscheme⟩ := hsends
            cases hprepare.symm.trans hprepare'
            cases hdecides.unique hother
            exact ⟨hscheme, hunderstood⟩
        · rintro ⟨hscheme, hunderstood⟩
          exact .response ⟨url, request, hprepare, hscheme⟩ hdecides hunderstood
      rw [hiff]
      by_cases hscheme : url.beginsWithScheme = true
      · rcases understood_or_escapes hreply hscheme with ⟨h, hanswered⟩ | ⟨h, hescapes⟩
        · exact .inl ⟨⟨hscheme, h⟩, hanswered⟩
        · exact .inr ⟨fun hboth => h hboth.2, hescapes⟩
      · exact .inr ⟨fun hboth => hscheme hboth.1,
          escapes_of_not_counts hreply fun hcounts => hscheme hcounts.2⟩

/-- A question is answered, or fails as a collaborator does, exactly if it is understood. -/
theorem Client.answered_iff (client : Client) (query : Query) (exchange : Exchange) :
    Answered (client.handler query exchange).reply ↔ client.Understands query exchange := by
  rcases client.understands_or_escapes query exchange with ⟨h, hanswered⟩ | ⟨h, hescapes⟩
  · exact ⟨fun _ => h, fun _ => hanswered⟩
  · exact ⟨fun hanswered => absurd hanswered hescapes.not_answered, fun hunderstands =>
      absurd hunderstands h⟩

/-- An ordinary question is understood if the reply on which its request ends is. -/
theorem Client.understands_iff_of_plain {client : Client} {query : Query}
    (hbase : client.base.IsBase) (hplain : query.Plain client) (exchange : Exchange) :
    client.Understands query exchange ↔
      ∃ reply, exchange.Decides (client.maxTries - 1) reply ∧
        reply.Understood client.depth query := by
  have hsends := sends_of_plain hbase hplain
  constructor
  · intro hunderstands
    cases hunderstands with
    | fault _ hdecides => exact ⟨_, hdecides, .fault _ _⟩
    | response _ hdecides hunderstood => exact ⟨_, hdecides, hunderstood⟩
  · rintro ⟨reply, hdecides, hunderstood⟩
    cases reply with
    | fault fault reason =>
      obtain ⟨url, request, hprepare, -⟩ := hsends
      exact .fault hprepare hdecides
    | response status body => exact .response hsends hdecides hunderstood

/-! ## Reviews and the service -/

section

variable {client : Client} {exchange : Exchange} {c : Consultation α} {failure : Failure}

/-- A run that understands every question on its way fails with what is reported. -/
theorem isReported_of_visits_understood (hc : c.FailsOnly Failure.OfRequest)
    (hvisits : ∀ visit ∈ c.visits client.handler exchange, client.Understands visit.1 visit.2)
    (hresult : (c.run client.handler exchange).result = .error failure) :
    failure.isReported = true := by
  rcases hc.of_result_run hresult with hrequest | ⟨query, found, hvisit, hreply⟩
  · exact hrequest.isReported
  · have hanswered := (client.answered_iff query found).mpr (hvisits (query, found) hvisit)
    rw [hreply] at hanswered
    rcases hanswered with ⟨a, ha⟩ | ⟨cause, hcause, hcollaborator⟩
    · cases ha
    · cases hcause
      exact Failure.isReported_of_isCollaborator hcollaborator

/-- A run that comes to a question which is not understood ends in a failure that escapes. -/
theorem escapes_of_visit {visit : Query × Exchange}
    (hvisit : visit ∈ c.visits client.handler exchange)
    (hnot : ¬ client.Understands visit.1 visit.2) :
    Escapes (c.run client.handler exchange).result := by
  rcases client.understands_or_escapes visit.1 visit.2 with ⟨h, -⟩ | ⟨-, failure, hreply, hescapes⟩
  · exact absurd h hnot
  · exact ⟨failure, Consultation.result_run_of_visit hvisit hreply, hescapes⟩

/-- A review that is read from the body of a request is answered as its run ends. -/
theorem reply_answer {depth : Nat} {handler : Handler σ} {kind : Option ResourceKind}
    {body : List UInt8} {admissionReview : Json}
    (hbody : Json.ofBytes depth body = .ok admissionReview) (state : σ) :
    ((Route.admission kind).answer depth handler body state).reply =
      .ofResult ((review admissionReview (Route.admission kind).resource).run
        handler state).result := by
  rw [Route.answer, hbody]

end

end ApiServer

/-- Whatever the API server replies, a question to it is answered or fails as a collaborator does
exactly if it is understood; for an ordinary question this is up to the reply on which its request
ends.  The service answers a review with the response, or with the detail text of a failure, if
every question that it comes to is understood, and breaks off if one is not, to whatever depth it
and its client read. -/
theorem replies_answered_iff_understood (client : Client) :
    (∀ (query : Query) (exchange : Exchange),
      Answered (client.handler query exchange).reply ↔ client.Understands query exchange) ∧
    (client.base.IsBase → ∀ (query : Query) (exchange : Exchange), query.Plain client →
      (client.Understands query exchange ↔
        ∃ reply, exchange.Decides (client.maxTries - 1) reply ∧
          reply.Understood client.depth query)) ∧
    (∀ (depth : Nat) (kind : Option ResourceKind) (body : List UInt8) (admissionReview : Json)
      (exchange : Exchange), Json.ofBytes depth body = .ok admissionReview →
      let consultation := review admissionReview (Route.admission kind).resource
      let served := (Route.admission kind).answer depth client.handler body exchange
      ((∀ visit ∈ consultation.visits client.handler exchange,
          client.Understands visit.1 visit.2) →
        (∃ response, (consultation.run client.handler exchange).result = .ok response ∧
          served.reply = .ofResponse response) ∨
        ∃ message : Text,
          served.reply = .detail 500 ("Admission evaluation failed: " ++ message)) ∧
      ((∃ visit ∈ consultation.visits client.handler exchange,
          ¬ client.Understands visit.1 visit.2) → served.reply = .broken)) := by
  refine ⟨client.answered_iff, fun hbase query exchange hplain =>
    Client.understands_iff_of_plain hbase hplain exchange, ?_⟩
  intro depth kind body admissionReview exchange hbody consultation served
  have hserved : served.reply = .ofResult (consultation.run client.handler exchange).result :=
    reply_answer hbody exchange
  constructor
  · -- The body was read from bytes, so its integers have texts, and every failure is reported.
    intro hvisits
    cases hresult : (consultation.run client.handler exchange).result with
    | ok response =>
      rw [hresult] at hserved
      exact .inl ⟨response, rfl, hserved⟩
    | error failure =>
      have hreported : failure.isReported = true :=
        isReported_of_visits_understood
          (failsOnly_review_of_isWritable (Json.isWritable_of_ofBytes hbody) _) hvisits hresult
      rw [hserved, hresult, ServiceReply.ofResult, ServiceReply.ofFailure, if_pos hreported]
      exact .inr ⟨_, rfl⟩
  · -- The first reply that is not understood ends the review, by a failure that is not reported.
    rintro ⟨visit, hvisit, hnot⟩
    obtain ⟨failure, hfailure, hescapes⟩ := escapes_of_visit hvisit hnot
    have hunreported : ¬ failure.isReported = true := by
      rw [hescapes]
      exact Bool.false_ne_true
    rw [hserved, hfailure, ServiceReply.ofResult, ServiceReply.ofFailure, if_neg hunreported]

/-- The body of a review of the creation of a cluster that names its creator. -/
def creationBody : List UInt8 := Text.utf8 ((creationNaming "u-1").text .compact).toList

set_option maxRecDepth 2000 in
theorem ofText_creation :
    Json.ofText 100 ((creationNaming "u-1").text .compact) = .ok (creationNaming "u-1") := by
  rfl

theorem ofBytes_creationBody : Json.ofBytes 100 creationBody = .ok (creationNaming "u-1") := by
  have hdecode : Text.decode? creationBody = some ((creationNaming "u-1").text .compact) := by
    decide +kernel
  rw [Json.ofBytes, hdecode]
  exact ofText_creation

/-- The first question is that about the creator. -/
theorem creator_asked_first : ∃ next,
    review (creationNaming "u-1") (Route.admission none).resource = .ask (.user "u-1") next :=
  ⟨_, rfl⟩

/-- Where this question fails, there is no other one. -/
theorem visits_creation {exchange : Exchange} {failure : Failure}
    (h : (testClient.handler (.user "u-1") exchange).reply = .error failure) :
    (review (creationNaming "u-1") (Route.admission none).resource).visits testClient.handler
      exchange = [(.user "u-1", exchange)] := by
  obtain ⟨next, hask⟩ := creator_asked_first
  rw [hask]
  simp only [Consultation.visits, h]

theorem plain_creator : (Query.user "u-1").Plain testClient :=
  Query.plain_of_any rfl rfl (by decide) nofun

/-- A connection that times out, and then an answer that there is no capacity. -/
def busyExchange : Exchange :=
  ⟨[.fault .connectTimeout "timed out", .response 503 (.text "busy")], []⟩

theorem busy_server_reported :
    testClient.Understands (.user "u-1") busyExchange ∧
    Answered (testClient.handler (.user "u-1") busyExchange).reply ∧
    ∃ message : Text,
      ((Route.admission none).answer 100 testClient.handler creationBody busyExchange).reply =
        .detail 500 ("Admission evaluation failed: " ++ message) := by
  have hrefused : ∃ failure,
      (testClient.handler (.user "u-1") busyExchange).reply = .error failure := by
    have hnone : (testClient.handler (.user "u-1") busyExchange).reply.toOption.isNone = true := by
      decide +kernel
    cases hreply : (testClient.handler (.user "u-1") busyExchange).reply with
    | ok found =>
      rw [hreply] at hnone
      cases hnone
    | error failure => exact ⟨failure, rfl⟩
  -- The timeout is transient and is tried again; the refusal behind it is final.
  have hdecides : busyExchange.Decides 2 (.response 503 (.text "busy")) := by
    refine ⟨1, by decide, rfl, fun k hk => ?_, .inr Reply.not_isTransient_response⟩
    obtain rfl : k = 0 := by omega
    exact ⟨.connectTimeout, "timed out", rfl, rfl⟩
  obtain ⟨hanswered, hplain, hservice⟩ := replies_answered_iff_understood testClient
  have hunderstands : testClient.Understands (.user "u-1") busyExchange :=
    (hplain testClient_isBase _ _ plain_creator).mpr
      ⟨_, hdecides, .error rfl (by decide) (by decide)⟩
  refine ⟨hunderstands, (hanswered _ _).mpr hunderstands, ?_⟩
  obtain ⟨hreported, -⟩ := hservice 100 none creationBody _ busyExchange ofBytes_creationBody
  obtain ⟨failure, hfailure⟩ := hrefused
  have hvisits := visits_creation hfailure
  rw [hvisits] at hreported
  refine (hreported fun visit hvisit => ?_).resolve_left ?_
  · rw [List.mem_singleton.mp hvisit]
    exact hunderstands
  · -- The refusal of the one question leaves no response.
    rintro ⟨response, hresponse, -⟩
    have hvisit := hvisits ▸ List.mem_singleton_self (Query.user "u-1", busyExchange)
    cases hresponse.symm.trans (Consultation.result_run_of_visit hvisit hfailure)

/-- A page in the place of an object. -/
def pageExchange : Exchange := ⟨[.response 200 (.text "<html>")], []⟩

/-- An ordinary question whose reply is a page: it is not answered, and the service breaks off. -/
theorem page_breaks_review_off :
    testClient.base.IsBase ∧ (Query.user "u-1").Plain testClient ∧
    (testClient.handler (.user "u-1") pageExchange).reply = .error (.notJson .malformed) ∧
    ¬ Answered (testClient.handler (.user "u-1") pageExchange).reply ∧
    ((Route.admission none).answer 100 testClient.handler creationBody pageExchange).reply =
      .broken := by
  have hreply : (testClient.handler (.user "u-1") pageExchange).reply =
      .error (.notJson .malformed) := by
    have hpage : (match (testClient.handler (.user "u-1") pageExchange).reply with
      | .error (.notJson .malformed) => true
      | _ => false) = true := by decide +kernel
    split at hpage
    · assumption
    · cases hpage
  -- The question fails, so it is the last one that the review asks.
  have hvisit : (Query.user "u-1", pageExchange) ∈
      (review (creationNaming "u-1") (Route.admission none).resource).visits
        testClient.handler pageExchange := by
    rw [visits_creation hreply]
    exact List.mem_singleton_self _
  have hescapes : Escapes (testClient.handler (.user "u-1") pageExchange).reply :=
    ⟨_, hreply, rfl⟩
  refine ⟨testClient_isBase, plain_creator, hreply, hescapes.not_answered, ?_⟩
  rw [reply_answer ofBytes_creationBody, Consultation.result_run_of_visit hvisit hreply]
  rfl

end AdmissionControl
