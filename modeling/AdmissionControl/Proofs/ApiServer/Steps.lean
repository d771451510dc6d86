/-
  AdmissionControl.Proofs.ApiServer.Steps

  What one question takes of the replies, and what a session does.

  A question whose request can be built takes the transient faults in front, as far as its tries
  go, and the reply behind them; it sends its request as often, and this last reply says what
  comes of it (`state_handler`, `settle_handler`).  One whose request cannot be built takes
  nothing.  In both cases as many replies are taken as requests are sent (`replies_handler`).  This
  carries over to a whole consultation (`replies_run`), so each step of a session begins at the
  first reply that the steps before it have left (`steps_append`).
-/

import AdmissionControl.ApiServer.Session
import AdmissionControl.Proofs.ApiServer.Traffic

namespace AdmissionControl

open ApiServer

/-! ## What a reply says -/

namespace Query

/-- What is made of the reply to a question that is asked for itself. -/
def settle : (query : Query) → query.Reply → Except Failure SessionAnswer
  | .user _, some found => .ok (.user found)
  | .user name, none => .error (.notFound "user" name)
  | .setting _, some found => .ok (.setting found)
  | .setting name, none => .error (.notFound "setting" name)
  | .access _, granted => .ok (.verdict granted)

/-- What a value says for a question. -/
def answer : Query → Json → Except Failure SessionAnswer
  | .user name, j => (userOf name j).map .user
  | .setting name, j => (settingOf name j).map .setting
  | .access _, j => (accessStatusOf j).map fun status => .verdict (grants status)

/-- What a reply says for a question: a fault or an error by its status is a failure of the
collaborator, and everything else is read as a value, to a depth. -/
def outcome (query : Query) (depth : Nat) : ApiServer.Reply → Except Failure SessionAnswer
  | .fault _ reason =>
    .error (.unreachable query.subject.method query.subject.kind query.subject.name reason)
  | .response status body =>
    if status = 404 then .error (.notFound query.subject.kind query.subject.name)
    else if 400 ≤ status ∧ status ≤ 599 then
      .error (.refused query.subject.method query.subject.kind query.subject.name status)
    else body.value depth >>= query.answer

variable {query : Query} {handled : Handled Exchange (Option Json)}

/-- That nothing was found is a failure for every question that is asked for itself. -/
theorem settle_of_none (h : handled.reply = .ok none) :
    (query.read handled).reply >>= query.settle =
      .error (.notFound query.subject.kind query.subject.name) := by
  cases query with
  | user name => simp only [read, readFound, h, Except.ok_bind]; rfl
  | setting name => simp only [read, readFound, h, Except.ok_bind]; rfl
  | access check => simp only [read, readVerdict, h]; rfl

theorem settle_of_value {j : Json} (h : handled.reply = .ok (some j)) :
    (query.read handled).reply >>= query.settle = query.answer j := by
  cases query with
  | user name =>
    simp only [read, readFound, h, Except.ok_bind, answer]
    cases userOf name j <;> rfl
  | setting name =>
    simp only [read, readFound, h, Except.ok_bind, answer]
    cases settingOf name j <;> rfl
  | access check =>
    simp only [read, readVerdict, h, answer]
    cases accessStatusOf j with
    | error failure => rfl
    | ok status =>
      -- A verdict that denies is also logged.
      simp only [Except.map]
      cases grants status <;> rfl

/-- What is made of a reply is what it says. -/
theorem settle_of_resolve {depth : Nat} {reply : ApiServer.Reply}
    (h : handled.reply = (resolve depth query.subject reply).2) :
    (query.read handled).reply >>= query.settle = query.outcome depth reply := by
  have hfails : ∀ {failure : Failure}, handled.reply = .error failure →
      (query.read handled).reply >>= query.settle = .error failure := by
    intro failure hfailure
    rw [read_of_error hfailure, Except.error_bind]
  -- The cases are those of resolving a reply, and the outcome is stated along the same ones.
  cases reply with
  | fault fault reason => exact hfails h
  | response status body =>
    rw [resolve] at h
    rw [outcome]
    by_cases hmissing : status = 404
    · rw [if_pos hmissing] at h ⊢
      exact settle_of_none h
    · rw [if_neg hmissing] at h ⊢
      by_cases hstatus : 400 ≤ status ∧ status ≤ 599
      · rw [if_pos (by simpa using hstatus)] at h
        rw [if_pos hstatus]
        exact hfails h
      · rw [if_neg (by simpa using hstatus)] at h
        rw [if_neg hstatus]
        cases hvalue : body.value depth with
        | error failure =>
          rw [hvalue] at h
          exact hfails h
        | ok j =>
          rw [hvalue] at h
          exact settle_of_value h

end Query

namespace ApiServer

/-! ## What a question takes -/

namespace Client

variable {client : Client} {query : Query} {url : Url} {request : Request}

/-- How many faults in front of the replies a question gets past. -/
def passed (client : Client) (replies : List Reply) : Nat :=
  min (client.maxTries - 1) (faultsAhead replies)

/-- A question takes the faults that it gets past and one more reply, and sends its request once for
each of them. -/
theorem state_handler (h : client.prepare query = .ok (url, request)) (exchange : Exchange) :
    (client.handler query exchange).state =
      ⟨exchange.replies.drop (client.passed exchange.replies + 1),
        exchange.sent ++ List.replicate (client.passed exchange.replies + 1) request⟩ := by
  rw [Query.handler_eq, read_state, request_eq, h]
  simp only [Exchange.send_eq]
  rfl

/-- The last reply that a question takes says what comes of it, if it counts. -/
theorem settle_handler (h : client.prepare query = .ok (url, request)) (exchange : Exchange) :
    let last := exchange.replyAt (client.passed exchange.replies)
    (last.Counts url →
      (client.handler query exchange).reply >>= query.settle =
        query.outcome client.depth last) ∧
    (¬ last.Counts url → Escapes (client.handler query exchange).reply) := by
  intro last
  -- What counts is the reply behind the faults that were passed.
  have hreply : (client.request query.subject query.body? exchange).reply =
      (resolveFrom client.depth url query.subject last).2 := by
    rw [request_eq, h]
    simp only [Exchange.send_eq]
    rfl
  rw [Query.handler_eq]
  constructor
  · intro hcounts
    rw [resolveFrom_of_counts hcounts] at hreply
    exact Query.settle_of_resolve hreply
  · exact escapes_of_not_counts hreply

/-- A question takes a reply for each request that it sends. -/
theorem replies_handler (client : Client) (query : Query) (exchange : Exchange) :
    (client.handler query exchange).state.replies =
      exchange.replies.drop (client.block (query, exchange)).length := by
  rw [block, Exchange.since]
  cases hprepare : client.prepare query with
  | error failure =>
    rw [(handler_of_prepare_error hprepare exchange).1, List.drop_length]
    rfl
  | ok prepared =>
    obtain ⟨url, request⟩ := prepared
    rw [state_handler hprepare exchange, List.drop_left, List.length_replicate]

/-- So does every run. -/
theorem replies_run (client : Client) (c : Consultation α) (exchange : Exchange) :
    (c.run client.handler exchange).state.replies =
      exchange.replies.drop ((c.visits client.handler exchange).flatMap client.block).length := by
  induction c generalizing exchange with
  | done result => rfl
  | log record rest ih => exact ih exchange
  | ask query next ih =>
    have hquestion := client.replies_handler query exchange
    simp only [Consultation.run, Consultation.visits]
    cases (client.handler query exchange).reply with
    | error failure => simpa using hquestion
    | ok reply =>
      show ((next reply).run client.handler _).state.replies = _
      rw [ih reply, hquestion, List.drop_drop, List.flatMap_cons, List.length_append]

/-! ## Sessions -/

/-- A step leaves the replies behind those for its requests. -/
theorem step_replies (client : Client) (replies : List Reply) (step : SessionRequest) :
    (client.step replies step).2 =
      replies.drop (client.step replies step).1.requests.length := by
  have hsent := client.sent_run step.consult ⟨replies, []⟩
  rw [List.nil_append] at hsent
  show (step.consult.run client.handler ⟨replies, []⟩).state.replies = replies.drop
    (step.consult.run client.handler ⟨replies, []⟩).state.sent.length
  rw [hsent, replies_run]

/-- The steps of a session begin at the first reply that the steps before them have left. -/
theorem steps_append (client : Client) (replies : List Reply)
    (before later : List SessionRequest) :
    client.steps replies (before ++ later) = client.steps replies before ++
      client.steps (replies.drop ((client.steps replies before).flatMap StepReport.requests).length)
        later := by
  induction before generalizing replies with
  | nil => rfl
  | cons step rest ih =>
    have hleft := client.step_replies replies step
    simp only [List.cons_append, steps, List.flatMap_cons, List.length_append]
    rw [ih, hleft, List.drop_drop]

end Client

end ApiServer

/-! ## Steps that ask one question -/

/-- A step asks a question: a lookup does, and a check whose parts decode. -/
inductive SessionRequest.Asks : SessionRequest → Query → Prop where
  | user (name : Text) : Asks (.user name) (.user name)
  | setting (name : Text) : Asks (.setting name) (.setting name)
  | check {subject attributes : Json} {info : UserInfo} {resource : ResourceAttributes}
      (verb : Text) :
      (Decoder.orTrivial {} UserInfo.decode subject).report "UserInfo" = .ok info →
      (Decoder.orTrivial {} ResourceAttributes.decode attributes).report "ResourceAttributes" =
        .ok resource →
      Asks (.check subject verb attributes) (.access ⟨info, verb, resource⟩)

namespace SessionRequest.Asks

variable {step : SessionRequest} {query : Query}

/-- A step that asks one question does nothing else. -/
theorem consult_eq (h : step.Asks query) :
    step.consult = .ask query fun reply => .done (query.settle reply) := by
  cases h with
  | user name =>
    refine congrArg (Consultation.ask (.user name)) (funext fun found => ?_)
    cases found <;> rfl
  | setting name =>
    refine congrArg (Consultation.ask (.setting name)) (funext fun found => ?_)
    cases found <;> rfl
  | check verb hsubject hattributes =>
    rw [SessionRequest.consult, consultDecoded, consultDecoded, hsubject, hattributes]
    rfl

/-- The step gives what is made of the reply, and sends what the question sends. -/
theorem step_eq (h : step.Asks query) (client : Client) (replies : List Reply) :
    let handled := client.handler query ⟨replies, []⟩
    client.step replies step =
      (⟨handled.reply >>= query.settle, handled.log, handled.state.sent⟩,
        handled.state.replies) := by
  intro handled
  rw [Client.step, h.consult_eq]
  simp only [Consultation.run]
  cases (client.handler query ⟨replies, []⟩).reply with
  | error failure => simp only [handled, Except.error_bind]
  | ok reply => simp only [handled, Except.ok_bind, Outcome.after, List.append_nil]

end SessionRequest.Asks

/-- Over an API server with at least one try, a question whose request can be built sends this
request once for each transient fault in front and once more, as far as there are tries, and takes
the reply to each.  The last of them alone says what comes of the question, and it is transient only
if no try is left.  A question whose request cannot be built sends and takes nothing and fails with
what is not reported; all ordinary questions can be sent.  So a lookup and a check do in a session,
and the steps of a session begin at the first reply that the steps before them have not taken. -/
theorem replies_taken_in_turn (client : Client) (htries : 1 ≤ client.maxTries) :
    (∀ (query : Query) (url : Url) (request : Request) (exchange : Exchange),
      client.prepare query = .ok (url, request) →
      let handled := client.handler query exchange
      let tries := min client.maxTries (faultsAhead exchange.replies + 1)
      let last := exchange.replyAt (tries - 1)
      handled.state = ⟨exchange.replies.drop tries,
        exchange.sent ++ List.replicate tries request⟩ ∧
      (last.IsTransient → tries = client.maxTries) ∧
      (last.Counts url → handled.reply >>= query.settle = query.outcome client.depth last) ∧
      (¬ last.Counts url → Escapes handled.reply)) ∧
    (∀ (query : Query) (exchange : Exchange) (failure : Failure),
      client.prepare query = .error failure →
      (client.handler query exchange).state = exchange ∧
      (client.handler query exchange).reply = .error failure ∧ failure.isReported = false) ∧
    (client.base.IsBase → ∀ query : Query, query.Plain client → client.Sends query) ∧
    (∀ (step : SessionRequest) (query : Query) (replies : List Reply), step.Asks query →
      let handled := client.handler query ⟨replies, []⟩
      client.step replies step =
        (⟨handled.reply >>= query.settle, handled.log, handled.state.sent⟩,
          handled.state.replies)) ∧
    (∀ (replies : List Reply) (before later : List SessionRequest),
      let taken := ((client.steps replies before).flatMap StepReport.requests).length
      client.steps replies (before ++ later) =
        client.steps replies before ++ client.steps (replies.drop taken) later) := by
  refine ⟨?_, ?_, fun hbase query hplain => Client.sends_of_plain hbase hplain,
    fun step query replies hasks => hasks.step_eq client replies, client.steps_append⟩
  · intro query url request exchange hprepare handled tries last
    have hpassed : client.passed exchange.replies = tries - 1 := by
      rw [Client.passed]
      omega
    have htaken : tries - 1 + 1 = tries := by omega
    have hstate := Client.state_handler hprepare exchange
    have hsettle := Client.settle_handler hprepare exchange
    rw [hpassed, htaken] at hstate
    rw [hpassed] at hsettle
    refine ⟨hstate, fun htransient => ?_, hsettle⟩
    -- The last reply is a fault only where a try is missing for the reply behind them.
    by_contra hfew
    have hbehind : tries - 1 = faultsAhead exchange.replies := by omega
    have hlast : last = exchange.replyAt (faultsAhead exchange.replies) :=
      congrArg exchange.replyAt hbehind
    rw [hlast] at htransient
    exact Exchange.not_isTransient_replyAt htransient
  · intro query exchange failure hprepare
    obtain ⟨hstate, hreply⟩ := Client.handler_of_prepare_error hprepare exchange
    exact ⟨hstate, hreply, Client.isReported_of_prepare_error hprepare⟩

/-- No such user behind a fault, three faults, and a setting. -/
def unsteadyReplies : List Reply := [
  .fault .connectTimeout "timed out", .response 404 (.text ""),
  .fault .connectError "refused", .fault .poolTimeout "full", .fault .connectError "refused",
  .response 200 (.json (settingObject "v"))]

theorem unsteady_session :
    1 ≤ testClient.maxTries ∧ testClient.base.IsBase ∧ (Query.user "u-1").Plain testClient ∧
    (Query.setting "s").Plain testClient ∧
    (∃ log request, testClient.steps unsteadyReplies [.user "u-1", .setting "s"] =
      ⟨.error (.notFound "user" "u-1"), log, List.replicate 2 request⟩ ::
        testClient.steps (unsteadyReplies.drop 2) [.setting "s"]) ∧
    ∃ log request, testClient.steps (unsteadyReplies.drop 2) [.setting "s"] =
      [⟨.error (.unreachable "GET" "setting" "s" "refused"), log, List.replicate 3 request⟩] := by
  have htries : 1 ≤ testClient.maxTries := by decide
  have hsetting : (Query.setting "s").Plain testClient :=
    Query.plain_of_any rfl rfl (by decide) nofun
  obtain ⟨htaken, -, hsends, hstep, hsession⟩ := replies_taken_in_turn testClient htries
  obtain ⟨url, request, hprepare, hscheme⟩ := hsends testClient_isBase _ plain_creator
  obtain ⟨url', request', hprepare', -⟩ := hsends testClient_isBase _ hsetting
  -- The first question takes two replies, so the second one starts behind them.
  obtain ⟨hstate, -, houtcome, -⟩ := htaken _ url request ⟨unsteadyReplies, []⟩ hprepare
  obtain ⟨hstate', -, houtcome', -⟩ :=
    htaken _ url' request' ⟨unsteadyReplies.drop 2, []⟩ hprepare'
  refine ⟨htries, testClient_isBase, plain_creator, hsetting,
    ⟨(testClient.handler (.user "u-1") ⟨unsteadyReplies, []⟩).log, request, ?_⟩,
    ⟨(testClient.handler (.setting "s") ⟨unsteadyReplies.drop 2, []⟩).log, request', ?_⟩⟩
  · -- One step alone, and then both of them.
    have hone : testClient.steps unsteadyReplies [.user "u-1"] =
        [⟨.error (.notFound "user" "u-1"),
          (testClient.handler (.user "u-1") ⟨unsteadyReplies, []⟩).log,
          List.replicate 2 request⟩] := by
      rw [Client.steps, hstep _ _ _ (.user "u-1"), houtcome ⟨rfl, hscheme⟩, hstate]
      rfl
    have hboth := hsession unsteadyReplies [.user "u-1"] [.setting "s"]
    rw [hone] at hboth
    exact hboth
  · rw [Client.steps, hstep _ _ _ (.setting "s"), houtcome' trivial, hstate']
    rfl

/-- A name with a newline: the server would be asked once and knows no such user, but nothing is
sent. -/
theorem newline_name_not_sent :
    testClient.base.IsBase ∧
    min testClient.maxTries (faultsAhead [.response 404 (.text "")] + 1) = 1 ∧
    (Query.user "u\n1").outcome testClient.depth (.response 404 (.text "")) =
      .error (.notFound "user" "u\n1") ∧
    (testClient.step [.response 404 (.text "")] (.user "u\n1")).1.requests = [] ∧
    (testClient.step [.response 404 (.text "")] (.user "u\n1")).1.result =
      .error .invalidUrl := by
  have hfollow : testClient.base.follow
      (Text.ofChars "/apis/management.cattle.io/v3/users/u\n1".toList) = .error .invalidUrl :=
    Url.follow_of_control (by decide : '\n' ∈ _) (by decide)
  -- The URL is refused, so there is no request to send.
  have hprepare : testClient.prepare (.user "u\n1") = .error .invalidUrl :=
    congrArg (· >>= _) hfollow
  obtain ⟨hstate, hreply⟩ :=
    Client.handler_of_prepare_error hprepare ⟨[.response 404 (.text "")], []⟩
  have hstep := (SessionRequest.Asks.user "u\n1").step_eq testClient [.response 404 (.text "")]
  refine ⟨testClient_isBase, rfl, rfl, ?_, ?_⟩
  · rw [hstep, hstate]
  · rw [hstep, hreply]
    rfl

end AdmissionControl
