/-
  AdmissionControl.Proofs.ApiServer.Refinement

  Reviews over the API server and over a directory.

  A script of replies serves some questions when each of them finds, behind fewer faults than there
  are tries, a reply that tells the answer of the directory (`Serves`).  A request passes over the
  faults to that reply (`send_of_transient`) and reads the answer from it (`handler_of_sends`), so
  by induction over the consultation both runs go the same way, as long as each question can be
  sent.  One that cannot ends the run over the API server with a failure that no review over a
  directory has (`run_of_serves`, `Failure.OfSending`).
-/

import AdmissionControl.Proofs.ApiServer.Requests
import AdmissionControl.Proofs.ApiServer.Retries
import AdmissionControl.Proofs.Model.RoundTrip
import AdmissionControl.Proofs.Review.Outage

namespace AdmissionControl

open ApiServer

namespace ApiServer

/-! ## Replies that tell an answer -/

/-- The object of a user on the API server. -/
def userObject (user : User) : Json := .obj [
  ("metadata", .obj [("name", .str user.name)]),
  ("principalIds", UserInfo.texts user.principalIds)]

/-- The object of a setting with a value. -/
def settingObject (value : Text) : Json := .obj [("value", .str value)]

/-- The access review with a verdict. -/
def verdictObject (granted : Bool) : Json := .obj [("status", .obj [("allowed", .bool granted)])]

/-- A reply tells the answer to a question: the object of what there is, nothing found, or the
verdict on an access.  Its body reads as a JSON value of no more than a depth. -/
inductive Tells (depth : Nat) : (query : Query) → query.Reply → Reply → Prop where
  | user {name : Text} {user : User} {body : ReplyBody} : body.checkSendable = .ok () →
      body.value depth = .ok (userObject user) →
      Tells depth (.user name) (some user) (.response 200 body)
  | noUser {name : Text} {body : ReplyBody} : body.checkSendable = .ok () →
      Tells depth (.user name) none (.response 404 body)
  | setting {name value : Text} {body : ReplyBody} : body.checkSendable = .ok () →
      body.value depth = .ok (settingObject value) →
      Tells depth (.setting name) (some ⟨name, value⟩) (.response 200 body)
  | noSetting {name : Text} {body : ReplyBody} : body.checkSendable = .ok () →
      Tells depth (.setting name) none (.response 404 body)
  | access {check : AccessCheck} {granted : Bool} {body : ReplyBody} :
      body.checkSendable = .ok () → body.value depth = .ok (verdictObject granted) →
      Tells depth (.access check) granted (.response 201 body)

/-- The replies serve the questions of a client, each by a reply that tells its answer behind fewer
transient faults than there are tries. -/
inductive Serves (client : Client) (answers : Answers) : List Query → List Reply → Prop where
  | nil (rest : List Reply) : Serves client answers [] rest
  | cons {query : Query} {queries : List Query} {known : query.Reply} {reply : Reply}
      {faults rest : List Reply} : answers query = .ok known →
      Tells client.depth query known reply → faults.length < client.maxTries →
      (∀ fault ∈ faults, fault.IsTransient) → Serves client answers queries rest →
      Serves client answers (query :: queries) (faults ++ reply :: rest)

theorem userOf_userObject (name : Text) (user : User) :
    userOf name (userObject user) = .ok user := by
  obtain ⟨own, principalIds⟩ := user
  have hdecoded : User.decodeParts (.str own) (UserInfo.texts principalIds) =
      .value ⟨own, principalIds⟩ :=
    Decoded.ap_eq_value rfl
      (Decoded.under_eq_value (Decoder.undoes_list Decoder.undoes_text principalIds) _)
  -- The reply is read as a directory reads its entry.  An empty list of principals is passed over
  -- and taken as the default, which is empty too.
  have hread : userOf name (userObject ⟨own, principalIds⟩) =
      Directory.userOf own (UserInfo.texts principalIds) := by
    cases principalIds <;> rfl
  rw [hread, Directory.userOf, hdecoded]
  rfl

theorem settingOf_settingObject (name value : Text) :
    settingOf name (settingObject value) = .ok ⟨name, value⟩ := by
  have hread : settingOf name (settingObject value) = Directory.settingOf name
      ((firstNontrivial [("value", .str value)] ["value", "default"]).getD (.str "")) := rfl
  -- An empty value is passed over as well, for an empty default.
  have hvalue : (firstNontrivial [("value", .str value)] ["value", "default"]).getD (.str "") =
      .str value := by
    obtain ⟨symbols⟩ := value
    cases symbols <;> rfl
  rw [hread, hvalue]
  rfl

/-- What tells an answer is a response with a body that can be sent. -/
theorem Tells.response {depth : Nat} {query : Query} {known : query.Reply} {reply : Reply}
    (h : Tells depth query known reply) :
    ∃ status body, reply = .response status body ∧ body.checkSendable = .ok () := by
  cases h with
  | user hbody _ => exact ⟨_, _, rfl, hbody⟩
  | noUser hbody => exact ⟨_, _, rfl, hbody⟩
  | setting hbody _ => exact ⟨_, _, rfl, hbody⟩
  | noSetting hbody => exact ⟨_, _, rfl, hbody⟩
  | access hbody _ => exact ⟨_, _, rfl, hbody⟩

/-- The answer that a reply tells is read from it. -/
theorem Tells.read {depth : Nat} {query : Query} {known : query.Reply} {reply : Reply}
    (h : Tells depth query known reply) {handled : Handled Exchange (Option Json)}
    (hreply : handled.reply = (resolve depth query.subject reply).2) :
    ∃ log, query.read handled = ⟨log, .ok known, handled.state⟩ := by
  obtain ⟨log, result, state⟩ := handled
  simp only at hreply
  subst hreply
  cases h with
  | user _ hvalue =>
    refine ⟨log, ?_⟩
    simp [Query.read, readFound, resolve, hvalue, Except.map, userOf_userObject]
  | noUser _ => exact ⟨log, rfl⟩
  | setting _ hvalue =>
    refine ⟨log, ?_⟩
    simp [Query.read, readFound, resolve, hvalue, Except.map, settingOf_settingObject]
  | noSetting _ => exact ⟨log, rfl⟩
  -- The verdict is read from the object that was written for it, and may be logged.
  | @access check granted body _ hvalue =>
    have hresolved : (resolve depth (Query.access check).subject (.response 201 body)).2 =
        .ok (some (verdictObject granted)) := by
      simp [resolve, hvalue, Except.map]
    rw [hresolved]
    cases granted <;> exact ⟨_, rfl⟩

end ApiServer

/-! ## Questions to the API server -/

/-- Failures of a URL or an encoding, which keep a question from being sent, or its reply from
counting. -/
inductive Failure.OfSending : Failure → Prop where
  | invalidUrl : OfSending .invalidUrl
  | unencodable : OfSending .unencodable
  | invalidHostName (cause : Url.LabelError) : OfSending (.invalidHostName cause)
  | noScheme : OfSending .noScheme

namespace ApiServer.Client

variable {client : Client} {query : Query} {known : query.Reply} {reply : Reply}
  {faults : List Reply} (rest : List Reply)

/-- A prepared request is sent past the faults; the reply behind them counts if the URL has a
scheme. -/
theorem request_of_prepared {url : Url} {request : Request}
    (hprepare : client.prepare query = .ok (url, request))
    (htells : Tells client.depth query known reply)
    (htries : faults.length < client.maxTries) (hfaults : ∀ fault ∈ faults, fault.IsTransient)
    (sent : List Request) :
    ∃ log after, client.request query.subject query.body? ⟨faults ++ reply :: rest, sent⟩ =
      ⟨log,
        if url.beginsWithScheme then (resolve client.depth query.subject reply).2
          else .error .noScheme,
        ⟨rest, after⟩⟩ := by
  obtain ⟨status, body, rfl, hbody⟩ := htells.response
  have hsend : Exchange.send request (client.maxTries - 1)
      ⟨faults ++ .response status body :: rest, sent⟩ = _ :=
    Exchange.send_of_transient request hfaults (Nat.le_sub_one_of_lt htries) sent
  rw [request_eq, hprepare]
  simp only [hsend, resolveFrom, hbody]
  split <;> exact ⟨_, _, rfl⟩

/-- A question that can be sent is answered as the reply behind the faults tells, and the replies
behind that one are left. -/
theorem handler_of_sends (hsends : client.Sends query)
    (htells : Tells client.depth query known reply)
    (htries : faults.length < client.maxTries) (hfaults : ∀ fault ∈ faults, fault.IsTransient)
    (sent : List Request) :
    ∃ log after, client.handler query ⟨faults ++ reply :: rest, sent⟩ =
      ⟨log, .ok known, ⟨rest, after⟩⟩ := by
  obtain ⟨url, request, hprepare, hscheme⟩ := hsends
  obtain ⟨log, after, hrequest⟩ := request_of_prepared rest hprepare htells htries hfaults sent
  rw [if_pos hscheme] at hrequest
  rw [Query.handler_eq, hrequest]
  obtain ⟨more, hread⟩ :=
    @Tells.read _ query known reply htells
      ⟨log, (resolve client.depth query.subject reply).2, ⟨rest, after⟩⟩ rfl
  exact ⟨more, after, hread⟩

/-- A question that cannot be sent fails. -/
theorem handler_of_not_sends (hsends : ¬ client.Sends query)
    (htells : Tells client.depth query known reply)
    (htries : faults.length < client.maxTries) (hfaults : ∀ fault ∈ faults, fault.IsTransient)
    (sent : List Request) :
    ∃ failure, (client.handler query ⟨faults ++ reply :: rest, sent⟩).reply = .error failure ∧
      failure.OfSending := by
  cases hprepare : client.prepare query with
  | error failure =>
    -- Nothing is sent, and the script is left as it was.
    have hrequest : client.request query.subject query.body? ⟨faults ++ reply :: rest, sent⟩ =
        ⟨[], .error failure, ⟨faults ++ reply :: rest, sent⟩⟩ := by
      rw [request_eq, hprepare]
    refine ⟨failure, ?_, ?_⟩
    · rw [Query.handler_eq, hrequest]
      exact Query.read_of_error rfl
    · rcases prepare_error hprepare with rfl | rfl | ⟨cause, rfl⟩
      · exact .invalidUrl
      · exact .unencodable
      · exact .invalidHostName cause
  | ok prepared =>
    -- The request is sent and answered, but a reply without a scheme does not count.
    obtain ⟨url, request⟩ := prepared
    have hscheme : ¬ url.beginsWithScheme = true := fun h => hsends ⟨url, request, hprepare, h⟩
    obtain ⟨log, after, hrequest⟩ := request_of_prepared rest hprepare htells htries hfaults sent
    rw [if_neg hscheme] at hrequest
    refine ⟨.noScheme, ?_, .noScheme⟩
    rw [Query.handler_eq, hrequest]
    exact Query.read_of_error rfl

end ApiServer.Client

/-! ## Whole runs -/

/-- Served by replies, a run over the API server ends as under the answers if each question can be
sent.  Otherwise it ends with the failure of one that cannot. -/
theorem Consultation.run_of_serves {answers : Answers} {client : Client} (c : Consultation α)
    {replies : List Reply} (hserves : Serves client answers (c.asked answers) replies)
    (sent : List Request) :
    ((∀ query ∈ c.asked answers, client.Sends query) ∧
      (c.run client.handler ⟨replies, sent⟩).result = c.result answers) ∨
    ((∃ query ∈ c.asked answers, ¬ client.Sends query) ∧ ∃ failure,
      (c.run client.handler ⟨replies, sent⟩).result = .error failure ∧ failure.OfSending) := by
  -- Over the consultation: the replies that a question leaves serve the questions behind it.
  induction c generalizing replies sent with
  | done result => exact .inl ⟨by simp [asked], rfl⟩
  | log record rest ih => exact ih hserves sent
  | ask query next ih =>
    simp only [asked] at hserves ⊢
    cases hserves with
    | @cons _ _ known reply faults rest hanswer htells htries hfaults hrest =>
      rw [hanswer] at hrest ⊢
      by_cases hsends : client.Sends query
      · obtain ⟨log, after, hhandled⟩ :=
          Client.handler_of_sends rest hsends htells htries hfaults sent
        have hrun : ((Consultation.ask query next).run client.handler
            ⟨faults ++ reply :: rest, sent⟩).result =
              ((next known).run client.handler ⟨rest, after⟩).result := by
          simp only [run, hhandled]
          rfl
        rw [hrun, result, hanswer]
        rcases ih known hrest after with ⟨hall, hresult⟩ | ⟨⟨other, hother, hnot⟩, hfailure⟩
        · exact .inl ⟨List.forall_mem_cons.mpr ⟨hsends, hall⟩, hresult⟩
        · exact .inr ⟨⟨other, List.mem_cons_of_mem _ hother, hnot⟩, hfailure⟩
      · obtain ⟨failure, hfailure, hreason⟩ :=
          Client.handler_of_not_sends rest hsends htells htries hfaults sent
        refine .inr ⟨⟨query, List.mem_cons_self, hsends⟩, failure, ?_, hreason⟩
        simp only [run, hfailure]

theorem Directory.answers_eq_collaborators {directory : Directory} (h : directory.outage = {}) :
    directory.answers = directory.collaborators.answers := by
  funext query
  rw [← directory.handler_gives query [], gives_collaborators h query []]

/-- A review over the API server, served with the answers of a directory behind transient faults,
ends as the review over that directory exactly when each of its questions can be sent.  Every
question can whose texts are characters, none of them a control character in a URL, if the URL is
not too long; and none can with a name that has a control character or half of a surrogate pair. -/
theorem review_over_apiServer_refines_directory (client : Client) (directory : Directory)
    (admissionReview : Json) (resource : Text) (replies : List Reply) (sent : List Request)
    (checks : List AccessCheck) (houtage : directory.outage = {}) :
    let consultation := review admissionReview resource
    (Serves client directory.answers (consultation.asked directory.answers) replies →
      ((consultation.run client.handler ⟨replies, sent⟩).result =
          (consultation.run directory.handler checks).result ↔
        ∀ query ∈ consultation.asked directory.answers, client.Sends query)) ∧
    (client.base.IsBase → ∀ query : Query, query.Plain client → client.Sends query) ∧
    (∀ name : Text, (∃ symbol ∈ name.symbols, symbol.Refused) →
      ¬ client.Sends (.user name) ∧ ¬ client.Sends (.setting name)) := by
  intro consultation
  refine ⟨fun hserves => ?_, fun hbase query hplain => Client.sends_of_plain hbase hplain,
    fun name hname => ?_⟩
  · rw [Consultation.result_run directory.handler_gives]
    have hworking : ∀ query failure, directory.answers query ≠ .error failure := by
      rw [Directory.answers_eq_collaborators houtage]
      exact directory.collaborators.answers_ne_error
    have hfails : ∀ failure, (review admissionReview resource).result directory.answers =
        .error failure → ¬ failure.OfSending := by
      intro failure hfailure hsending
      rcases (failsOnly_review admissionReview resource).of_result hworking hfailure with
        hrequest | ⟨rfl, -⟩
      · cases hsending <;> cases hrequest
      · cases hsending
    -- A failure to send differs from every failure over the directory.
    rcases Consultation.run_of_serves _ hserves sent with
      ⟨hall, hresult⟩ | ⟨⟨query, hquery, hnot⟩, failure, hfailure, hreason⟩
    · exact ⟨fun _ => hall, fun _ => hresult⟩
    · constructor
      · intro hsame
        exact absurd hreason (hfails failure (hsame.symm.trans hfailure))
      · intro hall
        exact absurd (hall query hquery) hnot
  · obtain ⟨symbol, hsymbol, hrefused⟩ := hname
    exact ⟨Client.not_sends_of_refused ⟨symbol, List.mem_append_right _ hsymbol, hrefused⟩,
      Client.not_sends_of_refused ⟨symbol, List.mem_append_right _ hsymbol, hrefused⟩⟩

/-- A client of an API server at a host of its own. -/
def testClient : Client where
  base := ⟨"https".toList, ⟨[], "kubernetes.test".toList, false⟩, ['/'], none⟩
  authorization := none
  maxTries := 3
  depth := 100

theorem testClient_isBase : testClient.base.IsBase := ⟨by decide, rfl, _, rfl⟩

/-- A directory with one user. -/
def oneUserDirectory : Directory where
  users := [("u-1", ⟨"u-1", ["local://u-1"]⟩)]

/-- A review of the creation of a cluster that names its creator. -/
def creationNaming (creator : Text) : Json := .obj [("request", .obj [
  ("uid", .str "1"), ("operation", .str "CREATE"),
  ("resource", .obj [("resource", .str "clusters")]),
  ("object", .obj [("metadata", .obj [("annotations", .obj [
    (ClusterRules.creatorId, .str creator)])])])])]

/-- Two connections that time out, the user, and no setting. -/
def slowReplies : List Reply := [
  .fault .connectTimeout "", .fault .connectTimeout "",
  .response 200 (.json (userObject ⟨"u-1", ["local://u-1"]⟩)), .response 404 (.text "")]

theorem creation_refined_past_timeouts :
    Serves testClient oneUserDirectory.answers
      ((review (creationNaming "u-1") "").asked oneUserDirectory.answers) slowReplies ∧
    ((review (creationNaming "u-1") "").run testClient.handler ⟨slowReplies, []⟩).result =
      ((review (creationNaming "u-1") "").run oneUserDirectory.handler []).result ∧
    ¬ testClient.Sends (.user "u\n1") := by
  have hasked : (review (creationNaming "u-1") "").asked oneUserDirectory.answers =
      [.user "u-1", .setting ClusterRules.versionManagementSetting] := rfl
  have hserves : Serves testClient oneUserDirectory.answers
      ((review (creationNaming "u-1") "").asked oneUserDirectory.answers) slowReplies := by
    rw [hasked]
    show Serves _ _ _ ([.fault .connectTimeout "", .fault .connectTimeout ""] ++
      .response 200 (.json (userObject ⟨"u-1", ["local://u-1"]⟩)) ::
        ([] ++ .response 404 (.text "") :: []))
    -- Two timeouts stand in front of the reply on the user, none before the one on the setting.
    refine .cons rfl (.user rfl rfl) (by decide) ?_ (.cons rfl (.noSetting rfl) (by decide) ?_
      (.nil []))
    · intro fault hfault
      simp only [List.mem_cons, List.not_mem_nil, or_false, or_self] at hfault
      exact ⟨.connectTimeout, "", hfault, rfl⟩
    · exact fun fault hfault => absurd hfault List.not_mem_nil
  have hcontrol : ∀ cs : List Char, cs.any Url.isControl = false →
      ∀ c ∈ cs, Url.isControl c = false :=
    fun cs hnone c hc => Bool.eq_false_of_not_eq_true (List.any_eq_false.mp hnone c hc)
  -- The names asked for hold no control character, so each question can be sent.
  have hplain : ∀ query ∈ (review (creationNaming "u-1") "").asked oneUserDirectory.answers,
      query.Plain testClient := by
    rw [hasked, List.forall_mem_cons, List.forall_mem_cons]
    exact ⟨⟨⟨_, rfl, hcontrol _ rfl, by decide⟩, nofun⟩,
      ⟨⟨_, rfl, hcontrol _ rfl, by decide⟩, nofun⟩,
      fun query hquery => absurd hquery List.not_mem_nil⟩
  obtain ⟨hrefines, hsends, hrefused⟩ := review_over_apiServer_refines_directory testClient
    oneUserDirectory (creationNaming "u-1") "" slowReplies [] [] rfl
  refine ⟨hserves, (hrefines hserves).mpr fun query hquery =>
    hsends testClient_isBase query (hplain query hquery), ?_⟩
  exact (hrefused "u\n1" ⟨.char '\n', by decide, by unfold Symbol.Refused; decide⟩).1

/-- A newline in the name of a creator who does not exist: the directory denies the creation, and
the API server is not even asked. -/
theorem creation_naming_newline_not_refined :
    testClient.base.IsBase ∧ oneUserDirectory.outage = {} ∧
    Serves testClient oneUserDirectory.answers
      ((review (creationNaming "u\n1") "").asked oneUserDirectory.answers)
      [.response 404 (.text "")] ∧
    ((review (creationNaming "u\n1") "").run testClient.handler
      ⟨[.response 404 (.text "")], []⟩).result = .error .invalidUrl ∧
    ∃ response, ((review (creationNaming "u\n1") "").run oneUserDirectory.handler []).result =
      .ok response ∧ response.allowed = false := by
  have hasked : (review (creationNaming "u\n1") "").asked oneUserDirectory.answers =
      [.user "u\n1"] := rfl
  refine ⟨testClient_isBase, rfl, ?_, ?_, ?_⟩
  · rw [hasked]
    show Serves _ _ _ ([] ++ .response 404 (.text "") :: [])
    -- The server knows no such user.
    exact .cons rfl (.noUser rfl) (by decide) (fun fault hfault => absurd hfault List.not_mem_nil)
      (.nil [])
  · -- Over the client the newline is refused before anything is sent.
    have hrefused : (match ((review (creationNaming "u\n1") "").run testClient.handler
        ⟨[.response 404 (.text "")], []⟩).result with
      | .error .invalidUrl => true
      | _ => false) = true := by decide +kernel
    split at hrefused
    · assumption
    · cases hrefused
  · -- Over the directory the creation is denied, for there is no such user.
    have hdenied : ((review (creationNaming "u\n1") "").run oneUserDirectory.handler
        []).result.toOption.map (·.allowed) = some false := by decide +kernel
    obtain ⟨response, hresponse, hallowed⟩ := Option.map_eq_some_iff.mp hdenied
    exact ⟨response, Except.eq_ok_of_toOption hresponse, hallowed⟩

end AdmissionControl
