/-
  AdmissionControl.Proofs.ApiServer.Traffic

  What a review sends to the API server.

  A question sends a block of requests, all the same, as often as there are tries at most
  (`Client.asks_block`), and a run sends the blocks of its questions one after the other
  (`Client.sent_run`).  The questions of a review are those that the rules for clusters may ask, in
  order, so there are three blocks at most, and none for anything but a cluster that is written.
  The block for the creator reads the user who is named only if the name is one segment of a path
  (`Client.Asks.reads_iff`).

  A question that fails is the last one (`Client.run_of_failed_visit`), and it does if its block
  ends on a reply that says an error (`Reply.IsErrorFor`).
-/

import AdmissionControl.Proofs.ApiServer.Names
import AdmissionControl.Proofs.ApiServer.Replies
import AdmissionControl.Proofs.Review.Branches

namespace AdmissionControl

open ApiServer Consultation Url

namespace ApiServer

/-! ## Blocks of requests -/

variable {client : Client} {query : Query} {exchange : Exchange}

/-- Requests are one and the same, of a method and to where a reference leads, once or more and as
often as there are tries at most. -/
def Client.IsBlock (client : Client) (method : String) (reference : Text)
    (requests : List Request) : Prop :=
  ∃ url request, client.base.follow reference = .ok url ∧ request.method = method ∧
    request.target = String.ofList url.target ∧
    ∃ count, 1 ≤ count ∧ count ≤ client.maxTries ∧ requests = List.replicate count request

theorem Client.IsBlock.length_le {method : String} {reference : Text} {requests : List Request}
    (h : client.IsBlock method reference requests) : requests.length ≤ client.maxTries := by
  obtain ⟨url, request, -, -, -, count, -, hcount, rfl⟩ := h
  rwa [List.length_replicate]

/-- The requests that a question sends, from the state in which it finds the exchange. -/
def Client.block (client : Client) (visit : Query × Exchange) : List Request :=
  visit.2.since (client.handler visit.1 visit.2).state

/-- What a question sends comes behind what was sent before. -/
theorem Client.sent_handler_eq (client : Client) (query : Query) (exchange : Exchange) :
    (client.handler query exchange).state.sent =
      exchange.sent ++ client.block (query, exchange) := by
  obtain ⟨more, hmore⟩ := sent_prefix_of_reaches
    (Relation.ReflTransGen.single ⟨query, rfl⟩ : client.handler.Reaches exchange _)
  rw [block, Exchange.since, ← hmore, List.drop_left]

/-- Requests that a question sends: none, or a block, and each of them built for the question. -/
structure Client.Asks (client : Client) (query : Query) (requests : List Request) : Prop where
  block : requests ≠ [] →
    client.IsBlock query.subject.method query.subject.reference requests
  prepared : ∀ request ∈ requests, ∃ url, client.prepare query = .ok (url, request)

theorem Client.Asks.nothing : client.Asks query [] :=
  ⟨fun hne => absurd rfl hne, fun _ hrequest => absurd hrequest List.not_mem_nil⟩

/-- What a question sends, if anything, is a block. -/
theorem Client.asks_block (htries : 1 ≤ client.maxTries) (query : Query) (exchange : Exchange) :
    client.Asks query (client.block (query, exchange)) := by
  refine ⟨fun hne => ?_, fun _ => prepare_of_mem_since⟩
  cases hprepare : client.prepare query with
  | error failure =>
    have hstate := (handler_of_prepare_error hprepare exchange).1
    rw [block, hstate, Exchange.since, List.drop_length] at hne
    exact absurd rfl hne
  | ok prepared =>
    obtain ⟨url, request⟩ := prepared
    obtain ⟨hfollow, hmethod, htarget, -⟩ := built_of_prepare hprepare
    -- One request, sent once and then at most as often again as the retries allow.
    obtain ⟨more, hle, hsent⟩ := sent_handler_le hprepare exchange
    refine ⟨url, request, hfollow, hmethod, htarget, more + 1, Nat.le_add_left 1 more, by omega, ?_⟩
    rw [block, Exchange.since, hsent, List.drop_left, List.replicate_succ]

/-- A client whose targets begin with a folder. -/
structure Client.HasFolder (client : Client) : Prop where
  scheme : client.base.scheme ≠ []
  folder : IsFolder client.base.target

/-- The requests for a name read its object exactly if the name is a segment. -/
theorem Client.Asks.reads_iff {collection : Collection} {name : Text} {requests : List Request}
    (h : client.Asks (collection.query name) requests) (hfolder : client.HasFolder) :
    ∀ request ∈ requests, request.Reads (client.folder collection) name ↔ name.IsSegment := by
  intro request hrequest
  obtain ⟨url, hprepare⟩ := h.prepared request hrequest
  exact reads_iff_isSegment hfolder.scheme hfolder.folder hprepare

/-- A run sends the blocks of its questions, one after the other. -/
theorem Client.sent_run (client : Client) (c : Consultation α) (exchange : Exchange) :
    (c.run client.handler exchange).state.sent =
      exchange.sent ++ (c.visits client.handler exchange).flatMap client.block := by
  induction c generalizing exchange with
  | done result => simp [run, visits]
  | log record rest ih => exact ih exchange
  | ask query next ih =>
    -- The block of this question, and behind it what the rest sends if there was a reply.
    have hblock := client.sent_handler_eq query exchange
    simp only [run, visits]
    cases (client.handler query exchange).reply with
    | error failure => simpa using hblock
    | ok reply =>
      show ((next reply).run client.handler _).state.sent = _
      rw [ih reply, hblock, List.flatMap_cons, List.append_assoc]

/-- Of questions that are some of a list, the first sends a block or nothing. -/
theorem Client.exists_first_block (htries : 1 ≤ client.maxTries) {queries : List Query}
    {visits : List (Query × Exchange)} (h : (visits.map Prod.fst).Sublist (query :: queries)) :
    ∃ (requests : List Request) (rest : List (Query × Exchange)),
      visits.flatMap client.block = requests ++ rest.flatMap client.block ∧
      client.Asks query requests ∧ (rest.map Prod.fst).Sublist queries := by
  cases visits with
  | nil => exact ⟨[], [], rfl, .nothing, List.nil_sublist _⟩
  | cons visit rest =>
    rw [List.map_cons] at h
    cases h with
    | cons _ hskip => exact ⟨[], visit :: rest, rfl, .nothing, hskip⟩
    | cons_cons _ hrest =>
      exact ⟨client.block visit, rest, List.flatMap_cons, asks_block htries visit.1 visit.2, hrest⟩

/-- The requests for the questions about a cluster: an access review, the creator, if there was no
cluster before, and the setting on version management, as far as they are sent. -/
structure Client.SendsFor (client : Client) (user : UserInfo) (old : Option Cluster) (new : Cluster)
    (posts users settings : List Request) : Prop where
  access : client.Asks (.access (ClusterRules.entryCheck user new.workspace)) posts
  creator : client.Asks (.user (new.written ClusterRules.creatorId)) users
  setting : client.Asks (.setting ClusterRules.versionManagementSetting) settings
  created : users ≠ [] → old = none

/-- Questions that are some of those about a cluster send their blocks in this order. -/
theorem Client.exists_sendsFor (htries : 1 ≤ client.maxTries) {visits : List (Query × Exchange)}
    {user : UserInfo} {old : Option Cluster} {new : Cluster}
    (h : (visits.map Prod.fst).Sublist (ClusterRules.questions user old (some new))) :
    ∃ posts users settings, visits.flatMap client.block = posts ++ users ++ settings ∧
      client.SendsFor user old new posts users settings := by
  -- Behind the last question nothing is asked.
  have hlast : ∀ rest : List (Query × Exchange), (rest.map Prod.fst).Sublist [] →
      rest.flatMap client.block = [] := by
    intro rest hrest
    rw [List.sublist_nil, List.map_eq_nil_iff] at hrest
    rw [hrest, List.flatMap_nil]
  cases old with
  | none =>
    obtain ⟨posts, behind, hposts, hpost, hbehind⟩ := exists_first_block htries h
    obtain ⟨users, others, husers, huser, hothers⟩ := exists_first_block htries hbehind
    obtain ⟨settings, rest, hsettings, hsetting, hrest⟩ := exists_first_block htries hothers
    refine ⟨posts, users, settings, ?_, hpost, huser, hsetting, fun _ => rfl⟩
    rw [hposts, husers, hsettings, hlast rest hrest, List.append_nil, List.append_assoc]
  | some old =>
    obtain ⟨posts, behind, hposts, hpost, hbehind⟩ := exists_first_block htries h
    obtain ⟨settings, rest, hsettings, hsetting, hrest⟩ := exists_first_block htries hbehind
    refine ⟨posts, [], settings, ?_, hpost, .nothing, hsetting, fun hne => absurd rfl hne⟩
    rw [hposts, hsettings, hlast rest hrest, List.append_nil, List.append_nil]

theorem Client.Asks.length_le {requests : List Request} (h : client.Asks query requests) :
    requests.length ≤ client.maxTries := by
  cases requests with
  | nil => exact Nat.zero_le _
  | cons request rest => exact (h.block (List.cons_ne_nil _ _)).length_le

theorem Client.SendsFor.length_le {user : UserInfo} {old : Option Cluster} {new : Cluster}
    {posts users settings : List Request} (h : client.SendsFor user old new posts users settings) :
    (posts ++ users ++ settings).length ≤ 3 * client.maxTries := by
  have hposts := h.access.length_le
  have husers := h.creator.length_le
  have hsettings := h.setting.length_le
  rw [List.length_append, List.length_append]
  omega

theorem isSegment_versionManagementSetting :
    Text.IsSegment ClusterRules.versionManagementSetting :=
  ⟨"imported-cluster-version-management".toList, rfl, by decide, by decide, by decide, by decide,
    by decide, by decide⟩

/-! ## Replies that end a review -/

/-- A reply says an error for a question: it is a fault, or has a status that says so.  That nothing
was found is one for an access review, and none for a lookup. -/
inductive Reply.IsErrorFor (query : Query) : Reply → Prop where
  | fault (fault : Fault) (reason : Text) : IsErrorFor query (.fault fault reason)
  | refused {status : Nat} (body : ReplyBody) : 400 ≤ status → status ≤ 599 → status ≠ 404 →
      IsErrorFor query (.response status body)
  | noReview {check : AccessCheck} (body : ReplyBody) : query = .access check →
      IsErrorFor query (.response 404 body)

/-- What is read of such a reply is a failure. -/
theorem Reply.IsErrorFor.read {reply : Reply} (h : reply.IsErrorFor query) {url : Url}
    {depth : Nat} {handled : Handled Exchange (Option Json)}
    (hreply : handled.reply = (resolveFrom depth url query.subject reply).2) :
    ∃ failure, (query.read handled).reply = .error failure := by
  cases h with
  | fault fault reason => exact ⟨_, Query.read_of_error hreply⟩
  | @refused status body hleast hgreatest hfound =>
    have hstatus : (400 ≤ status && status ≤ 599) = true := by
      simp only [hleast, hgreatest, decide_true, Bool.and_true]
    -- The body may not have been sent, or have come from nowhere; a failure it is in each case.
    simp only [resolveFrom, resolve, if_neg hfound, if_pos hstatus] at hreply
    split at hreply
    · exact ⟨_, Query.read_of_error hreply⟩
    · split at hreply
      · exact ⟨_, Query.read_of_error hreply⟩
      · exact ⟨_, Query.read_of_error hreply⟩
  | @noReview check body hquery =>
    subst hquery
    simp only [resolveFrom, resolve, if_true] at hreply
    split at hreply
    · exact ⟨_, Query.read_of_error hreply⟩
    · split at hreply
      · refine ⟨.notFound "subjectaccessreview" check.resource.name, ?_⟩
        simp only [Query.read, readVerdict, hreply]
      · exact ⟨_, Query.read_of_error hreply⟩

/-- A question whose block ends on a reply that says an error fails. -/
theorem Client.failed_of_decides {reply : Reply}
    (hdecides : exchange.Decides (client.maxTries - 1) reply) (herror : reply.IsErrorFor query) :
    ∃ failure, (client.handler query exchange).reply = .error failure := by
  cases hprepare : client.prepare query with
  | error failure => exact ⟨failure, (handler_of_prepare_error hprepare exchange).2⟩
  | ok prepared =>
    obtain ⟨url, request⟩ := prepared
    -- The block ends on one reply, and this is what the client goes by.
    have hsame := hdecides.unique (Exchange.decides_send request (client.maxTries - 1) exchange)
    have hreply : (client.request query.subject query.body? exchange).reply =
        (resolveFrom client.depth url query.subject reply).2 := by
      rw [request_eq, hprepare, hsame]
    rw [Query.handler_eq]
    exact herror.read hreply

end ApiServer

/-! ## Reviews -/

/-- A review sends nothing, or it is one of a cluster that the request brings, decoded, and sends
what is sent for this cluster. -/
theorem ApiServer.Client.sends_of_review {client : Client} (htries : 1 ≤ client.maxTries)
    (admissionReview : Json) (resource : Text) (exchange : Exchange) :
    let visits := (review admissionReview resource).visits client.handler exchange
    visits.flatMap client.block = [] ∨
      ∃ request old new, requestOf admissionReview = .ok request ∧
        dispatch request resource = .ok .cluster ∧
        Carried "Cluster" Cluster.decode request old (some new) ∧
        ∃ posts users settings, visits.flatMap client.block = posts ++ users ++ settings ∧
          client.SendsFor request.userInfo old new posts users settings := by
  intro visits
  obtain ⟨queries, hasked, hbranches⟩ := branches_review admissionReview resource
  have hsublist : (visits.map Prod.fst).Sublist queries := hbranches.visits_sublist exchange
  by_cases hnone : queries = []
  · -- Without questions nothing is sent.
    rw [hnone, List.sublist_nil, List.map_eq_nil_iff] at hsublist
    rw [hsublist]
    exact .inl List.flatMap_nil
  · obtain ⟨request, kind, hrequest, hdispatch, hmay⟩ := hasked hnone
    -- Only reviews of clusters may ask, and of what they may ask the questions asked are a part.
    cases hmay with
    | nothing => exact absurd rfl hnone
    | cluster hcarried =>
      exact .inr ⟨request, _, _, hrequest, hdispatch, hcarried,
        exists_sendsFor htries hsublist⟩

/-- What a review sends to the API server, whatever that replies, is nothing, or it is about a
cluster which the review brings, decoded: an access review, then the lookup of the creator whom a
new cluster names, then that of the setting on version management, each of them left out or sent
alike from once up to as often as there are tries.  Where targets begin with a folder, the lookup of
the creator reads the user who is named exactly if the name is a segment, and that of the setting
always reads this setting.  A question that fails, as it does if its last reply says an error, is
followed by no other; and so is a rule that denies. -/
theorem review_traffic_bounded (client : Client) (htries : 1 ≤ client.maxTries)
    (admissionReview : Json) (resource : Text) (exchange : Exchange) :
    let consultation := review admissionReview resource
    let final := (consultation.run client.handler exchange).state
    let visits := consultation.visits client.handler exchange
    let sent := visits.flatMap client.block
    (final.sent = exchange.sent ++ sent ∧ sent.length ≤ 3 * client.maxTries ∧
      (sent ≠ [] → ∃ request old new, requestOf admissionReview = .ok request ∧
        dispatch request resource = .ok .cluster ∧
        (request.operation = .create ∨ request.operation = .update) ∧
        Carried "Cluster" Cluster.decode request old (some new) ∧
        ∃ posts users settings, sent = posts ++ users ++ settings ∧
          (posts ≠ [] → client.IsBlock "POST" accessReviewPath posts) ∧
          (users ≠ [] → request.operation = .create ∧ client.IsBlock "GET"
            (managementPath ++ "/users/" ++ new.written ClusterRules.creatorId) users) ∧
          (settings ≠ [] → client.IsBlock "GET"
            (managementPath ++ "/settings/" ++ ClusterRules.versionManagementSetting)
              settings) ∧
          (client.HasFolder →
            (∀ lookup ∈ users,
              lookup.Reads (client.folder .users) (new.written ClusterRules.creatorId) ↔
                (new.written ClusterRules.creatorId).IsSegment) ∧
            ∀ lookup ∈ settings, lookup.Reads (client.folder .settings)
              ClusterRules.versionManagementSetting))) ∧
    (∀ visit ∈ visits,
      ((∃ failure, (client.handler visit.1 visit.2).reply = .error failure) ∨
        ∃ reply, visit.2.Decides (client.maxTries - 1) reply ∧ reply.IsErrorFor visit.1) →
      final = (client.handler visit.1 visit.2).state) ∧
    (∀ (request : AdmissionRequest) (old new : Option Cluster) (before after : List (Rule Cluster))
      (rule : Rule Cluster), requestOf admissionReview = .ok request →
      dispatch request resource = .ok .cluster →
      Carried "Cluster" Cluster.decode request old new →
      ClusterRules.all = before ++ rule :: after →
      let context : RuleContext Cluster := ⟨request.operation, old, new, request.userInfo⟩
      let passed := (evaluateRules before context).run client.handler exchange
      let checked := (rule.check context).run client.handler passed.state
      (∃ evaluation, passed.result = .ok evaluation ∧ evaluation.decision.allowed = true) →
      (∃ reason message, checked.result = .ok (.deny reason message)) →
      final = checked.state) := by
  intro consultation final visits sent
  refine ⟨⟨client.sent_run consultation exchange, ?_⟩, ?_, ?_⟩
  · -- A review that sends anything is that of a cluster, and its requests fall into three blocks.
    have hsends : sent = [] ∨ _ := Client.sends_of_review htries admissionReview resource exchange
    rcases hsends with hnothing | ⟨request, old, new, hrequest, hdispatch, hcarried, hsent⟩
    · rw [hnothing]
      exact ⟨Nat.zero_le _, fun hne => absurd rfl hne⟩
    · obtain ⟨posts, users, settings, hsent, hblocks⟩ := hsent
      have hsame : sent = posts ++ users ++ settings := hsent
      rw [hsame]
      refine ⟨hblocks.length_le, fun _ => ⟨request, old, new, hrequest, hdispatch,
        hcarried.create_or_update, hcarried, posts, users, settings, rfl, hblocks.access.block,
        fun hne => ?_, hblocks.setting.block, fun hfolder => ⟨?_, fun lookup hlookup => ?_⟩⟩⟩
      · -- Only a creation asks for its creator.
        obtain rfl := hblocks.created hne
        exact ⟨hcarried.operation_eq_create, hblocks.creator.block hne⟩
      · refine Client.Asks.reads_iff ?_ hfolder
        exact hblocks.creator
      · have hreads : lookup.Reads (client.folder .settings) _ ↔ _ :=
          Client.Asks.reads_iff hblocks.setting hfolder lookup hlookup
        exact hreads.mpr isSegment_versionManagementSetting
  · -- A question that failed is the last one, since no rule goes on from a failure.
    rintro ⟨query, found⟩ hvisit hended
    obtain ⟨failure, hfailed⟩ : ∃ failure, (client.handler query found).reply = .error failure := by
      rcases hended with hfailed | ⟨reply, hdecides, herror⟩
      · exact hfailed
      · exact Client.failed_of_decides hdecides herror
    exact state_run_of_visit hvisit hfailed
  · intro request old new before after rule hrequest hdispatch hcarried hrules context passed
      checked hpassed hdenied
    -- A denial ends the list of rules in the state in which it was given.
    obtain ⟨evaluation, hpassed, hallowed⟩ := hpassed
    obtain ⟨reason, message, hdenied⟩ := hdenied
    have hends : EndsEvaluation checked.result := hdenied ▸ .denied reason message
    exact ClusterRules.state_review_of_ended hrequest hdispatch hcarried rfl hrules hpassed
      hallowed hends

/-- A review of the creation of a cluster in a fleet workspace that names its creator. -/
def creationInWorkspace : Json := .obj [("request", .obj [
  ("uid", .str "1"), ("operation", .str "CREATE"),
  ("resource", .obj [("resource", .str "clusters")]),
  ("object", .obj [
    ("metadata", .obj [("annotations", .obj [(ClusterRules.creatorId, .str "u-1")])]),
    ("spec", .obj [("fleetWorkspaceName", .str "fleet-default")])])])]

/-- A grant behind a fault, the user, and no setting behind two faults. -/
def grantingReplies : List Reply := [
  .fault .connectTimeout "", .response 201 (.json (verdictObject true)),
  .response 200 (.json (userObject ⟨"u-1", ["local://u-1"]⟩)),
  .fault .readTimeout "", .fault .readTimeout "", .response 404 (.text "")]

/-- A verdict that denies, and more. -/
def denyingReplies : List Reply := .response 201 (.json (verdictObject false)) :: grantingReplies

theorem RuleResult.exists_deny {result : Except Failure RuleResult}
    (h : result.toOption.map RuleResult.denied = some true) :
    ∃ reason message, result = .ok (.deny reason message) := by
  obtain ⟨r, hr, hdenied⟩ := Option.map_eq_some_iff.mp h
  cases r with
  | deny reason message => exact ⟨reason, message, Except.eq_ok_of_toOption hr⟩
  | allow => cases hdenied
  | warn message => cases hdenied

/-- The method and the target of a request. -/
def ApiServer.Request.line (request : Request) : String × String := (request.method, request.target)

theorem creation_sends_three_blocks :
    1 ≤ testClient.maxTries ∧
    ((review creationInWorkspace "").run testClient.handler
        ⟨grantingReplies, []⟩).state.sent.map Request.line =
      List.replicate 2 ("POST", "/apis/authorization.k8s.io/v1/subjectaccessreviews") ++
      [("GET", "/apis/management.cattle.io/v3/users/u-1")] ++
      List.replicate 3
        ("GET", "/apis/management.cattle.io/v3/settings/imported-cluster-version-management") ∧
    ((review creationInWorkspace "").run testClient.handler
        ⟨grantingReplies, []⟩).state.sent.length ≤ 3 * testClient.maxTries ∧
    ((review creationInWorkspace "").run testClient.handler
        ⟨denyingReplies, []⟩).state.sent.map Request.line =
      [("POST", "/apis/authorization.k8s.io/v1/subjectaccessreviews")] := by
  have htries : 1 ≤ testClient.maxTries := by decide
  obtain ⟨⟨hsent, hbound, -⟩, -⟩ :=
    review_traffic_bounded testClient htries creationInWorkspace "" ⟨grantingReplies, []⟩
  -- The same creation twice: once it is granted, once it is denied.
  obtain ⟨-, -, hdenied⟩ :=
    review_traffic_bounded testClient htries creationInWorkspace "" ⟨denyingReplies, []⟩
  refine ⟨htries, by decide +kernel, ?_, ?_⟩
  · rw [hsent]
    exact hbound
  · -- The rule on permission denies behind the rule before it.
    rw [hdenied _ none _ [⟨"fleet-workspace-unset", ClusterRules.fleetWorkspaceUnset⟩] _
      ⟨"fleet-workspace-permission", ClusterRules.fleetWorkspacePermission⟩ rfl rfl
      (.create rfl rfl) rfl ⟨_, rfl, rfl⟩ ?_]
    · decide +kernel
    · exact RuleResult.exists_deny (by decide +kernel)

/-- A target in a folder reads no name but the one that it decodes to. -/
theorem ApiServer.Request.not_reads_of_target {request : Request} {folder segment : List Char}
    {name : Text} (htarget : request.target.toList = folder ++ segment)
    (hname : Text.ofChars (Text.percentDecode segment) ≠ name) : ¬ request.Reads folder name := by
  rintro ⟨-, cs, rfl, other, hother, -, -, -, -, hdecoded⟩
  rw [htarget] at hother
  obtain rfl := List.append_cancel_left hother
  exact hname (congrArg Text.ofChars hdecoded)

/-- The user before the number sign, and no setting. -/
def shortNameReplies : List Reply := [.response 200 (.json (userObject ⟨"u-1", ["local://u-1"]⟩))]

/-- The lookup of a creator whose name has a number sign is no lookup of this user, nor of the
setting. -/
theorem creator_with_number_sign_not_read :
    1 ≤ testClient.maxTries ∧
    ∃ lookup ∈ ((review (creationNaming "u-1#x") "").run testClient.handler
        ⟨shortNameReplies, []⟩).state.sent,
      lookup.line = ("GET", "/apis/management.cattle.io/v3/users/u-1") ∧
      ¬ lookup.Reads (testClient.folder .users) "u-1#x" := by
  have hlines : ((review (creationNaming "u-1#x") "").run testClient.handler
      ⟨shortNameReplies, []⟩).state.sent.map Request.line =
      [("GET", "/apis/management.cattle.io/v3/users/u-1"),
        ("GET", "/apis/management.cattle.io/v3/settings/imported-cluster-version-management")] := by
    decide +kernel
  obtain ⟨lookup, hlookup, hline⟩ := List.mem_map.mp
    (hlines ▸ List.mem_cons_self :
      ("GET", "/apis/management.cattle.io/v3/users/u-1") ∈ List.map Request.line _)
  -- The target is that of another name, and no target is that of two.
  have htarget : lookup.target.toList = testClient.folder .users ++ "u-1".toList := by
    rw [show lookup.target = "/apis/management.cattle.io/v3/users/u-1" from
      congrArg Prod.snd hline]
    decide
  refine ⟨by decide, lookup, hlookup, hline, Request.not_reads_of_target htarget ?_⟩
  decide +kernel

end AdmissionControl
