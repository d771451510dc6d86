/-
  AdmissionControl.Proofs.ApiServer.Names

  Which object the API server is asked about.

  Users and settings are looked up by a GET behind a folder of the server.  The request reads the
  object of the name exactly when the name is one segment of a path (`reads_iff_isSegment`), and no
  two such names share a target (`Request.Reads.unique`).  Any other name goes into the target all
  the same, and something else is read.

  A review that allows the creation of a cluster has asked for the creator who is named, so for a
  name that is a segment it has read exactly this user.
-/

import AdmissionControl.Proofs.ApiServer.Refinement
import AdmissionControl.Proofs.Review.Asking
import AdmissionControl.Proofs.Url.Segment

namespace AdmissionControl

open ApiServer Url

theorem Text.ofChars_append (cs ds : List Char) :
    Text.ofChars (cs ++ ds) = Text.ofChars cs ++ Text.ofChars ds := by
  show Text.mk ((cs ++ ds).map .char) = Text.mk (cs.map .char ++ ds.map .char)
  rw [List.map_append]

theorem Text.ofChars_inj {cs ds : List Char} (h : Text.ofChars cs = Text.ofChars ds) : cs = ds := by
  have hchars := congrArg Text.chars? h
  rw [Text.chars?_ofChars, Text.chars?_ofChars] at hchars
  exact Option.some.inj hchars

/-- A text is one segment of a path, and comes back from it. -/
def Text.IsSegment (name : Text) : Prop := ∃ cs, name = Text.ofChars cs ∧ Url.IsSegment cs

theorem Text.IsSegment.ne_empty {name : Text} (h : name.IsSegment) : name ≠ "" := by
  obtain ⟨cs, rfl, hsegment⟩ := h
  intro hempty
  have hnil : cs = [] := Text.ofChars_inj hempty
  exact hsegment.nonempty hnil

namespace ApiServer

/-! ## Collections -/

/-- What is looked up by name. -/
inductive Collection where
  | users
  | settings
  deriving DecidableEq

namespace Collection

/-- The question for the object of a name. -/
def query : Collection → Text → Query
  | .users => .user
  | .settings => .setting

/-- The path of a collection behind the base of a client. -/
def path : Collection → List Char
  | .users => "apis/management.cattle.io/v3/users/".toList
  | .settings => "apis/management.cattle.io/v3/settings/".toList

theorem isFolder_path (collection : Collection) : IsFolder collection.path := by
  cases collection with
  | users =>
    exact ⟨List.all_eq_true.mp (by decide), "apis/management.cattle.io/v3/users".toList, rfl,
      by decide⟩
  | settings =>
    exact ⟨List.all_eq_true.mp (by decide), "apis/management.cattle.io/v3/settings".toList, rfl,
      by decide⟩

theorem path_first (collection : Collection) : ∃ more, collection.path = 'a' :: more := by
  cases collection <;> exact ⟨_, rfl⟩

theorem subject_reference (collection : Collection) (name : Text) :
    (collection.query name).subject.reference =
      Text.ofChars ('/' :: collection.path) ++ name := by
  cases collection <;> rfl

theorem subject_method (collection : Collection) (name : Text) :
    (collection.query name).subject.method = "GET" := by
  cases collection <;> rfl

end Collection

/-- The folder of a collection, as it stands in targets. -/
def Client.folder (client : Client) (collection : Collection) : List Char :=
  client.base.target ++ collection.path

/-! ## Requests that are sent -/

/-- The requests that were sent from one state of an exchange to a later one. -/
def Exchange.since (earlier later : Exchange) : List Request :=
  later.sent.drop earlier.sent.length

/-- A request reads the object of a name in a folder. -/
def Request.Reads (request : Request) (folder : List Char) (name : Text) : Prop :=
  request.method = "GET" ∧
    ∃ cs, name = Text.ofChars cs ∧ Addresses folder request.target.toList cs

variable {client : Client} {query : Query} {url : Url} {request : Request}

theorem read_state (query : Query) (handled : Handled Exchange (Option Json)) :
    (query.read handled).state = handled.state := by
  cases query with
  | user name => rfl
  | setting name => rfl
  | access check =>
    simp only [Query.read, readVerdict]
    repeat' split
    all_goals rfl

/-- A question whose request can be built adds that request to those sent, once for each try. -/
theorem Client.sent_handler_le (h : client.prepare query = .ok (url, request))
    (exchange : Exchange) :
    ∃ more ≤ client.maxTries - 1, (client.handler query exchange).state.sent =
      exchange.sent ++ request :: List.replicate more request := by
  rw [Query.handler_eq, read_state, request_eq, h]
  exact Exchange.sent_send request (client.maxTries - 1) exchange

theorem Client.sent_handler (h : client.prepare query = .ok (url, request))
    (exchange : Exchange) :
    ∃ more, (client.handler query exchange).state.sent =
      exchange.sent ++ request :: List.replicate more request := by
  obtain ⟨more, -, hsent⟩ := sent_handler_le h exchange
  exact ⟨more, hsent⟩

/-- A question whose request cannot be built fails, and sends nothing. -/
theorem Client.handler_of_prepare_error {failure : Failure}
    (h : client.prepare query = .error failure) (exchange : Exchange) :
    (client.handler query exchange).state = exchange ∧
      (client.handler query exchange).reply = .error failure := by
  have hrequest : client.request query.subject query.body? exchange =
      ⟨[], .error failure, exchange⟩ := by
    rw [request_eq, h]
  rw [Query.handler_eq, hrequest]
  exact ⟨read_state query _, Query.read_of_error rfl⟩

/-- Every request that a question sends is the one that was built for it. -/
theorem Client.prepare_of_mem_since {exchange : Exchange}
    (h : request ∈ exchange.since (client.handler query exchange).state) :
    ∃ url, client.prepare query = .ok (url, request) := by
  rw [Exchange.since] at h
  cases hprepare : client.prepare query with
  | error failure =>
    rw [(handler_of_prepare_error hprepare exchange).1, List.drop_length] at h
    cases h
  | ok prepared =>
    obtain ⟨url, built⟩ := prepared
    obtain ⟨more, hsent⟩ := sent_handler hprepare exchange
    rw [hsent, List.drop_left, List.mem_cons] at h
    rcases h with rfl | h
    · exact ⟨url, rfl⟩
    · rw [List.eq_of_mem_replicate h]
      exact ⟨url, rfl⟩

/-- The requests sent are only ever added to. -/
theorem Client.sent_prefix_of_reaches {before after : Exchange}
    (h : client.handler.Reaches before after) : before.sent <+: after.sent := by
  induction h with
  | refl => exact List.prefix_refl _
  | tail _ hstep ih =>
    obtain ⟨query, rfl⟩ := hstep
    refine ih.trans ?_
    cases hprepare : client.prepare query with
    | error failure =>
      rw [(handler_of_prepare_error hprepare _).1]
    | ok prepared =>
      obtain ⟨more, hsent⟩ := sent_handler hprepare _
      rw [hsent]
      exact List.prefix_append _ _

/-- A review that asks a question before it allows has sent the request for that question. -/
theorem Client.exists_sent_of_asksBefore {c : Consultation α} {P : α → Prop}
    (hasks : c.AsksBefore query P) {exchange : Exchange} {a : α}
    (hrun : (c.run client.handler exchange).result = .ok a) (ha : P a) :
    ∃ url request, client.prepare query = .ok (url, request) ∧
      request ∈ exchange.since (c.run client.handler exchange).state := by
  obtain ⟨reached, reply, hreached, hreply, hrest⟩ := hasks.exists_reached hrun ha
  cases hprepare : client.prepare query with
  | error failure =>
    rw [(handler_of_prepare_error hprepare reached).2] at hreply
    cases hreply
  | ok prepared =>
    obtain ⟨url, request⟩ := prepared
    obtain ⟨more, hsent⟩ := sent_handler hprepare reached
    obtain ⟨before, hbefore⟩ := sent_prefix_of_reaches hreached
    obtain ⟨behind, hbehind⟩ := sent_prefix_of_reaches hrest
    refine ⟨url, request, rfl, ?_⟩
    rw [Exchange.since, ← hbehind, hsent, ← hbefore]
    simp

/-! ## Requests for names -/

/-- What is built for a question is its body, by its method, to where its reference leads. -/
theorem Client.built_of_prepare (h : client.prepare query = .ok (url, request)) :
    client.base.follow query.subject.reference = .ok url ∧
      request.method = query.subject.method ∧ request.target = String.ofList url.target ∧
      request.body = query.body? := by
  cases hfollow : client.base.follow query.subject.reference with
  | error failure =>
    rw [prepare, hfollow] at h
    cases h
  | ok followed =>
    rw [prepare, hfollow, Except.ok_bind] at h
    cases hrequest : client.requestFor query.subject query.body? followed with
    | error failure =>
      rw [hrequest] at h
      cases h
    | ok built =>
      rw [hrequest] at h
      cases h
      rw [requestFor] at hrequest
      -- Past the scheme and the name of the host, the request is put together.
      split at hrequest
      · cases hrequest
      · cases hshown : url.hostName with
        | error failure =>
          rw [hshown] at hrequest
          cases hrequest
        | ok host =>
          rw [hshown] at hrequest
          cases hrequest
          exact ⟨rfl, rfl, rfl, rfl⟩

/-- A name for which a request is built has no halves of surrogate pairs. -/
theorem Client.exists_chars_of_prepare {collection : Collection} {name : Text}
    (h : client.prepare (collection.query name) = .ok (url, request)) :
    ∃ cs, name = Text.ofChars cs := by
  cases hname : name.chars? with
  | some cs => exact ⟨cs, Text.eq_ofChars_of_chars? hname⟩
  | none =>
    obtain ⟨hfollow, -⟩ := built_of_prepare h
    have hreference : (Text.ofChars ('/' :: collection.path) ++ name).chars? = none := by
      show ((('/' :: collection.path).map Symbol.char) ++ name.symbols).mapM Symbol.char? = none
      rw [List.mapM_append, show name.symbols.mapM Symbol.char? = none from hname]
      cases (('/' :: collection.path).map Symbol.char).mapM Symbol.char? <;> rfl
    rw [collection.subject_reference, follow_of_half client.base hreference] at hfollow
    cases hfollow

/-- The base of a client that was made is a folder if it has no query. -/
theorem Client.isFolder_of_make {url : Text} {token : Option Text} {maxTries depth : Nat}
    (h : Client.make url token maxTries depth = .ok client) (hscheme : client.base.scheme ≠ [])
    (hquery : client.base.query = none) : IsFolder client.base.target := by
  cases hbase : baseOf url with
  | error failure =>
    rw [make, hbase] at h
    cases h
  | ok base =>
    rw [make, hbase, Except.ok_bind] at h
    cases hbearer : token.mapM bearerOf with
    | error failure =>
      rw [hbearer] at h
      cases h
    | ok bearer =>
      rw [hbearer] at h
      cases h
      exact isFolder_of_baseOf hbase hscheme hquery

/-- The request for a name reads its object exactly when the name is a segment. -/
theorem Client.reads_iff_isSegment (hscheme : client.base.scheme ≠ [])
    (hfolder : IsFolder client.base.target) {collection : Collection} {name : Text}
    (h : client.prepare (collection.query name) = .ok (url, request)) :
    request.Reads (client.folder collection) name ↔ name.IsSegment := by
  obtain ⟨hfollow, hmethod, htarget, -⟩ := built_of_prepare h
  obtain ⟨cs, rfl⟩ := exists_chars_of_prepare h
  obtain ⟨more, hfirst⟩ := collection.path_first
  rw [collection.subject_reference, ← Text.ofChars_append] at hfollow
  have hiff := addresses_iff_isSegment hscheme hfolder collection.isFolder_path hfirst hfollow
  rw [Request.Reads, Text.IsSegment, hmethod, collection.subject_method, htarget,
    String.toList_ofList]
  constructor
  · rintro ⟨-, ds, hsame, haddresses⟩
    obtain rfl := Text.ofChars_inj hsame
    exact ⟨cs, rfl, hiff.mp haddresses⟩
  · rintro ⟨ds, hsame, hsegment⟩
    obtain rfl := Text.ofChars_inj hsame
    exact ⟨rfl, cs, rfl, hiff.mpr hsegment⟩

/-- A target reads the object of one name at most. -/
theorem Request.Reads.unique {other : Request} {folder : List Char} {name name' : Text}
    (h : request.Reads folder name) (h' : other.Reads folder name')
    (htarget : request.target = other.target) : name = name' := by
  obtain ⟨-, cs, rfl, segment, hsegment, -, -, -, -, hdecoded⟩ := h
  obtain ⟨-, ds, rfl, segment', hsegment', -, -, -, -, hdecoded'⟩ := h'
  rw [htarget, hsegment'] at hsegment
  obtain rfl := List.append_cancel_left hsegment
  rw [← hdecoded, ← hdecoded']

end ApiServer

/-- Over a client whose base has no query, every request for the user or the setting of a name
reads the object of exactly that name if and only if the name is a segment.  The requests for
different such names differ in their targets, and each of the names that can be sent is asked for.
A review that allows the creation of a cluster naming such a creator has read that user. -/
theorem lookups_read_named_objects {url : Text} {token : Option Text} {maxTries depth : Nat}
    {client : Client} (hmake : Client.make url token maxTries depth = .ok client)
    (hbase : client.base.IsBase) (hquery : client.base.query = none) :
    (∀ (collection : Collection) (name : Text) (exchange : Exchange), ∀ request ∈
      exchange.since (client.handler (collection.query name) exchange).state,
      request.Reads (client.folder collection) name ↔ name.IsSegment) ∧
    (∀ (collection : Collection) (name other : Text) (exchange later : Exchange),
      name.IsSegment → other.IsSegment → name ≠ other →
      ∀ request ∈ exchange.since (client.handler (collection.query name) exchange).state,
      ∀ request' ∈ later.since (client.handler (collection.query other) later).state,
      request.target ≠ request'.target) ∧
    (∀ (collection : Collection) (name : Text) (exchange : Exchange),
      (collection.query name).Plain client →
      exchange.since (client.handler (collection.query name) exchange).state ≠ []) ∧
    (∀ (admissionReview : Json) (resource : Text) (request : AdmissionRequest) (new : Cluster)
      (exchange : Exchange) (response : ReviewResponse),
      requestOf admissionReview = .ok request → dispatch request resource = .ok .cluster →
      Carried "Cluster" Cluster.decode request none (some new) →
      (new.written ClusterRules.creatorId).IsSegment →
      ((review admissionReview resource).run client.handler exchange).result = .ok response →
      response.allowed = true →
      ∃ sent ∈ exchange.since
          ((review admissionReview resource).run client.handler exchange).state,
        sent.Reads (client.folder .users) (new.written ClusterRules.creatorId)) := by
  have hfolder := Client.isFolder_of_make hmake hbase.scheme hquery
  have hreads : ∀ (collection : Collection) (name : Text) (exchange : Exchange), ∀ request ∈
      exchange.since (client.handler (collection.query name) exchange).state,
      request.Reads (client.folder collection) name ↔ name.IsSegment := by
    intro collection name exchange request hmem
    obtain ⟨url, hprepare⟩ := Client.prepare_of_mem_since hmem
    exact Client.reads_iff_isSegment hbase.scheme hfolder hprepare
  -- Which object a target reads is settled by the folder; all else about names follows from it.
  refine ⟨hreads, ?_, ?_, ?_⟩
  · intro collection name other exchange later hname hother hne request hrequest request' hrequest'
      htarget
    -- One target would read both names.
    have hfirst := (hreads collection name exchange request hrequest).mpr hname
    have hsecond := (hreads collection other later request' hrequest').mpr hother
    exact hne (hfirst.unique hsecond htarget)
  · intro collection name exchange hplain
    -- A request that can be built is sent at least once.
    obtain ⟨url, request, hprepare, -⟩ := Client.sends_of_plain hbase hplain
    obtain ⟨more, hsent⟩ := Client.sent_handler hprepare exchange
    rw [Exchange.since, hsent, List.drop_left]
    exact List.cons_ne_nil _ _
  · intro admissionReview resource request new exchange response hrequest hkind hcarried hsegment
      hrun hallowed
    -- No creation is allowed before the creator was asked for, and the question leaves a request.
    have hasks := ClusterRules.asksBefore_creation hrequest hkind hcarried hsegment.ne_empty
    obtain ⟨url, sent, hprepare, hsent⟩ := Client.exists_sent_of_asksBefore hasks hrun hallowed
    have hiff : sent.Reads (client.folder .users) (new.written ClusterRules.creatorId) ↔ _ :=
      @Client.reads_iff_isSegment client url sent hbase.scheme hfolder .users _ hprepare
    exact ⟨sent, hsent, hiff.mpr hsegment⟩

theorem make_testClient : Client.make "https://kubernetes.test/" none 3 100 = .ok testClient := by
  have hparts : (Client.make "https://kubernetes.test/" none 3 100).toOption.map
      (fun client => (client.base, client.authorization, client.maxTries, client.depth)) =
        some (testClient.base, none, 3, 100) := by decide +kernel
  obtain ⟨⟨base, authorization, maxTries, depth⟩, hmake, hsame⟩ := Option.map_eq_some_iff.mp hparts
  obtain ⟨rfl, rfl, rfl, rfl⟩ :
      base = testClient.base ∧ authorization = none ∧ maxTries = 3 ∧ depth = 100 := by
    simpa using hsame
  exact Except.eq_ok_of_toOption hmake

/-- A user whose name has a space and a letter beyond ASCII, and no setting. -/
def spacedReplies : List Reply := [
  .response 200 (.json (userObject ⟨"ü 1", []⟩)), .response 404 (.text "")]

theorem spaced_creator_read :
    Client.make "https://kubernetes.test/" none 3 100 = .ok testClient ∧
    testClient.base.IsBase ∧ testClient.base.query = none ∧ (Query.user "ü 1").Plain testClient ∧
    Text.IsSegment "ü 1" ∧ Text.IsSegment "ü" ∧
    (∃ request ∈ Exchange.since ⟨[], []⟩ (testClient.handler (.user "ü 1") ⟨[], []⟩).state,
      request.Reads (testClient.folder .users) "ü 1" ∧
      ∀ request' ∈ Exchange.since ⟨[], []⟩ (testClient.handler (.user "ü") ⟨[], []⟩).state,
        request.target ≠ request'.target) ∧
    ∃ response, ((review (creationNaming "ü 1") "").run testClient.handler
      ⟨spacedReplies, []⟩).result = .ok response ∧ response.allowed = true ∧
      ∃ sent ∈ Exchange.since ⟨spacedReplies, []⟩
          ((review (creationNaming "ü 1") "").run testClient.handler ⟨spacedReplies, []⟩).state,
        sent.Reads (testClient.folder .users) "ü 1" := by
  have hcontrol : ∀ cs : List Char, cs.any Url.isControl = false →
      ∀ c ∈ cs, Url.isControl c = false :=
    fun cs hnone c hc => Bool.eq_false_iff.mpr (List.any_eq_false.mp hnone c hc)
  have hplain : (Query.user "ü 1").Plain testClient :=
    ⟨⟨_, rfl, hcontrol _ (by decide), by decide⟩, nofun⟩
  have hsegment : Text.IsSegment "ü 1" :=
    ⟨"ü 1".toList, rfl, by decide, by decide, by decide, by decide, by decide, by decide⟩
  have hshort : Text.IsSegment "ü" :=
    ⟨"ü".toList, rfl, by decide, by decide, by decide, by decide, by decide, by decide⟩
  obtain ⟨hreads, hdistinct, hsent, hcreated⟩ :=
    lookups_read_named_objects make_testClient testClient_isBase rfl
  have hallowed : ((review (creationNaming "ü 1") "").run testClient.handler
      ⟨spacedReplies, []⟩).result.toOption.map (·.allowed) = some true := by decide +kernel
  obtain ⟨response, hresponse, hallowed⟩ := Option.map_eq_some_iff.mp hallowed
  have hrun := Except.eq_ok_of_toOption hresponse
  refine ⟨make_testClient, testClient_isBase, rfl, hplain, hsegment, hshort, ?_, response, hrun,
    hallowed, ?_⟩
  · -- The lookup alone.
    obtain ⟨request, hrequest⟩ :=
      List.exists_mem_of_ne_nil _ (hsent .users "ü 1" ⟨[], []⟩ hplain)
    refine ⟨request, hrequest, (hreads .users "ü 1" ⟨[], []⟩ request hrequest).mpr hsegment, ?_⟩
    exact hdistinct .users "ü 1" "ü" ⟨[], []⟩ ⟨[], []⟩ hsegment hshort (by decide) request
      hrequest
  · -- The whole review.
    exact hcreated (creationNaming "ü 1") "" _ _ ⟨spacedReplies, []⟩ response rfl rfl
      (.create rfl rfl) hsegment hrun hallowed

/-- A name with a number sign reads the object of the name before it.  So the creation of a cluster
whose creator is named in this way is allowed, though only the other user was ever asked for. -/
theorem name_with_number_sign_reads_other :
    ("u-1" : Text) ≠ "u-1#x" ∧
    (Exchange.since ⟨[], []⟩ (testClient.handler (.user "u-1") ⟨[], []⟩).state).map (·.target) =
      ["/apis/management.cattle.io/v3/users/u-1"] ∧
    (Exchange.since ⟨[], []⟩ (testClient.handler (.user "u-1#x") ⟨[], []⟩).state).map (·.target) =
      ["/apis/management.cattle.io/v3/users/u-1"] ∧
    ∃ response, ((review (creationNaming "u-1#x") "").run testClient.handler
        ⟨slowReplies, []⟩).result = .ok response ∧ response.allowed = true ∧
      ((review (creationNaming "u-1#x") "").run testClient.handler
        ⟨slowReplies, []⟩).state.sent.map (·.target) =
          List.replicate 3 "/apis/management.cattle.io/v3/users/u-1" ++
          ["/apis/management.cattle.io/v3/settings/imported-cluster-version-management"] := by
  refine ⟨by decide, by decide +kernel, by decide +kernel, ?_⟩
  have hallowed : ((review (creationNaming "u-1#x") "").run testClient.handler
      ⟨slowReplies, []⟩).result.toOption.map (·.allowed) = some true := by decide +kernel
  obtain ⟨response, hresponse, hallowed⟩ := Option.map_eq_some_iff.mp hallowed
  exact ⟨response, Except.eq_ok_of_toOption hresponse, hallowed, by decide +kernel⟩

end AdmissionControl
