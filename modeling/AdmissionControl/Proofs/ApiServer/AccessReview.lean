/-
  AdmissionControl.Proofs.ApiServer.AccessReview

  The access reviews that are posted, and what they ask.

  `AccessCheck.decodeReview` reads the check from the body of an access review.  Attributes that are
  empty are left out of the body, and absent ones are read as empty, so each attribute comes back
  (`AccessCheck.decode_attribute`) and with it the whole check (`AccessCheck.undoes_accessReview`).
  A body is therefore that of one check alone.

  A question for an access sends that body with each try (`Client.request_of_mem_block`), and no
  other question sends one.  A review asks for an access only if it brings a cluster into a
  workspace, and then for its own user and that workspace (`entry_of_visit`); so this is what its
  bodies say.
-/

import AdmissionControl.Proofs.ApiServer.Traffic
import AdmissionControl.Proofs.Cluster.AccessCheck

namespace AdmissionControl

open ApiServer

/-! ## Reading access reviews -/

namespace AccessCheck

open Decoder FieldName Decoded

/-- Reads the verb and the resource from the attributes of an access review. -/
def decodeAttributes : Decoder (Text × ResourceAttributes) := fun j =>
  Prod.mk <$> model (FieldName.require ⟨"verb", none⟩ .text) j <*> ResourceAttributes.decode j

/-- Reads an access check from the specification of an access review. -/
def decodeSpec : Decoder AccessCheck := .model fun members =>
  (fun attributes username uid groups extra =>
      ⟨⟨username, uid, groups, extra⟩, attributes.1, attributes.2⟩)
    <$> FieldName.require ⟨"resourceAttributes", none⟩ decodeAttributes members
    <*> FieldName.require ⟨"user", none⟩ .text members
    <*> FieldName.require ⟨"uid", none⟩ .text members
    <*> FieldName.require ⟨"groups", none⟩ (.list .text) members
    <*> FieldName.require ⟨"extra", none⟩ (.object (.list .text)) members

/-- Reads an access check from an access review. -/
def decodeReview : Decoder AccessCheck :=
  .model (FieldName.require ⟨"spec", none⟩ decodeSpec)

/-- Of entries with different names, those that are not empty stand under their names. -/
theorem lookup_given {entries : TextMap} (hnames : (entries.map Prod.fst).Nodup)
    {name value : Text} (h : (name, value) ∈ entries) :
    ((entries.filter fun entry => !entry.2.isEmpty).map fun entry =>
        (entry.1, Json.str entry.2)).lookup name =
      if value.isEmpty then none else some (.str value) := by
  have hgiven : (((entries.filter fun entry => !entry.2.isEmpty).map fun entry =>
      (entry.1, Json.str entry.2)).map Prod.fst).Nodup := by
    rw [List.map_map]
    exact (List.filter_sublist.map Prod.fst).nodup hnames
  by_cases hempty : value.isEmpty = true
  · -- The entry is left out, and no other has its name.
    rw [if_pos hempty, List.lookup_eq_none_iff]
    intro member hmember
    obtain ⟨other, hother, rfl⟩ := List.mem_map.mp hmember
    obtain ⟨hmem, hfull⟩ := List.mem_filter.mp hother
    rw [bne_iff_ne]
    rintro rfl
    have hsame : some other.2 = some value := by
      rw [← (Entries.lookup_eq_some hnames).mpr hmem, (Entries.lookup_eq_some hnames).mpr h]
    rw [Option.some.inj hsame, hempty] at hfull
    cases hfull
  · -- The entry is kept, under its own name.
    rw [if_neg hempty, Entries.lookup_eq_some hgiven, List.mem_map]
    exact ⟨(name, value), List.mem_filter.mpr ⟨h, by simp [hempty]⟩, rfl⟩

variable {check : AccessCheck}

/-- The members of the attributes of a check: the verb, and what is given of the resource. -/
def attributeMembers (check : AccessCheck) : List (Text × Json) :=
  ("verb", .str check.verb) :: (check.resource.members.filter fun entry =>
    !entry.2.isEmpty).map fun entry => (entry.1, .str entry.2)

theorem attributesJson_eq (check : AccessCheck) :
    attributesJson check = .obj check.attributeMembers := rfl

/-- Each attribute of a resource comes back, whether or not it is given. -/
theorem decode_attribute {name value : Text} (h : (name, value) ∈ check.resource.members) :
    FieldName.decode ⟨name, none⟩ ("" : Text) .text check.attributeMembers = .value value := by
  have hnames : (check.resource.members.map Prod.fst).Nodup := by
    simp only [ResourceAttributes.members, List.map_cons, List.map_nil]
    decide
  -- The verb stands in front of the attributes, and none of them has its name.
  have hverb : name ≠ "verb" := by
    rintro rfl
    have hmem : ("verb" : Text) ∈ check.resource.members.map Prod.fst := List.mem_map_of_mem h
    simp only [ResourceAttributes.members, List.map_cons, List.map_nil] at hmem
    exact absurd hmem (by decide)
  have hlookup : check.attributeMembers.lookup name =
      if value.isEmpty then none else some (.str value) := by
    rw [attributeMembers, Entries.lookup_cons, if_neg hverb]
    exact lookup_given hnames h
  -- An attribute that is left out is read as the empty text that it is.
  by_cases hempty : value.isEmpty = true
  · rw [if_pos hempty] at hlookup
    simp only [FieldName.decode, FieldName.find?, hlookup, Option.bind_none]
    rw [Text.isEmpty_iff.mp hempty]
  · rw [if_neg hempty] at hlookup
    simp only [FieldName.decode, FieldName.find?, hlookup]
    rfl

theorem decodeAttributes_attributesJson (check : AccessCheck) :
    decodeAttributes (attributesJson check) = .value (check.verb, check.resource) := by
  have hgiven : ∀ entry ∈ check.resource.members,
      FieldName.decode ⟨entry.1, none⟩ ("" : Text) .text check.attributeMembers =
        .value entry.2 := fun _ hentry => decode_attribute hentry
  simp only [ResourceAttributes.members, List.forall_mem_cons] at hgiven
  obtain ⟨hgroup, hversion, hresource, hname, hnamespace, -⟩ := hgiven
  have hverb : FieldName.require ⟨"verb", none⟩ .text check.attributeMembers =
      .value check.verb := require_eq_value undoes_text rfl
  rw [attributesJson_eq]
  exact ap_eq_value (map_eq_value hverb) (ap_eq_value (ap_eq_value (ap_eq_value (ap_eq_value
    (map_eq_value hgroup) hversion) hresource) hname) hnamespace)

/-- From the access review that is posted for a check one reads that check. -/
theorem undoes_accessReview : decodeReview.Undoes accessReview := by
  intro check
  have htexts : (list text).Undoes UserInfo.texts := undoes_list undoes_text
  have hextra : (object (list text)).Undoes fun extra =>
      .obj (extra.map fun entry => (entry.1, UserInfo.texts entry.2)) := undoes_object htexts
  have hattributes := under_eq_value (decodeAttributes_attributesJson check)
    (.name "resourceAttributes")
  refine under_eq_value (?spec : decodeSpec _ = .value check) (.name "spec")
  refine ap_eq_value (ap_eq_value (ap_eq_value (ap_eq_value (map_eq_value hattributes) ?user)
    ?uid) ?groups) ?extra
  case user => exact require_eq_value undoes_text rfl
  case uid => exact require_eq_value undoes_text rfl
  case groups => exact require_eq_value htexts rfl
  case extra => exact require_eq_value hextra rfl

theorem accessReview_injective : Function.Injective accessReview := by
  intro first second hsame
  have hfirst := undoes_accessReview first
  rw [hsame, undoes_accessReview second] at hfirst
  exact (Decoded.value.inj hfirst).symm

end AccessCheck

/-! ## What questions post -/

namespace ApiServer.Client

variable {client : Client} {query : Query} {exchange : Exchange} {request : Request}

/-- Each try of a question sends the same body. -/
theorem request_of_mem_block (h : request ∈ client.block (query, exchange)) :
    request.method = query.subject.method ∧ request.body = query.body? := by
  obtain ⟨url, hprepare⟩ := prepare_of_mem_since h
  obtain ⟨-, hmethod, -, hbody⟩ := built_of_prepare hprepare
  exact ⟨hmethod, hbody⟩

/-- Every request of a run is sent for a question that the run asks. -/
theorem exists_visit_of_mem_since {c : Consultation α}
    (h : request ∈ exchange.since (c.run client.handler exchange).state) :
    ∃ visit ∈ c.visits client.handler exchange, request ∈ client.block visit := by
  rw [Exchange.since, sent_run, List.drop_left] at h
  exact List.mem_flatMap.mp h

end ApiServer.Client

/-! ## What reviews post -/

open ClusterRules (EntersWorkspace entryCheck)

/-- A review asks for an access only if it brings a cluster into a workspace, and then for the user
of its request and that workspace. -/
theorem entry_of_visit {admissionReview : Json} {resource : Text} {handler : Handler σ} {state : σ}
    {visit : Query × σ} {check : AccessCheck}
    (hvisit : visit ∈ (review admissionReview resource).visits handler state)
    (haccess : visit.1 = .access check) :
    ∃ request old new, requestOf admissionReview = .ok request ∧
      dispatch request resource = .ok .cluster ∧
      Carried "Cluster" Cluster.decode request old (some new) ∧
      EntersWorkspace request.operation old (some new) new.workspace ∧
      check = entryCheck request.userInfo new.workspace := by
  obtain ⟨queries, hasked, hbranches⟩ := branches_review admissionReview resource
  have hsublist : (((review admissionReview resource).visits handler state).map Prod.fst).Sublist
      queries := hbranches.visits_sublist state
  have hquestion : .access check ∈ queries := by
    rw [← haccess]
    exact hsublist.subset (List.mem_map_of_mem hvisit)
  obtain ⟨request, kind, hrequest, hdispatch, hmay⟩ := hasked (List.ne_nil_of_mem hquestion)
  cases hmay with
  | nothing => cases hquestion
  | @cluster old new hcarried =>
    have hcheck : check = entryCheck request.userInfo new.workspace := by
      cases old <;> simpa [ClusterRules.questions] using hquestion
    refine ⟨request, old, new, hrequest, hdispatch, hcarried, ?_, hcheck⟩
    by_contra hstays
    -- A cluster that stays where it is gives no access to ask for.
    have hstay : ¬ ∃ workspace, EntersWorkspace request.operation old (some new) workspace := by
      rintro ⟨workspace, henters⟩
      obtain ⟨_, ⟨⟩, rfl⟩ := henters.named
      exact hstays henters
    have hlookups := ClusterRules.asksOnly_review_of_stay hrequest hdispatch (.inr hcarried) hstay
    have hlookup := hlookups.forall_mem_visits state visit hvisit
    rw [haccess] at hlookup
    cases hlookup

/-- The body of an access review says exactly which access is asked for.  From the body for a check
one reads that check: its subject with all groups in order and all extra values, its verb, and its
resource, with empty texts for the attributes that are not there.  This body is posted with every
try of the check, so two requests have the same body if they are sent for the same check, and only
then.  A review sends a body only if it creates a cluster in a workspace or moves one there from
another, and each is then that for the user of its request and the new workspace; nothing else of
the review has a part in it. -/
theorem access_review_says_check (client : Client) :
    (∀ check, AccessCheck.decodeReview (accessReview check) = .value check) ∧
    (∀ (check : AccessCheck) (exchange : Exchange),
      ∀ request ∈ client.block (.access check, exchange),
        request.method = "POST" ∧ request.body = some (accessReview check)) ∧
    (∀ (first second : AccessCheck) (exchange exchange' : Exchange),
      ∀ request ∈ client.block (.access first, exchange),
      ∀ request' ∈ client.block (.access second, exchange'),
        (request.body = request'.body ↔ first = second)) ∧
    (∀ (admissionReview : Json) (resource : Text) (exchange : Exchange),
      ∀ sent ∈ exchange.since ((review admissionReview resource).run client.handler exchange).state,
      ∀ body, sent.body = some body →
        ∃ request old new, requestOf admissionReview = .ok request ∧
          dispatch request resource = .ok .cluster ∧
          Carried "Cluster" Cluster.decode request old (some new) ∧
          EntersWorkspace request.operation old (some new) new.workspace ∧
          body = accessReview (entryCheck request.userInfo new.workspace)) := by
  have hposted : ∀ (check : AccessCheck) (exchange : Exchange),
      ∀ request ∈ client.block (.access check, exchange),
        request.method = "POST" ∧ request.body = some (accessReview check) :=
    fun _ _ _ hrequest => Client.request_of_mem_block hrequest
  refine ⟨AccessCheck.undoes_accessReview, hposted,
    fun first second exchange exchange' request hrequest request' hrequest' => ?_,
    fun admissionReview resource exchange sent hsent body hbody => ?_⟩
  · rw [(hposted first exchange request hrequest).2,
      (hposted second exchange' request' hrequest').2, Option.some.injEq]
    exact AccessCheck.accessReview_injective.eq_iff
  · obtain ⟨⟨query, found⟩, hvisit, hblock⟩ := Client.exists_visit_of_mem_since hsent
    have hquery : query.body? = some body := by
      rw [← hbody]
      exact (Client.request_of_mem_block hblock).2.symm
    -- Only a question for an access posts anything.
    cases query with
    | user name => cases hquery
    | setting name => cases hquery
    | access check =>
      obtain ⟨request, old, new, hrequest, hdispatch, hcarried, henters, hcheck⟩ :=
        entry_of_visit hvisit rfl
      refine ⟨request, old, new, hrequest, hdispatch, hcarried, henters, ?_⟩
      rw [← hcheck]
      exact (Option.some.inj hquery).symm

/-- A cluster with a creator in a workspace, as a request carries it. -/
def ownedMembers (workspace : Text) : List (Text × Json) := [
  ("metadata", .obj [("annotations", .obj [(ClusterRules.creatorId, .str "u-1")])]),
  ("spec", .obj [("fleetWorkspaceName", .str workspace)])]

/-- A user in two groups, with an extra value. -/
def groupedUser : UserInfo where
  username := "bob"
  groups := ["devs", "ops"]
  extra := [("scopes", ["read"])]

/-- A request of that user to move the cluster into another workspace. -/
def movingRequest : AdmissionRequest where
  uid := "1"
  resource := { resource := "clusters" }
  operation := .update
  userInfo := groupedUser
  object := some (ownedMembers "fleet-default")
  oldObject := some (ownedMembers "fleet-local")

/-- A review of that request. -/
def movingReview : Json := .obj [("request", movingRequest.toJson)]

theorem requestOf_movingReview : requestOf movingReview = .ok movingRequest := rfl

/-- After a fault the access review is posted once more, with the same body, for the user and the
workspace to which the cluster is moved. -/
theorem moving_posts_entry_twice :
    let exchange : Exchange := ⟨grantingReplies, []⟩
    let sent := exchange.since ((review movingReview "").run testClient.handler exchange).state
    sent.map (fun request => (request.method, request.body.isSome)) =
      [("POST", true), ("POST", true), ("GET", false)] ∧
    (∀ request ∈ sent, ∀ body, request.body = some body →
      AccessCheck.decodeReview body = .value (entryCheck groupedUser "fleet-default")) ∧
    ∀ request ∈ testClient.block (.access (entryCheck groupedUser "fleet-default"), exchange),
      request.body = some (accessReview (entryCheck groupedUser "fleet-default")) := by
  intro exchange sent
  obtain ⟨hreads, hposted, -, hreviewed⟩ := access_review_says_check testClient
  refine ⟨by decide +kernel, fun request hrequest body hbody => ?_,
    fun request hrequest => (hposted _ _ request hrequest).2⟩
  -- A body that is sent is that of the check on entry, so only its workspace is left to find.
  obtain ⟨held, old, new, hheld, -, hcarried, -, rfl⟩ :=
    hreviewed movingReview "" exchange request hrequest body hbody
  rw [requestOf_movingReview] at hheld
  cases hheld
  have hworkspace : new.workspace = "fleet-default" := by
    cases hcarried with
    | create hcreate hnew => cases hcreate
    | update hupdate hold hnew =>
      cases hnew
      rfl
  rw [hworkspace]
  exact hreads _

end AdmissionControl
