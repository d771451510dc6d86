/-
  AdmissionControl.Proofs.Review.Rewriting

  Reviews whose requests are written otherwise.

  The objects of a request are kept as they came, so requests whose objects are written otherwise
  are not the same.  `AdmissionRequest.SameFor decoder` says that they are but for that, and that
  the decoder cannot tell the objects apart.  It holds of what is decoded from two requests when one
  is the other written otherwise, its objects as objects of the kind included
  (`AdmissionRequest.alike_of_eqvGen`).

  The rules look at the decoded objects alone.  So the two reviews are the same, with every
  question, record and reply, or in both something does not decode, with as many errors
  (`review_alike`).
-/

import AdmissionControl.Proofs.Model.Rewriting
import AdmissionControl.Proofs.Review.Carrying

namespace AdmissionControl

/-! ## Failures and courses that are alike -/

/-- In both cases the same thing does not decode, with as many errors. -/
inductive Failure.DecodeAlike : Failure → Failure → Prop where
  | undecodable (subject model : String) (first first' : Detail) {more more' : List Detail} :
      more.length = more'.length →
      DecodeAlike (.undecodable subject ⟨model, first, more⟩)
        (.undecodable subject ⟨model, first', more'⟩)

/-- Such failures have one text. -/
theorem Failure.DecodeAlike.message? {failure other : Failure} (h : failure.DecodeAlike other) :
    failure.message? = other.message? := by
  cases h with
  | undecodable subject model first first' hcount =>
    simp [Failure.message?, DecodeReport.message, DecodeReport.details, hcount]

/-- The results are the same, or failures that are alike. -/
inductive Except.DecodeAlike : Except Failure α → Except Failure α → Prop where
  | same (result : Except Failure α) : DecodeAlike result result
  | error {failure other : Failure} : failure.DecodeAlike other →
      DecodeAlike (.error failure) (.error other)

theorem Except.DecodeAlike.bind {first second : Except Failure α} {f : α → Except Failure β}
    (h : DecodeAlike first second) {g : α → Except Failure β}
    (hfg : ∀ a, DecodeAlike (f a) (g a)) : DecodeAlike (first >>= f) (second >>= g) := by
  cases h with
  | same => cases first with
    | ok a => exact hfg a
    | error failure => exact .same _
  | error hfailure => exact .error hfailure

/-- The consultations are the same, or fail at once by failures that are alike. -/
inductive Consultation.DecodeAlike : Consultation α → Consultation α → Prop where
  | same (c : Consultation α) : DecodeAlike c c
  | fail {failure other : Failure} : failure.DecodeAlike other →
      DecodeAlike (.fail failure) (.fail other)

theorem Consultation.DecodeAlike.bind {first second : Consultation α}
    (h : first.DecodeAlike second) (f : α → Consultation β) :
    (first >>= f).DecodeAlike (second >>= f) := by
  cases h with
  | same c => exact .same _
  | fail hfailure => exact .fail hfailure

theorem Except.DecodeAlike.ofExcept {first second : Except Failure α}
    (h : DecodeAlike first second) :
    (Consultation.ofExcept id first).DecodeAlike (.ofExcept id second) := by
  cases h with
  | same result => exact .same _
  | error hfailure => exact .fail hfailure

/-! ## Requests with objects that are alike -/

/-- There is no object in either case, or the decoder cannot tell the two apart. -/
inductive ObjectsAlike (decoder : Decoder α) :
    Option (List (Text × Json)) → Option (List (Text × Json)) → Prop where
  | none : ObjectsAlike decoder none none
  | some {members others : List (Text × Json)} :
      (decoder (.obj members)).Alike Eq (decoder (.obj others)) →
      ObjectsAlike decoder (some members) (some others)

namespace AdmissionRequest

/-- A request without what it carries. -/
def withoutObjects (request : AdmissionRequest) : AdmissionRequest :=
  { request with object := none, oldObject := none }

/-- Two requests are the same, but for objects which the decoder cannot tell apart. -/
structure SameFor (decoder : Decoder α) (first second : AdmissionRequest) : Prop where
  withoutObjects : first.withoutObjects = second.withoutObjects
  object : ObjectsAlike decoder first.object second.object
  oldObject : ObjectsAlike decoder first.oldObject second.oldObject

end AdmissionRequest

/-- The one request is the other with other objects. -/
theorem AdmissionRequest.SameFor.exists_objects {decoder : Decoder α}
    {first second : AdmissionRequest} (h : first.SameFor decoder second) :
    ∃ object oldObject, second = { first with object, oldObject } := by
  refine ⟨second.object, second.oldObject, ?_⟩
  have hrest := h.withoutObjects
  cases first
  cases second
  simp only [AdmissionRequest.withoutObjects, mk.injEq] at hrest ⊢
  simp [hrest]

section

open Decoder (FieldFollows)

variable {α : Type} {decoder : Decoder α}

theorem ObjectsAlike.equivalence : Equivalence (ObjectsAlike decoder) := by
  have hequivalence := Decoded.Alike.equivalence (α := α) eq_equivalence
  refine ⟨fun object => ?refl, fun h => ?symm, fun h h' => ?trans⟩
  case refl => cases object with
    | none => exact .none
    | some members => exact .some (hequivalence.refl _)
  case symm => cases h with
    | none => exact .none
    | some halike => exact .some (hequivalence.symm halike)
  case trans => cases h with
    | none => exact h'
    | some halike => cases h' with
      | some halike' => exact .some (hequivalence.trans halike halike')

theorem AdmissionRequest.SameFor.equivalence :
    Equivalence (AdmissionRequest.SameFor decoder) where
  refl _ := ⟨rfl, ObjectsAlike.equivalence.refl _, ObjectsAlike.equivalence.refl _⟩
  symm h := ⟨h.withoutObjects.symm, ObjectsAlike.equivalence.symm h.object,
    ObjectsAlike.equivalence.symm h.oldObject⟩
  trans h h' := ⟨h.withoutObjects.trans h'.withoutObjects,
    ObjectsAlike.equivalence.trans h.object h'.object,
    ObjectsAlike.equivalence.trans h.oldObject h'.oldObject⟩

variable {kind : ResourceKind} {members others : Entries Json}

/-- The object of a request, seen by a decoder for it. -/
theorem objectsAlike_of_rewritten (hfollows : decoder.Follows (.ofCarried (some kind)))
    {name : FieldName}
    (h : Field.Rewritten ⟨name, .optional, .orNull (.ofCarried (some kind))⟩ members others) :
    (name.decode none (.optional (.object .any)) members).Alike (ObjectsAlike decoder)
      (name.decode none (.optional (.object .any)) others) := by
  cases h with
  | same hvalue =>
    -- Nothing is asked of an object while the request is decoded, so it is kept as it came.
    have hany : Decoder.FieldFollows (name.decode none (.optional (.object .any)))
        ⟨name, .optional, .orNull (.object .anything)⟩ :=
      .optional (.optional (.object (.anything id)))
    have halike := hany.alike (.same hvalue)
    exact halike.mono fun _ _ hsame => hsame ▸ ObjectsAlike.equivalence.refl _
  | inside hread hread' hrewrites =>
    rw [Field.read?_eq_find? (by rintro ⟨⟩)] at hread hread'
    cases hrewrites with
    | orNull hrewrites =>
      -- An object rewritten inside decodes alike, whenever it is decoded.
      have halike := hfollows.alike hrewrites
      obtain ⟨object, object', rfl, rfl⟩ := hrewrites.exists_members
      have hdecoded : ∀ members, Decoder.optional (.object .any) (.obj members) =
          .value (some members) := fun members => AdmissionRequest.undoes_object (some members)
      simp only [FieldName.decode, hread, hread', hdecoded]
      exact .value (.some halike)

/-- A step in a request leaves the same one but for its objects, or as many errors. -/
theorem AdmissionRequest.alike_of_rewrites (hfollows : decoder.Follows (.ofCarried (some kind)))
    {j other : Json} (h : (Shape.model (.request (some kind))).Rewrites j other) :
    (AdmissionRequest.decode j).Alike (AdmissionRequest.SameFor decoder)
      (AdmissionRequest.decode other) := by
  obtain ⟨members, others, rfl, rfl⟩ := h.exists_members
  have hfields : ∀ field ∈ (ModelName.request (some kind)).fields,
      field.Rewritten members others := fun _ hfield => h.field hfield
  simp only [ModelName.fields, List.forall_mem_cons] at hfields
  obtain ⟨huid, hkind, hresource, hname, hnamespaceName, hoperation, huserInfo, hobject,
    holdObject, hdryRun, -⟩ := hfields
  -- The two objects are kept as they came; every other field decodes to the same value.
  have hobjects := objectsAlike_of_rewritten hfollows hobject
  have holdObjects := objectsAlike_of_rewritten hfollows holdObject
  refine .ap (.ap (.ap (.ap (.ap (.ap (.ap (.ap (.ap (.map
    ((FieldFollows.optional .text).alike huid) ?same)
    ((FieldFollows.optional GroupVersionKind.follows).alike hkind))
    ((FieldFollows.optional GroupVersionResource.follows).alike hresource))
    ((FieldFollows.optional .text).alike hname))
    ((FieldFollows.optional .text).alike hnamespaceName))
    ((FieldFollows.required (.name Operation.isSome_ofName?)).alike hoperation))
    ((FieldFollows.optional UserInfo.follows).alike huserInfo))
    hobjects) holdObjects)
    ((FieldFollows.optional (.anything _)).alike hdryRun)
  case same =>
    rintro _ _ rfl _ _ rfl _ _ rfl _ _ rfl _ _ rfl _ _ rfl _ _ rfl object object' hobject
      oldObject oldObject' holdObject _ _ rfl
    exact ⟨rfl, hobject, holdObject⟩

/-- So does any number of steps. -/
theorem AdmissionRequest.alike_of_eqvGen (hfollows : decoder.Follows (.ofCarried (some kind)))
    {j other : Json}
    (h : Relation.EqvGen (Shape.model (.request (some kind))).Rewrites j other) :
    (AdmissionRequest.decode j).Alike (AdmissionRequest.SameFor decoder)
      (AdmissionRequest.decode other) :=
  .of_eqvGen decode SameFor.equivalence (fun _ _ => alike_of_rewrites hfollows) h

end

/-! ## Reviews -/

section

variable {α : Type} {decoder : Decoder α} {request other : AdmissionRequest}

theorem decodeObject_alike (name : String) {object object' : Option (List (Text × Json))}
    (h : ObjectsAlike decoder object object') :
    Except.DecodeAlike (decodeObject name decoder object) (decodeObject name decoder object') := by
  cases h with
  | none => exact .same _
  | @some members others halike =>
    simp only [decodeObject]
    -- One value, or errors of which there are as many.
    cases hfirst : decoder (.obj members) with
    | value a =>
      rw [hfirst] at halike
      obtain ⟨_, hsecond, rfl⟩ := halike.of_value
      rw [hsecond]
      exact .same _
    | errors detail more =>
      rw [hfirst] at halike
      obtain ⟨_, _, hsecond, hcount⟩ := halike.of_errors
      rw [hsecond]
      exact .error (.undecodable name name _ _ hcount)

/-- The rules look at the same objects, or one of them does not decode in either case. -/
theorem ruleContext_alike (name : String) (h : request.SameFor decoder other) :
    Except.DecodeAlike (ruleContext name decoder request) (ruleContext name decoder other) := by
  have hunless : ∀ (p : Prop) [Decidable p] {object object' : Option (List (Text × Json))},
      ObjectsAlike decoder object object' →
      Except.DecodeAlike (if p then .ok none else decodeObject name decoder object)
        (if p then .ok none else decodeObject name decoder object') := by
    intro p _ object object' halike
    split
    · exact .same _
    · exact decodeObject_alike name halike
  obtain ⟨object, oldObject, rfl⟩ := h.exists_objects
  rw [ruleContext_eq, ruleContext_eq]
  exact .bind (hunless _ h.oldObject) fun old => .bind (hunless _ h.object) fun new => .same _

theorem decideBy_alike (name : String) (rules : List (Rule α)) (h : request.SameFor decoder other) :
    (decideBy name decoder rules request).DecodeAlike (decideBy name decoder rules other) := by
  have hcontext := (ruleContext_alike name h).ofExcept
  obtain ⟨object, oldObject, rfl⟩ := h.exists_objects
  rw [decideBy, decideBy]
  split
  · exact hcontext.bind _
  · exact .same _

variable {kind : ResourceKind} {rules : List (Rule α)} {first second : Json}
  {members others : List (Text × Json)} {resource : Text}

/-- Reviews of requests that decode alike, for a kind that the decoder belongs to. -/
theorem review_alike_of_decode
    (hdecide : ∀ request, decideRequest kind request = decideBy kind.kind decoder rules request)
    (hfirst : first.member? "request" = some (.obj members))
    (hsecond : second.member? "request" = some (.obj others))
    (h : (AdmissionRequest.decode (.obj members)).Alike (AdmissionRequest.SameFor decoder)
      (AdmissionRequest.decode (.obj others)))
    (hkind : ∀ request, requestOf first = .ok request →
      ∀ found, dispatch request resource = .ok found → found = kind) :
    (review first resource).DecodeAlike (review second resource) := by
  cases hdecode : AdmissionRequest.decode (.obj members) with
  | value request =>
    rw [hdecode] at h
    obtain ⟨other, hdecode', hsame⟩ := h.of_value
    have hrequest : requestOf first = .ok request := requestOf_eq_ok.mpr ⟨_, hfirst, hdecode⟩
    have hother : requestOf second = .ok other := requestOf_eq_ok.mpr ⟨_, hsecond, hdecode'⟩
    obtain ⟨object, oldObject, rfl⟩ := hsame.exists_objects
    cases hfound : dispatch request resource with
    | ok found =>
      obtain rfl := hkind request hrequest found hfound
      rw [review_of_dispatch hrequest hfound, review_of_dispatch hother hfound, hdecide, hdecide]
      exact (decideBy_alike _ rules hsame).bind _
    | error failure =>
      -- Objects have no part in the dispatch.
      have hfound' : dispatch { request with object, oldObject } resource = .error failure := hfound
      rw [review_of_request hrequest, review_of_request hother, evaluateRequest, evaluateRequest,
        hfound, hfound']
      exact .same _
  | errors detail more =>
    rw [hdecode] at h
    obtain ⟨detail', more', hdecode', hcount⟩ := h.of_errors
    -- A request with errors ends the review, so only their number counts.
    have hfails : ∀ {admissionReview : Json} {members : List (Text × Json)} {detail : Detail}
        {more : List Detail}, admissionReview.member? "request" = some (.obj members) →
        AdmissionRequest.decode (.obj members) = .errors detail more →
        review admissionReview resource =
          .fail (.undecodable "admission request" ⟨"AdmissionRequest", detail, more⟩) := by
      intro admissionReview members detail more hmember hdecode
      rw [review, requestOf, hmember]
      simp only [hdecode]
      rfl
    rw [hfails hfirst hdecode, hfails hsecond hdecode']
    exact .fail (.undecodable _ _ _ _ hcount)

end

/-- Reviews whose requests are written otherwise, the objects as objects of the kind whose rules
apply. -/
theorem review_alike {kind : ResourceKind} {first second : Json} {members others : Entries Json}
    {resource : Text} (hfirst : first.member? "request" = some (.obj members))
    (hsecond : second.member? "request" = some (.obj others))
    (h : Relation.EqvGen (Shape.model (.request (some kind))).Rewrites (.obj members) (.obj others))
    (hkind : ∀ request, requestOf first = .ok request →
      ∀ found, dispatch request resource = .ok found → found = kind) :
    (review first resource).DecodeAlike (review second resource) := by
  cases kind with
  | cluster =>
    exact review_alike_of_decode (fun _ => rfl) hfirst hsecond
      (AdmissionRequest.alike_of_eqvGen Cluster.follows h) hkind
  | project =>
    exact review_alike_of_decode (fun _ => rfl) hfirst hsecond
      (AdmissionRequest.alike_of_eqvGen Project.follows h) hkind

/-- Decoding reads what counts for the fields, and nothing else.  Let a value be written otherwise
in any number of steps, each of which changes one of its models, wherever it stands: a member goes
from one name of its field to the other, which is not there; a member of no field comes or goes; one
with the other name comes beside the wire name; a trivial value that is as good as none is replaced
by another, or deleted if this uncovers no value that counts; or the members change their order.
Then the same cluster, project or request is decoded, or there are as many errors.  A review of a
request that is written otherwise, its objects as objects of the kind whose rules apply, asks, logs
and responds the same, or fails at once in both cases, for something that does not decode and with
as many errors. -/
theorem decoding_reads_what_counts :
    (∀ j other, Relation.EqvGen (Shape.model .cluster).Rewrites j other →
      (Cluster.decode j).Alike Eq (Cluster.decode other)) ∧
    (∀ j other, Relation.EqvGen (Shape.model .project).Rewrites j other →
      (Project.decode j).Alike Eq (Project.decode other)) ∧
    (∀ j other, Relation.EqvGen (Shape.model (.request none)).Rewrites j other →
      (AdmissionRequest.decode j).Alike Eq (AdmissionRequest.decode other)) ∧
    ∀ (kind : ResourceKind) (first second : Json) (members others : Entries Json) (resource : Text),
      first.member? "request" = some (.obj members) →
      second.member? "request" = some (.obj others) →
      Relation.EqvGen (Shape.model (.request (some kind))).Rewrites (.obj members) (.obj others) →
      (∀ request, requestOf first = .ok request →
        ∀ found, dispatch request resource = .ok found → found = kind) →
      (review first resource).DecodeAlike (review second resource) :=
  ⟨fun _ _ => Cluster.follows.alike_of_eqvGen, fun _ _ => Project.follows.alike_of_eqvGen,
    fun _ _ => AdmissionRequest.follows.alike_of_eqvGen,
    fun _ _ _ _ _ _ hfirst hsecond h hkind => review_alike hfirst hsecond h hkind⟩

/-- A request to update a cluster in a workspace, with its new specification. -/
def respecifying (spec : List (Text × Json)) : List (Text × Json) := [
  ("uid", .str "1"),
  ("operation", .str "UPDATE"),
  ("resource", .obj [("resource", .str "clusters")]),
  ("oldObject", .obj [("spec", .obj [("fleetWorkspaceName", .str "fleet-default")])]),
  ("object", .obj [("spec", .obj spec)])]

/-- A review of that request. -/
def respecifyingReview (spec : List (Text × Json)) : Json :=
  .obj [("request", .obj (respecifying spec))]

/-- The field of a cluster's workspace. -/
def workspaceField : Field :=
  ⟨⟨"fleetWorkspaceName", some "fleet_workspace_name"⟩, .orTrivial, .text⟩

theorem workspaceField_mem : workspaceField ∈ ModelName.clusterSpec.fields :=
  List.mem_cons_of_mem _ List.mem_cons_self

/-- A step in the specification of the new cluster is one in the request. -/
theorem rewrites_respecifying {spec spec' : List (Text × Json)}
    (h : ModelName.clusterSpec.Reshapes spec spec') :
    (Shape.model (.request (some .cluster))).Rewrites (.obj (respecifying spec))
      (.obj (respecifying spec')) := by
  have hcluster : (Shape.model .cluster).Rewrites (.obj [("spec", .obj spec)])
      (.obj (Entries.put "spec" (.obj spec') [("spec", .obj spec)])) :=
    .inside (List.mem_cons_of_mem _ List.mem_cons_self) rfl (.reshape h)
  have hobject : (⟨⟨"object", none⟩, .optional, .orNull (.ofCarried (some .cluster))⟩ : Field) ∈
      (ModelName.request (some .cluster)).fields := by simp [ModelName.fields]
  show Shape.Rewrites _ _ (.obj (Entries.put "object" (.obj (Entries.put "spec" (.obj spec')
    [("spec", .obj spec)])) (respecifying spec)))
  exact .inside hobject rfl (.orNull hcluster)

/-- The workspace goes to its other name, and a member that no field reads comes in front. -/
theorem eqvGen_respecifying :
    Relation.EqvGen (Shape.model (.request (some .cluster))).Rewrites
      (.obj (respecifying [("fleetWorkspaceName", .str "fleet-default")]))
      (.obj (respecifying [("paused", .bool true),
        ("fleet_workspace_name", .str "fleet-default")])) := by
  have hrename : ModelName.clusterSpec.Reshapes [("fleetWorkspaceName", .str "fleet-default")]
      (Entries.rename "fleetWorkspaceName" "fleet_workspace_name"
        [("fleetWorkspaceName", .str "fleet-default")]) :=
    .rename workspaceField_mem (by decide) (by decide) (by decide) rfl
  have hadd : ModelName.clusterSpec.Reshapes [("fleet_workspace_name", .str "fleet-default")]
      (Entries.put "paused" (.bool true) [("fleet_workspace_name", .str "fleet-default")]) :=
    .add (.bool true) (by decide)
  have hpermute : ModelName.clusterSpec.Reshapes
      [("fleet_workspace_name", .str "fleet-default"), ("paused", .bool true)]
      [("paused", .bool true), ("fleet_workspace_name", .str "fleet-default")] :=
    .permute (by decide) (.swap _ _ _)
  -- Three steps inside the specification: another name, a member more, another order.
  exact .trans _ _ _ (.rel _ _ (rewrites_respecifying hrename))
    (.trans _ _ _ (.rel _ _ (rewrites_respecifying hadd))
      (.rel _ _ (rewrites_respecifying hpermute)))

/-- A driver that is null is deleted. -/
theorem rewrites_null_driver : (Shape.model .cluster).Rewrites
    (.obj [("status", .obj [("driver", .null)])]) (.obj [("status", .obj [])]) := by
  have hdelete : ModelName.clusterStatus.Reshapes [("driver", .null)]
      (Entries.remove "driver" [("driver", .null)]) :=
    .delete List.mem_cons_self rfl rfl rfl rfl
  have hfield : (⟨⟨"status", none⟩, .optional, .model .clusterStatus⟩ : Field) ∈
      ModelName.cluster.fields := by simp [ModelName.fields]
  show Shape.Rewrites _ _ (.obj (Entries.put "status" _ [("status", .obj [("driver", .null)])]))
  exact .inside hfield rfl (.reshape hdelete)

/-- A name that is no text goes to the other name of its field. -/
theorem rewrites_display_name : (Shape.model .project).Rewrites
    (.obj [("spec", .obj [("displayName", .int 1)])])
    (.obj [("spec", .obj [("display_name", .int 1)])]) := by
  have hrename : ModelName.projectSpec.Reshapes [("displayName", .int 1)]
      (Entries.rename "displayName" "display_name" [("displayName", .int 1)]) :=
    .rename List.mem_cons_self (by decide) (by decide) (by decide) rfl
  have hfield : (⟨⟨"spec", none⟩, .optional, .model .projectSpec⟩ : Field) ∈
      ModelName.project.fields := by simp [ModelName.fields]
  show Shape.Rewrites _ _ (.obj (Entries.put "spec" _ [("spec", .obj [("displayName", .int 1)])]))
  exact .inside hfield rfl (.reshape hrename)

/-- Reviews of the update with its workspace under either name are alike.  So it is with models by
themselves: a driver that is null counts as none, a name that is no text is one error under either
of its names, and the members of a request may come in any order. -/
theorem workspace_under_other_name_alike :
    Relation.EqvGen (Shape.model (.request (some .cluster))).Rewrites
      (.obj (respecifying [("fleetWorkspaceName", .str "fleet-default")]))
      (.obj (respecifying [("paused", .bool true),
        ("fleet_workspace_name", .str "fleet-default")])) ∧
    ((review (respecifyingReview [("fleetWorkspaceName", .str "fleet-default")]) "").DecodeAlike
      (review (respecifyingReview [("paused", .bool true),
        ("fleet_workspace_name", .str "fleet-default")]) "")) ∧
    (Cluster.decode (.obj [("status", .obj [("driver", .null)])])).Alike Eq
      (Cluster.decode (.obj [("status", .obj [])])) ∧
    (Project.decode (.obj [("spec", .obj [("displayName", .int 1)])])).Alike Eq
      (Project.decode (.obj [("spec", .obj [("display_name", .int 1)])])) ∧
    (AdmissionRequest.decode (.obj [("uid", .str "1"), ("operation", .str "CONNECT")])).Alike Eq
      (AdmissionRequest.decode (.obj [("operation", .str "CONNECT"), ("uid", .str "1")])) := by
  obtain ⟨hclusters, hprojects, hrequests, hreviews⟩ := decoding_reads_what_counts
  have hswap : (ModelName.request none).Reshapes
      [("uid", .str "1"), ("operation", .str "CONNECT")]
      [("operation", .str "CONNECT"), ("uid", .str "1")] :=
    .permute (by decide) (.swap _ _ _)
  refine ⟨eqvGen_respecifying, hreviews .cluster _ _ _ _ "" rfl rfl eqvGen_respecifying ?_,
    hclusters _ _ (.rel _ _ rewrites_null_driver), hprojects _ _ (.rel _ _ rewrites_display_name),
    hrequests _ _ (.rel _ _ (.reshape hswap))⟩
  intro request hrequest found hfound
  -- The review is dispatched by its request, which the rewriting left alone.
  have hheld : (requestOf (respecifyingReview [("fleetWorkspaceName", .str "fleet-default")])).map
      (dispatch · "") = .ok (.ok .cluster) := rfl
  rw [hrequest] at hheld
  have hsame : dispatch request "" = .ok .cluster := Except.ok.inj hheld
  rw [hsame] at hfound
  exact (Except.ok.inj hfound).symm

/-- Deleting an empty workspace does change something where the other name has one: this one counts
then.  With the empty one the update is denied, and without it allowed. -/
theorem deletion_uncovers_workspace :
    let members : List (Text × Json) :=
      [("fleetWorkspaceName", .str ""), ("fleet_workspace_name", .str "fleet-default")]
    let deleted := Entries.remove workspaceField.name.wire members
    let allowed := fun spec => ((review (respecifyingReview spec) "").run
      ({} : Directory).handler []).result.toOption.map ReviewResponse.allowed
    workspaceField.name.find? members = some (workspaceField.name.wire, .str "") ∧
    workspaceField.presence = .orTrivial ∧ (Json.str "").isTrivial = true ∧
    Cluster.decode (.obj [("spec", .obj members)]) = .value {} ∧
    Cluster.decode (.obj [("spec", .obj deleted)]) =
      .value { spec := { fleetWorkspaceName := "fleet-default" } } ∧
    allowed members = some false ∧ allowed deleted = some true :=
  ⟨rfl, rfl, rfl, rfl, rfl, by decide +kernel, by decide +kernel⟩

end AdmissionControl
