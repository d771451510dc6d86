/-
  AdmissionControl.Proofs.Review.Carrying

  Objects that an operation does not carry.

  A creation has no object before it, a deletion none after it, and other operations than these and
  updates none at all.  A request may hold one nevertheless.  What the rules look at is the same
  without it (`decideBy_of_carriesSame`), so no step of a review depends on it: neither on what it
  holds, nor on whether it decodes (`review_of_carriesSame`).

  A member of a request is replaced in the review itself (`Json.withRequestMember`).  The decoding
  of every other field passes over it, so the request decodes to the same one with that object
  replaced (`requestOf_withObject`, `requestOf_withOldObject`).

  An object that the operation does carry must be there.  Without it there is nothing for rules to
  look at, and the review fails at once (`review_of_lacks`).
-/

import AdmissionControl.Proofs.Review.Failing
import AdmissionControl.Proofs.Model.RoundTrip
import AdmissionControl.Proofs.Model.Shape

namespace AdmissionControl

/-! ## Fields beside a replaced member -/

namespace FieldName

variable {field : FieldName} {name : Text}

/-- A field is found as before when a member is replaced that has none of its names. -/
theorem find?_put (hname : name ∉ field.names) (value : Json) (members : Entries Json) :
    field.find? (Entries.put name value members) = field.find? members := by
  refine find?_congr fun other hother => ?_
  rw [Entries.lookup_put, if_neg]
  rintro rfl
  exact hname hother

theorem decode_put (hname : name ∉ field.names) {default : α} {decoder : Decoder α}
    {value : Json} {members : Entries Json} {outcome : Decoded α}
    (h : field.decode default decoder members = outcome) :
    field.decode default decoder (Entries.put name value members) = outcome := by
  rw [decode, find?_put hname]
  exact h

theorem require_put (hname : name ∉ field.names) {decoder : Decoder α} {value : Json}
    {members : Entries Json} {outcome : Decoded α} (h : field.require decoder members = outcome) :
    field.require decoder (Entries.put name value members) = outcome := by
  rw [require, find?_put hname]
  exact h

/-- The field whose member is replaced is read from what replaces it. -/
theorem decode_put_self {decoder : Decoder α} {encode : α → Json} (h : decoder.Undoes encode)
    (default a : α) (members : Entries Json) :
    field.decode default decoder (Entries.put field.wire (encode a) members) = .value a := by
  apply decode_eq_value h
  rw [Entries.lookup_put, if_pos rfl]

end FieldName

/-! ## Requests with a member replaced -/

/-- An object, or null where there is none. -/
def Json.objectOrNull (object : Option (List (Text × Json))) : Json :=
  (object.map Json.obj).getD .null

/-- A review with one member of its request replaced. -/
def Json.withRequestMember (admissionReview : Json) (name : Text) (value : Json) : Json :=
  match admissionReview with
  | .obj members =>
    match members.lookup ("request" : Text) with
    | some (.obj fields) =>
      .obj (Entries.put "request" (.obj (Entries.put name value fields)) members)
    | _ => .obj members
  | other => other

namespace AdmissionRequest

open FieldName (decode_put require_put decode_put_self)

variable {request : AdmissionRequest} {members : Entries Json}

/-- With its object replaced, a request decodes to the same one but for that. -/
theorem decode_put_object (h : decode (.obj members) = .value request)
    (object : Option (List (Text × Json))) :
    decode (.obj (Entries.put "object" (Json.objectOrNull object) members)) =
      .value { request with object } := by
  rw [decode_eq_value_iff] at h ⊢
  obtain ⟨huid, hkind, hresource, hname, hnamespaceName, hoperation, huserInfo, -, holdObject,
    hdryRun⟩ := h
  exact ⟨decode_put (by decide) huid, decode_put (by decide) hkind,
    decode_put (by decide) hresource, decode_put (by decide) hname,
    decode_put (by decide) hnamespaceName, require_put (by decide) hoperation,
    decode_put (by decide) huserInfo, decode_put_self undoes_object _ _ _,
    decode_put (by decide) holdObject, decode_put (by decide) hdryRun⟩

/-- With its old object replaced, a request decodes to the same one but for that. -/
theorem decode_put_oldObject (h : decode (.obj members) = .value request)
    (oldObject : Option (List (Text × Json))) :
    decode (.obj (Entries.put "oldObject" (Json.objectOrNull oldObject) members)) =
      .value { request with oldObject } := by
  rw [decode_eq_value_iff] at h ⊢
  obtain ⟨huid, hkind, hresource, hname, hnamespaceName, hoperation, huserInfo, hobject, -,
    hdryRun⟩ := h
  exact ⟨decode_put (by decide) huid, decode_put (by decide) hkind,
    decode_put (by decide) hresource, decode_put (by decide) hname,
    decode_put (by decide) hnamespaceName, require_put (by decide) hoperation,
    decode_put (by decide) huserInfo, decode_put (by decide) hobject,
    decode_put_self undoes_object _ _ _, decode_put (by decide) hdryRun⟩

end AdmissionRequest

variable {admissionReview other : Json} {request : AdmissionRequest}

/-- The request of a review with a member of its request replaced. -/
theorem requestOf_withRequestMember {name : Text} {value : Json} {replaced : AdmissionRequest}
    (hrequest : requestOf admissionReview = .ok request)
    (hreplaced : ∀ fields, AdmissionRequest.decode (.obj fields) = .value request →
      AdmissionRequest.decode (.obj (Entries.put name value fields)) = .value replaced) :
    requestOf (admissionReview.withRequestMember name value) = .ok replaced := by
  obtain ⟨fields, hmember, hdecode⟩ := requestOf_eq_ok.mp hrequest
  cases admissionReview with
  | obj members =>
    have hlookup : members.lookup ("request" : Text) = some (.obj fields) := hmember
    rw [requestOf_eq_ok]
    refine ⟨Entries.put name value fields, ?_, hreplaced fields hdecode⟩
    simp only [Json.withRequestMember, hlookup]
    show (Entries.put "request" (.obj (Entries.put name value fields)) members).lookup
      ("request" : Text) = _
    rw [Entries.lookup_put, if_pos rfl]
  | _ => cases hmember

theorem requestOf_withObject (hrequest : requestOf admissionReview = .ok request)
    (object : Option (List (Text × Json))) :
    requestOf (admissionReview.withRequestMember "object" (.objectOrNull object)) =
      .ok { request with object } :=
  requestOf_withRequestMember hrequest fun _ hdecode =>
    AdmissionRequest.decode_put_object hdecode object

theorem requestOf_withOldObject (hrequest : requestOf admissionReview = .ok request)
    (oldObject : Option (List (Text × Json))) :
    requestOf (admissionReview.withRequestMember "oldObject" (.objectOrNull oldObject)) =
      .ok { request with oldObject } :=
  requestOf_withRequestMember hrequest fun _ hdecode =>
    AdmissionRequest.decode_put_oldObject hdecode oldObject

/-! ## What an operation carries -/

namespace AdmissionRequest

/-- Requests that differ in objects which their operation does not carry: a creation in the old one,
a deletion in the new one, and a connection in either. -/
inductive CarriesSame (request : AdmissionRequest) : AdmissionRequest → Prop where
  | create (oldObject : Option (List (Text × Json))) : request.operation = .create →
      CarriesSame request { request with oldObject }
  | delete (object : Option (List (Text × Json))) : request.operation = .delete →
      CarriesSame request { request with object }
  | connect (object oldObject : Option (List (Text × Json))) : request.operation = .connect →
      CarriesSame request { request with object, oldObject }

/-- The request does not hold an object that its operation carries. -/
inductive Lacks (request : AdmissionRequest) : Prop where
  | object : request.operation = .create ∨ request.operation = .update →
      request.object = none → Lacks request
  | oldObject : request.operation = .update ∨ request.operation = .delete →
      request.oldObject = none → Lacks request

end AdmissionRequest

section

variable {α : Type} {another : AdmissionRequest} {kind : String} {decoder : Decoder α}

/-- The rules look at the same objects. -/
theorem decideBy_of_carriesSame (h : request.CarriesSame another) (rules : List (Rule α)) :
    decideBy kind decoder rules another = decideBy kind decoder rules request := by
  -- The context reads only the objects that the operation carries.
  cases h with
  | create oldObject hop =>
    have hcontext : ruleContext kind decoder { request with oldObject } =
        ruleContext kind decoder request := by
      simp only [ruleContext, hop, if_true]
    rw [decideBy, decideBy, hcontext]
  | delete object hop =>
    have hcontext : ruleContext kind decoder { request with object } =
        ruleContext kind decoder request := by
      simp only [ruleContext, hop, if_true]
    rw [decideBy, decideBy, hcontext]
  | connect object oldObject hop =>
    have hnone : ¬ hasRules request.operation = true := by
      rw [hop]
      decide
    rw [decideBy, decideBy, if_neg hnone, if_neg hnone]

/-- So a review of the one request is that of the other. -/
theorem review_of_carriesSame (hrequest : requestOf admissionReview = .ok request)
    (hother : requestOf other = .ok another) (h : request.CarriesSame another)
    (resource : Text) : review other resource = review admissionReview resource := by
  have hdecide : ∀ kind, decideRequest kind another = decideRequest kind request := by
    intro kind
    cases kind with
    | cluster => exact decideBy_of_carriesSame h _
    | project => exact decideBy_of_carriesSame h _
  have hdispatch : dispatch another resource = dispatch request resource := by
    cases h <;> rfl
  have hconclude : ∀ kind, concludeReview kind another = concludeReview kind request := by
    intro kind
    cases h <;> rfl
  -- Dispatch, decision and conclusion are the same, and a review is made of these.
  cases hkind : dispatch request resource with
  | ok kind =>
    rw [review_of_dispatch hrequest hkind, review_of_dispatch hother (hdispatch.trans hkind),
      hdecide, hconclude]
  | error failure =>
    rw [review_of_request hrequest, review_of_request hother, evaluateRequest, evaluateRequest,
      hdispatch, hkind]
    rfl

/-! ## Objects that are missing -/

/-- A request that carries its objects lacks none. -/
theorem Carried.not_lacks {old new : Option α} (h : Carried kind decoder request old new) :
    ¬ request.Lacks := by
  -- The new object is missing, or the old one.
  rintro (⟨hop, hnone⟩ | ⟨hop, hnone⟩)
  · cases h with
    | create _ hnew =>
      rw [hnone] at hnew
      cases hnew
    | update _ _ hnew =>
      rw [hnone] at hnew
      cases hnew
    | delete hdelete _ =>
      rw [hdelete] at hop
      exact hop.elim nofun nofun
  · cases h with
    | create hcreate _ =>
      rw [hcreate] at hop
      exact hop.elim nofun nofun
    | update _ hold _ =>
      rw [hnone] at hold
      cases hold
    | delete _ hold =>
      rw [hnone] at hold
      cases hold

/-- A request that lacks an object has rules, whose part it is to look at the object. -/
theorem AdmissionRequest.Lacks.hasRules (h : request.Lacks) :
    AdmissionControl.hasRules request.operation = true := by
  rcases h with ⟨hop | hop, -⟩ | ⟨hop | hop, -⟩
  all_goals
    rw [hop]
    rfl

/-- Where an object is missing the decision fails, whatever the rules, so none of them is run. -/
theorem decideBy_of_lacks (kind : String) (decoder : Decoder α) (h : request.Lacks) :
    ∃ failure : Failure, failure.OfDecoding ∧
      ∀ rules : List (Rule α), decideBy kind decoder rules request = .fail failure := by
  cases hcontext : ruleContext kind decoder request with
  | ok context => exact absurd h (carried_of_ruleContext h.hasRules hcontext).not_lacks
  | error failure =>
    refine ⟨failure, ofDecoding_of_ruleContext hcontext, fun rules => ?_⟩
    rw [decideBy, if_pos h.hasRules, hcontext]
    rfl

/-- So does the review, which asks and logs nothing. -/
theorem review_of_lacks {resource : Text} {resourceKind : ResourceKind}
    (hrequest : requestOf admissionReview = .ok request)
    (hdispatch : dispatch request resource = .ok resourceKind) (h : request.Lacks) :
    ∃ failure : Failure, failure.OfDecoding ∧ review admissionReview resource = .fail failure := by
  have hdecide : ∃ failure : Failure, failure.OfDecoding ∧
      decideRequest resourceKind request = .fail failure := by
    cases resourceKind with
    | cluster =>
      obtain ⟨failure, hfailure, hrules⟩ := decideBy_of_lacks "Cluster" Cluster.decode h
      exact ⟨failure, hfailure, hrules _⟩
    | project =>
      obtain ⟨failure, hfailure, hrules⟩ := decideBy_of_lacks "Project" Project.decode h
      exact ⟨failure, hfailure, hrules _⟩
  obtain ⟨failure, hfailure, hfails⟩ := hdecide
  refine ⟨failure, hfailure, ?_⟩
  rw [review_of_dispatch hrequest hdispatch, hfails]
  rfl

end

/-! ## Reviews -/

/-- Objects that an operation does not carry have no influence.  Null or any object in the place of
the old one of a creation, of the new one of a deletion, and of both of a connection, leaves the
run of a review as it is, over every handler; and a connection is allowed.  A request that lacks an
object which its operation does carry fails as one that does not decode, whatever the rules, and a
review of it asks and logs nothing. -/
theorem uncarried_objects_without_influence (hrequest : requestOf admissionReview = .ok request)
    (resource : Text) (handler : Handler σ) (state : σ) :
    let run := fun admissionReview : Json => (review admissionReview resource).run handler state
    let withOld := fun (admissionReview : Json) (object : Option (List (Text × Json))) =>
      admissionReview.withRequestMember "oldObject" (.objectOrNull object)
    let withNew := fun (admissionReview : Json) (object : Option (List (Text × Json))) =>
      admissionReview.withRequestMember "object" (.objectOrNull object)
    (request.operation = .create → ∀ object,
      run (withOld admissionReview object) = run admissionReview) ∧
    (request.operation = .delete → ∀ object,
      run (withNew admissionReview object) = run admissionReview) ∧
    (request.operation = .connect →
      (∀ old new, run (withOld (withNew admissionReview new) old) = run admissionReview) ∧
      ∀ kind, dispatch request resource = .ok kind →
        (run admissionReview).result = .ok (Decision.respond (.allow []) request.uid)) ∧
    (request.Lacks →
      (∀ {α : Type} (kind : String) (decoder : Decoder α), ∃ failure : Failure,
        failure.OfDecoding ∧
          ∀ rules : List (Rule α), decideBy kind decoder rules request = .fail failure) ∧
      ∀ kind, dispatch request resource = .ok kind → ∃ failure : Failure, failure.OfDecoding ∧
        review admissionReview resource = .fail failure) := by
  intro run withOld withNew
  -- Each part comes to two requests that carry the same.
  have hsame : ∀ other another, requestOf other = .ok another →
      request.CarriesSame another → run other = run admissionReview := by
    intro other another hother hcarries
    have hreview := review_of_carriesSame hrequest hother hcarries resource
    exact congrArg (Consultation.run handler · state) hreview
  refine ⟨fun hop object => ?create, fun hop object => ?delete,
    fun hop => ⟨fun old new => ?connect, fun kind hdispatch => ?allowed⟩,
    fun hlacks => ⟨fun kind decoder => decideBy_of_lacks kind decoder hlacks,
      fun kind hdispatch => review_of_lacks hrequest hdispatch hlacks⟩⟩
  case create => exact hsame _ _ (requestOf_withOldObject hrequest object) (.create object hop)
  case delete => exact hsame _ _ (requestOf_withObject hrequest object) (.delete object hop)
  case connect =>
    exact hsame _ _ (requestOf_withOldObject (requestOf_withObject hrequest new) old)
      (.connect new old hop)
  case allowed =>
    -- A connection has no rules, so it is allowed without any.
    have hnone : ¬ hasRules request.operation = true := by
      rw [hop]
      decide
    have hdecide : decideRequest kind request = pure (.allow []) := by
      cases kind with
      | cluster => exact if_neg hnone
      | project => exact if_neg hnone
    show ((review admissionReview resource).run handler state).result = _
    rw [review_of_dispatch hrequest hdispatch, hdecide]
    rfl

/-- Members that do not decode as a project. -/
def malformedMembers : List (Text × Json) := [("spec", .int 3)]

/-- A malformed old project beside a new one, and a malformed new one beside an old one, change
nothing; but the new one must be there. -/
theorem malformed_project_without_influence :
    (∃ failure, decodeObject "Project" Project.decode (some malformedMembers) = .error failure) ∧
    ((review ((projectReview .create (some []) none).withRequestMember "oldObject"
        (.objectOrNull (some malformedMembers))) "").run ({} : Directory).handler []) =
      (review (projectReview .create (some []) none) "").run ({} : Directory).handler [] ∧
    ((review ((projectReview .delete none (some [])).withRequestMember "object"
        (.objectOrNull (some malformedMembers))) "").run ({} : Directory).handler []) =
      (review (projectReview .delete none (some [])) "").run ({} : Directory).handler [] ∧
    ((review (projectReview .connect none none) "").run ({} : Directory).handler []).result =
      .ok (Decision.respond (.allow []) "1") ∧
    ∃ failure : Failure, failure.OfDecoding ∧
      review (projectReview .create none (some [])) "" = .fail failure := by
  have hdispatch : ∀ operation object oldObject,
      dispatch (projectRequest operation object oldObject) "" = .ok .project :=
    fun _ _ _ => rfl
  -- One review for each operation, with a malformed object where it is not carried.
  obtain ⟨hcreate, -⟩ := uncarried_objects_without_influence
    (requestOf_projectReview .create (some []) none) "" ({} : Directory).handler []
  obtain ⟨-, hdelete, -⟩ := uncarried_objects_without_influence
    (requestOf_projectReview .delete none (some [])) "" ({} : Directory).handler []
  obtain ⟨-, -, hconnect, -⟩ := uncarried_objects_without_influence
    (requestOf_projectReview .connect none none) "" ({} : Directory).handler []
  obtain ⟨-, -, -, hlacks⟩ := uncarried_objects_without_influence
    (requestOf_projectReview .create none (some [])) "" ({} : Directory).handler []
  exact ⟨⟨_, rfl⟩, hcreate rfl _, hdelete rfl _, (hconnect rfl).2 .project (hdispatch _ _ _),
    (hlacks (.object (.inl rfl) rfl)).2 .project (hdispatch _ _ _)⟩

end AdmissionControl
