/-
  AdmissionControl.Proofs.Review.Dispatch

  Under which rules a review falls.

  A request falls under a kind because the caller names its resource, because the request does and
  the caller does not, or, where nothing registered is named, because of the request's own kind
  (`Designates`).  `dispatch` finds exactly this kind (`dispatch_eq_ok_iff`), and where there is
  none it fails with the name that was asked for (`dispatch_of_undesignated`).

  What a review does depends on the resource through the dispatch alone (`review_of_dispatch_eq`).
  So the ways to come to one kind give the same run, and the routes of the service the same answer.
-/

import AdmissionControl.Proofs.Evaluation
import AdmissionControl.Service.Answer

namespace AdmissionControl

/-! ## Registered names -/

namespace ResourceKind

/-- A name under which a resource is registered. -/
def Registered (name : Text) : Prop := ∃ kind : ResourceKind, name = kind.resource

/-- The name of a kind that has rules. -/
def RegisteredKind (name : Text) : Prop := ∃ kind : ResourceKind, name = kind.kind

theorem ofResource?_eq_some_iff {name : Text} {kind : ResourceKind} :
    ofResource? name = some kind ↔ name = kind.resource := by
  constructor
  · intro hfound
    have hname := List.find?_some hfound
    rw [beq_iff_eq] at hname
    exact hname.symm
  · rintro rfl
    cases kind <;> rfl

theorem ofKind?_eq_some_iff {name : Text} {kind : ResourceKind} :
    ofKind? name = some kind ↔ name = kind.kind := by
  constructor
  · intro hfound
    have hname := List.find?_some hfound
    rw [beq_iff_eq] at hname
    exact hname.symm
  · rintro rfl
    cases kind <;> rfl

theorem ofResource?_eq_none_iff {name : Text} : ofResource? name = none ↔ ¬ Registered name := by
  rw [Option.eq_none_iff_forall_ne_some, Registered, not_exists]
  exact forall_congr' fun kind => not_congr ofResource?_eq_some_iff

theorem ofKind?_eq_none_iff {name : Text} : ofKind? name = none ↔ ¬ RegisteredKind name := by
  rw [Option.eq_none_iff_forall_ne_some, RegisteredKind, not_exists]
  exact forall_congr' fun kind => not_congr ofKind?_eq_some_iff

theorem resource_ne_empty (kind : ResourceKind) : (kind.resource : Text) ≠ "" := by
  cases kind <;> decide

end ResourceKind

/-! ## Dispatch -/

open ResourceKind

/-- The resource that the caller names, if it is not empty, and the request together designate a
kind. -/
inductive Designates (request : AdmissionRequest) : Text → ResourceKind → Prop where
  /-- The caller names the resource. -/
  | named (kind : ResourceKind) : Designates request kind.resource kind
  /-- The request names the resource, and the caller none. -/
  | requested {kind : ResourceKind} : request.resource.resource = kind.resource →
      Designates request "" kind
  /-- Nobody names a registered resource, so the request's own kind counts. -/
  | ofKind {kind : ResourceKind} : ¬ Registered request.resource.resource →
      request.kind.kind = kind.kind → Designates request "" kind

/-- The name that a request asks rules for: the resource of the caller, or else that of the
request, or else the request's kind. -/
def AdmissionRequest.askedFor (request : AdmissionRequest) (resource : Text) : Text :=
  if resource ≠ "" then resource
  else if request.resource.resource ≠ "" then request.resource.resource
  else request.kind.kind

variable {request : AdmissionRequest} {resource : Text} {kind : ResourceKind}

theorem dispatch_of_named (hnamed : resource ≠ "") : dispatch request resource =
    (ofResource? resource).elim (.error (.unsupportedResource resource)) .ok := by
  have hgiven : (resource == "") = false := beq_eq_false_iff_ne.mpr hnamed
  simp only [dispatch, hgiven, Bool.false_eq_true, if_false, Option.or_none]
  cases ofResource? resource with
  | some kind => rfl
  | none => rfl

theorem dispatch_of_unnamed : dispatch request "" =
    ((ofResource? request.resource.resource).or (ofKind? request.kind.kind)).elim
      (.error (.unsupportedResource (request.askedFor ""))) .ok := by
  have hname : (if request.resource.resource == "" then request.kind.kind
      else request.resource.resource) = request.askedFor "" := by
    by_cases hempty : request.resource.resource = ""
    · simp [AdmissionRequest.askedFor, hempty]
    · simp [AdmissionRequest.askedFor, hempty]
  simp only [dispatch, beq_self_eq_true, if_true, hname]
  cases (ofResource? request.resource.resource).or (ofKind? request.kind.kind) with
  | some kind => rfl
  | none => rfl

theorem elim_eq_ok_iff {found : Option α} {failure : ε} {a : α} :
    found.elim (.error failure) .ok = (.ok a : Except ε α) ↔ found = some a := by
  cases found <;> simp

/-- A request is dispatched to the kind that is designated, and to no other. -/
theorem dispatch_eq_ok_iff : dispatch request resource = .ok kind ↔
    Designates request resource kind := by
  constructor
  · intro hdispatch
    -- What the path names goes first, then the resource of the request, then its kind.
    by_cases hnamed : resource = ""
    · subst hnamed
      rw [dispatch_of_unnamed, elim_eq_ok_iff, Option.or_eq_some_iff] at hdispatch
      rcases hdispatch with hresource | ⟨hunknown, hkind⟩
      · exact .requested (ofResource?_eq_some_iff.mp hresource)
      · exact .ofKind (ofResource?_eq_none_iff.mp hunknown) (ofKind?_eq_some_iff.mp hkind)
    · rw [dispatch_of_named hnamed, elim_eq_ok_iff, ofResource?_eq_some_iff] at hdispatch
      rw [hdispatch]
      exact .named kind
  · intro hdesignates
    cases hdesignates with
    | named =>
      rw [dispatch_of_named kind.resource_ne_empty, elim_eq_ok_iff]
      exact ofResource?_eq_some_iff.mpr rfl
    | requested hresource =>
      rw [dispatch_of_unnamed, ofResource?_eq_some_iff.mpr hresource]
      rfl
    | ofKind hunknown hkind =>
      rw [dispatch_of_unnamed, ofResource?_eq_none_iff.mpr hunknown,
        ofKind?_eq_some_iff.mpr hkind]
      rfl

/-- A request that falls under no kind fails by the name that it asks for. -/
theorem dispatch_of_undesignated (hnone : ∀ kind, ¬ Designates request resource kind) :
    dispatch request resource = .error (.unsupportedResource (request.askedFor resource)) := by
  -- The error names what was asked for where dispatch looked.
  by_cases hnamed : resource = ""
  · subst hnamed
    have hunknown : ofResource? request.resource.resource = none := by
      rw [ofResource?_eq_none_iff]
      rintro ⟨kind, hkind⟩
      exact hnone kind (.requested hkind)
    have hunknownKind : ofKind? request.kind.kind = none := by
      rw [ofKind?_eq_none_iff]
      rintro ⟨kind, hkind⟩
      exact hnone kind (.ofKind (ofResource?_eq_none_iff.mp hunknown) hkind)
    rw [dispatch_of_unnamed, hunknown, hunknownKind]
    rfl
  · have hunknown : ofResource? resource = none := by
      rw [ofResource?_eq_none_iff]
      rintro ⟨kind, rfl⟩
      exact hnone kind (.named kind)
    rw [dispatch_of_named hnamed, hunknown, AdmissionRequest.askedFor, if_pos hnamed]
    rfl

/-- A request falls under no kind exactly if the caller names a resource that is not registered, or
names none and neither the request's resource nor its kind is. -/
theorem undesignated_iff : (∀ kind, ¬ Designates request resource kind) ↔
    (resource ≠ "" ∧ ¬ Registered resource) ∨
      (resource = "" ∧ ¬ Registered request.resource.resource ∧
        ¬ RegisteredKind request.kind.kind) := by
  constructor
  · intro hnone
    by_cases hnamed : resource = ""
    · subst hnamed
      have hunknown : ¬ Registered request.resource.resource := fun ⟨kind, hkind⟩ =>
        hnone kind (.requested hkind)
      exact .inr ⟨rfl, hunknown, fun ⟨kind, hkind⟩ => hnone kind (.ofKind hunknown hkind)⟩
    · refine .inl ⟨hnamed, ?_⟩
      rintro ⟨kind, rfl⟩
      exact hnone kind (.named kind)
  · -- Each way to designate a kind is excluded in its case, and the other case does not arise.
    intro hunknown kind hdesignates
    cases hdesignates with
    | named =>
      rcases hunknown with ⟨-, hnot⟩ | ⟨hempty, -⟩
      · exact hnot ⟨kind, rfl⟩
      · exact kind.resource_ne_empty hempty
    | requested hresource =>
      rcases hunknown with ⟨hnamed, -⟩ | ⟨-, hnot, -⟩
      · exact hnamed rfl
      · exact hnot ⟨kind, hresource⟩
    | ofKind _ hkind =>
      rcases hunknown with ⟨hnamed, -⟩ | ⟨-, -, hnot⟩
      · exact hnamed rfl
      · exact hnot ⟨kind, hkind⟩

/-! ## Reviews -/

variable {admissionReview : Json} {other : Text}

/-- A review depends on the resource that the caller names through the dispatch alone. -/
theorem review_of_dispatch_eq (hrequest : requestOf admissionReview = .ok request)
    (hdispatch : dispatch request resource = dispatch request other) :
    review admissionReview resource = review admissionReview other := by
  rw [review_of_request hrequest, review_of_request hrequest, evaluateRequest, evaluateRequest,
    hdispatch]

/-- Two resources that designate the same kind give the same review. -/
theorem review_of_designates (hrequest : requestOf admissionReview = .ok request)
    (hfirst : Designates request resource kind) (hsecond : Designates request other kind) :
    review admissionReview resource = review admissionReview other := by
  apply review_of_dispatch_eq hrequest
  rw [dispatch_eq_ok_iff.mpr hfirst, dispatch_eq_ok_iff.mpr hsecond]

/-- A review of a request that falls under no kind fails at once. -/
theorem review_of_undesignated (hrequest : requestOf admissionReview = .ok request)
    (hnone : ∀ kind, ¬ Designates request resource kind) :
    review admissionReview resource =
      .fail (.unsupportedResource (request.askedFor resource)) := by
  rw [review_of_request hrequest, evaluateRequest, dispatch_of_undesignated hnone]
  rfl

/-! ## Routes -/

/-- What is posted to the path of a route for reviews is answered by that route. -/
theorem Route.answer_post (depth : Nat) (handler : Handler σ) (target : Option ResourceKind)
    (body : List UInt8) (state : σ) :
    (⟨"POST", (Route.admission target).path, body⟩ : ServiceRequest).answer depth handler state =
      .ok ((Route.admission target).answer depth handler body state) := by
  have hpath : Route.pathOfTarget (Route.admission target).path =
      .ok (Route.admission target).path.toList := by
    -- The paths of the three routes are fixed, so they are read and found by evaluation.
    have hread : (Route.pathOfTarget (Route.admission target).path).toOption =
        some (Route.admission target).path.toList := by
      rcases target with _ | _ | _ <;> decide +kernel
    cases hresult : Route.pathOfTarget (Route.admission target).path with
    | error failure => rw [hresult] at hread; cases hread
    | ok path => rw [hresult] at hread; exact congrArg Except.ok (Option.some.inj hread)
  have hroute : Route.ofPath? (Route.admission target).path.toList =
      some (.admission target) := by
    rcases target with _ | _ | _ <;> decide +kernel
  have hmethod : ((Route.admission target).methods.any fun method =>
      ServiceRequest.methodName ⟨"POST", (Route.admission target).path, body⟩ == method) = true :=
    rfl
  have hhead : ServiceRequest.asksHead ⟨"POST", (Route.admission target).path, body⟩ = false := rfl
  rw [ServiceRequest.answer, hpath]
  show Except.ok _ = _
  rw [hhead, ServiceRequest.answerUnder, hroute]
  simp only [hmethod, if_true, Bool.false_eq_true, if_false]

/-- Two routes that give the same review of a body give the same answer to it. -/
theorem Route.answer_of_review_eq {depth : Nat} {first second : Option ResourceKind}
    {body : List UInt8} (hbody : Json.ofBytes depth body = .ok admissionReview)
    (hsame : review admissionReview (Route.admission first).resource =
      review admissionReview (Route.admission second).resource)
    (handler : Handler σ) (state : σ) :
    (Route.admission first).answer depth handler body state =
      (Route.admission second).answer depth handler body state := by
  rw [Route.answer, Route.answer, hbody]
  simp only [hsame]

/-- However a review comes to a kind of resource, its run is the same: by the resource that the
request names, with none or an empty one from the caller; by the request's own kind where its
resource is not registered; or by the resource that the caller names.  Where these name nothing that
is registered, the review fails at once by the name that it asks for: nothing is asked or logged,
whatever the operation and the objects.  The general route of the service gives the same answer to a
body as the route of the kind. -/
theorem ways_of_dispatch_agree (hrequest : requestOf admissionReview = .ok request)
    (handler : Handler σ) (state : σ) :
    (∀ kind : ResourceKind,
      (request.resource.resource = kind.resource ∨
        (¬ Registered request.resource.resource ∧ request.kind.kind = kind.kind)) →
      dispatch request "" = .ok kind ∧
      (review admissionReview "").run handler state =
        (review admissionReview kind.resource).run handler state ∧
      ∀ (depth : Nat) (body : List UInt8), Json.ofBytes depth body = .ok admissionReview →
        (⟨"POST", (Route.admission none).path, body⟩ : ServiceRequest).answer
            depth handler state =
          (⟨"POST", (Route.admission (some kind)).path, body⟩ : ServiceRequest).answer
            depth handler state) ∧
    (∀ named : Text,
      (named ≠ "" ∧ ¬ Registered named) ∨
        (named = "" ∧ ¬ Registered request.resource.resource ∧
          ¬ RegisteredKind request.kind.kind) →
      (review admissionReview named).run handler state =
        ⟨.error (.unsupportedResource (request.askedFor named)), [], state⟩) := by
  refine ⟨fun kind hkind => ?_, fun named hnamed => ?_⟩
  · -- Dispatch comes to the same kind in both ways, so the two reviews are one.
    have hunnamed : Designates request "" kind := by
      rcases hkind with hresource | ⟨hunknown, hname⟩
      · exact .requested hresource
      · exact .ofKind hunknown hname
    have hsame := review_of_designates hrequest hunnamed (.named kind)
    refine ⟨dispatch_eq_ok_iff.mpr hunnamed, by rw [hsame], fun depth body hbody => ?_⟩
    rw [Route.answer_post, Route.answer_post]
    have hroutes : review admissionReview (Route.admission none).resource =
        review admissionReview (Route.admission (some kind)).resource := hsame
    rw [Route.answer_of_review_eq hbody hroutes]
  · rw [review_of_undesignated hrequest (undesignated_iff.mpr hnamed)]
    rfl

/-- A review of a request that names a kind and no resource. -/
def kindOnlyReview : Json := .obj [("request", .obj [
  ("uid", .str "1"), ("operation", .str "DELETE"), ("kind", .obj [("kind", .str "Project")]),
  ("oldObject", .obj [])])]

/-- The request of that review. -/
def kindOnlyRequest : AdmissionRequest where
  uid := "1"
  kind := { kind := "Project" }
  operation := .delete
  oldObject := some []

/-- The body that holds that review. -/
def kindOnlyBody : List UInt8 := Text.utf8 (kindOnlyReview.text .compact).toList

theorem ofText_kindOnlyReview :
    Json.ofText 100 (kindOnlyReview.text .compact) = .ok kindOnlyReview := by
  rfl

theorem ofBytes_kindOnlyBody : Json.ofBytes 100 kindOnlyBody = .ok kindOnlyReview := by
  have hdecode : Text.decode? kindOnlyBody = some (kindOnlyReview.text .compact) := by
    decide +kernel
  rw [Json.ofBytes, hdecode]
  exact ofText_kindOnlyReview

theorem kind_only_review_dispatched :
    requestOf kindOnlyReview = .ok kindOnlyRequest ∧
    (review kindOnlyReview "").run ({} : Directory).handler [] =
      (review kindOnlyReview "projects").run ({} : Directory).handler [] ∧
    (⟨"POST", "/v1/webhook/validation", kindOnlyBody⟩ : ServiceRequest).answer
        100 ({} : Directory).handler [] =
      (⟨"POST", "/v1/webhook/validation/projects.management.cattle.io", kindOnlyBody⟩ :
        ServiceRequest).answer 100 ({} : Directory).handler [] ∧
    (review kindOnlyReview "pods").run ({} : Directory).handler [] =
      ⟨.error (.unsupportedResource "pods"), [], []⟩ := by
  have hrequest : requestOf kindOnlyReview = .ok kindOnlyRequest := rfl
  have hunknown : ∀ name : Text, (ofResource? name).isNone = true → ¬ Registered name :=
    fun name hnone => ofResource?_eq_none_iff.mp (Option.isNone_iff_eq_none.mp hnone)
  obtain ⟨hways, hnothing⟩ := ways_of_dispatch_agree hrequest ({} : Directory).handler []
  obtain ⟨-, hsame, hroutes⟩ := hways .project (.inr ⟨hunknown "" rfl, rfl⟩)
  exact ⟨hrequest, hsame, hroutes 100 kindOnlyBody ofBytes_kindOnlyBody,
    hnothing "pods" (.inl ⟨by decide, hunknown "pods" rfl⟩)⟩

end AdmissionControl
