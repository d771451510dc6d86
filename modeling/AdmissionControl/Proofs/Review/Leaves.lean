/-
  AdmissionControl.Proofs.Review.Leaves

  The objects of a review, and the texts and numbers in them.

  If the leaves of a review pass a test, so do those of its request (`passes_of_requestOf`), and the
  objects that this carries, decoded, pass it as well (`Carried.all`).  So a rule looks at nothing
  but what passes it.
-/

import AdmissionControl.Proofs.Evaluation
import AdmissionControl.Proofs.Model.Leaves

namespace AdmissionControl

open Decoder (FromLeaves)

variable {α : Type} {test : Json.LeafTest} {P : α → Prop} {name : String} {decoder : Decoder α}
  {admissionReview : Json} {request : AdmissionRequest}

/-! ## The request of a review -/

/-- A review that holds a request has the members from which this one decodes. -/
theorem requestOf_eq_ok : requestOf admissionReview = .ok request ↔
    ∃ fields, admissionReview.member? "request" = some (.obj fields) ∧
      AdmissionRequest.decode (.obj fields) = .value request := by
  constructor
  · intro h
    unfold requestOf at h
    split at h
    next fields hmember =>
      split at h
      next found hreport =>
        cases h
        exact ⟨fields, hmember, Decoded.report_eq_ok.mp hreport⟩
      next => cases h
    next => cases h
  · rintro ⟨fields, hmember, hdecode⟩
    rw [requestOf, hmember]
    simp only [Decoded.report_eq_ok.mpr hdecode]

theorem passes_of_requestOf (hempty : test.onText "" = true)
    (h : admissionReview.allLeaves test = true)
    (hrequest : requestOf admissionReview = .ok request) : request.Passes test := by
  obtain ⟨fields, hmember, hdecode⟩ := requestOf_eq_ok.mp hrequest
  cases admissionReview with
  | obj members =>
    exact AdmissionRequest.fromLeaves_decode hempty _ _ (Json.allLeaves_of_lookup h hmember) hdecode
  | _ => cases hmember

/-- A request for a project, with what may be its objects. -/
def projectRequest (operation : Operation) (object oldObject : Option (List (Text × Json))) :
    AdmissionRequest where
  uid := "1"
  resource := { resource := "projects" }
  operation := operation
  object := object
  oldObject := oldObject

/-- A review of that request. -/
def projectReview (operation : Operation) (object oldObject : Option (List (Text × Json))) :
    Json :=
  .obj [("request", (projectRequest operation object oldObject).toJson)]

theorem requestOf_projectReview (operation : Operation)
    (object oldObject : Option (List (Text × Json))) :
    requestOf (projectReview operation object oldObject) =
      .ok (projectRequest operation object oldObject) := by
  rw [requestOf_eq_ok]
  exact ⟨_, rfl, AdmissionRequest.undoes_toJson (projectRequest operation object oldObject)⟩

/-! ## The objects that it carries -/

/-- The objects that a rule looks at have `P`. -/
structure RuleContext.All (P : α → Prop) (context : RuleContext α) : Prop where
  old : ∀ object, context.old = some object → P object
  new : ∀ object, context.new = some object → P object

theorem RuleContext.All.mono {Q : α → Prop} {context : RuleContext α} (h : context.All P)
    (hwider : ∀ a, P a → Q a) : context.All Q where
  old object hobject := hwider _ (h.old object hobject)
  new object hobject := hwider _ (h.new object hobject)

theorem passes_of_decodeObject (hdecoder : FromLeaves test P decoder)
    {object : Option (List (Text × Json))} {a : α}
    (hobject : ∀ members, object = some members → (Json.obj members).allLeaves test = true)
    (h : decodeObject name decoder object = .ok (some a)) : P a := by
  cases object with
  | none => cases h
  | some members =>
    rw [decodeObject] at h
    split at h
    next found hreport =>
      cases h
      exact hdecoder _ _ (hobject members rfl) (Decoded.report_eq_ok.mp hreport)
    next => cases h

/-- The objects of a request that passes, decoded, have what their decoder gives them. -/
theorem Carried.all {old new : Option α} (hcarried : Carried name decoder request old new)
    (hdecoder : FromLeaves test P decoder) (hrequest : request.Passes test) (user : UserInfo) :
    RuleContext.All P ⟨request.operation, old, new, user⟩ := by
  -- What an operation does not carry is not there to be asked about.
  cases hcarried with
  | create _ hnew =>
    constructor
    · rintro _ ⟨⟩
    · rintro _ ⟨⟩
      exact passes_of_decodeObject hdecoder hrequest.object hnew
  | update _ hold hnew =>
    constructor
    · rintro _ ⟨⟩
      exact passes_of_decodeObject hdecoder hrequest.oldObject hold
    · rintro _ ⟨⟩
      exact passes_of_decodeObject hdecoder hrequest.object hnew
  | delete _ hold =>
    constructor
    · rintro _ ⟨⟩
      exact passes_of_decodeObject hdecoder hrequest.oldObject hold
    · rintro _ ⟨⟩

end AdmissionControl
