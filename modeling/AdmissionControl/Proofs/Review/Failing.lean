/-
  AdmissionControl.Proofs.Review.Failing

  The failures with which a review can end.

  `FailsOnly kind` says of a consultation that every failure of its own, on whatever branch, is of a
  kind.  A run of it that fails does so with such a failure, or with the one that a question got for
  a reply (`FailsOnly.of_result_run`).

  The rules read objects that might be missing, and write quantities that might be beyond what can
  be written.  Neither happens: a request comes to the rules only with every object that its
  operation has (`Complete`), and what is listed comes from normalized limits, which are bounded.
  So the rules for clusters have no failures of their own, and those for projects fail by a limit
  that does not normalize.  Such a limit is refused, unless an integer in it has no text for the
  message; so every failure of a review's own comes from the request, or there is such an integer
  in the review (`failsOnly_review`).  Over a directory it ends with such a failure, with that of a
  part that is out of order, or with a response (`review_fails_only_as_declared`).
-/

import AdmissionControl.Proofs.Evaluation
import AdmissionControl.Proofs.Limit.Exceeding
import AdmissionControl.Proofs.Limit.Stored
import AdmissionControl.Proofs.Project.Verdict
import AdmissionControl.Proofs.Review.Leaves

namespace AdmissionControl

/-! ## Failures of a consultation's own -/

namespace Consultation

variable {α β : Type} {kind : Failure → Prop}

/-- Every failure of the consultation's own is of a kind, whatever the replies. -/
inductive FailsOnly (kind : Failure → Prop) : Consultation α → Prop where
  | ok (a : α) : FailsOnly kind (.done (.ok a))
  | error {failure : Failure} : kind failure → FailsOnly kind (.done (.error failure))
  | log {record : LogRecord} {rest : Consultation α} : FailsOnly kind rest →
      FailsOnly kind (.log record rest)
  | ask {query : Query} {next : query.Reply → Consultation α} :
      (∀ reply, FailsOnly kind (next reply)) → FailsOnly kind (.ask query next)

theorem FailsOnly.bind {c : Consultation α} {f : α → Consultation β} (hc : c.FailsOnly kind)
    (hf : ∀ a, (f a).FailsOnly kind) : (c >>= f).FailsOnly kind := by
  show (c.bind f).FailsOnly kind
  induction hc with
  | ok a => exact hf a
  | error hfailure => exact .error hfailure
  | log _ ih => exact .log ih
  | ask _ ih => exact .ask ih

theorem FailsOnly.pure (a : α) : (pure a : Consultation α).FailsOnly kind := .ok a

theorem FailsOnly.record (level : LogLevel) (message : Text) :
    (record level message).FailsOnly kind := .log (.ok ())

theorem FailsOnly.mono {wider : Failure → Prop} {c : Consultation α} (hc : c.FailsOnly kind)
    (hwider : ∀ failure, kind failure → wider failure) : c.FailsOnly wider := by
  induction hc with
  | ok a => exact .ok a
  | error hfailure => exact .error (hwider _ hfailure)
  | log _ ih => exact .log ih
  | ask _ ih => exact .ask ih

theorem FailsOnly.ofExcept {wrap : ε → Failure} {r : Except ε α}
    (h : ∀ e, r = .error e → kind (wrap e)) : (ofExcept wrap r).FailsOnly kind := by
  cases r with
  | ok a => exact .ok a
  | error e => exact .error (h e rfl)

/-! ## Questions along a run -/

section

variable {handler : Handler σ} {c : Consultation α} {query : Query} {state found : σ}
  {failure : Failure}

/-- The questions that a run asks, each with the state in which it finds the handler. -/
def visits (handler : Handler σ) : Consultation α → σ → List (Query × σ)
  | .done _, _ => []
  | .log _ rest, state => rest.visits handler state
  | .ask query next, state =>
    let handled := handler query state
    (query, state) :: match handled.reply with
      | .ok reply => (next reply).visits handler handled.state
      | .error _ => []

/-- Over a handler with fixed answers these are the questions asked under the answers. -/
theorem map_fst_visits {answers : Answers} (hgives : handler.Gives answers) (c : Consultation α)
    (state : σ) : (c.visits handler state).map Prod.fst = c.asked answers := by
  induction c generalizing state with
  | done result => rfl
  | log record rest ih => exact ih state
  | ask query next ih =>
    simp only [visits, asked, hgives query state, List.map_cons]
    cases answers query with
    | error failure => rfl
    | ok reply => rw [ih reply]

/-- Over two handlers that agree on every question of a run, in the state in which it finds them,
the whole run is the same. -/
theorem run_eq_of_visits {other : Handler σ}
    (hagree : ∀ visit ∈ c.visits handler state,
      handler visit.1 visit.2 = other visit.1 visit.2) :
    c.run handler state = c.run other state := by
  induction c generalizing state with
  | done result => rfl
  | log record rest ih => exact congrArg (Outcome.after [record]) (ih hagree)
  | ask query next ih =>
    rw [visits, List.forall_mem_cons] at hagree
    obtain ⟨hquery, hrest⟩ := hagree
    simp only [run, ← hquery]
    -- The two handlers agree on this question, and with the same reply the rest goes on in the same
    -- state.
    cases hreply : (handler query state).reply with
    | error failure => rfl
    | ok reply =>
      rw [hreply] at hrest
      exact congrArg (Outcome.after (handler query state).log) (ih reply hrest)

/-- A question that gets a failure for a reply ends a run with it. -/
theorem exists_run_of_visit (hvisit : (query, found) ∈ c.visits handler state)
    (hreply : (handler query found).reply = .error failure) :
    ∃ log, c.run handler state = ⟨.error failure, log, (handler query found).state⟩ := by
  -- By induction on the consultation, along the questions that it asks.
  induction c generalizing state with
  | done result => cases hvisit
  | log record rest ih =>
    obtain ⟨log, hrun⟩ := ih hvisit
    exact ⟨_, by rw [run, hrun]; rfl⟩
  | ask other next ih =>
    simp only [visits, List.mem_cons] at hvisit
    rcases hvisit with hhere | hlater
    · obtain ⟨rfl, rfl⟩ := Prod.mk.inj hhere
      exact ⟨_, by simp only [run, hreply]; rfl⟩
    · -- The rest of the run comes to the question, so this one was replied to.
      cases hother : (handler other state).reply with
      | error earlier =>
        rw [hother] at hlater
        cases hlater
      | ok reply =>
        rw [hother] at hlater
        obtain ⟨log, hrun⟩ := ih reply hlater
        exact ⟨_, by simp only [run, hother, hrun]; rfl⟩

theorem result_run_of_visit (hvisit : (query, found) ∈ c.visits handler state)
    (hreply : (handler query found).reply = .error failure) :
    (c.run handler state).result = .error failure := by
  obtain ⟨log, hrun⟩ := exists_run_of_visit hvisit hreply
  rw [hrun]

theorem state_run_of_visit (hvisit : (query, found) ∈ c.visits handler state)
    (hreply : (handler query found).reply = .error failure) :
    (c.run handler state).state = (handler query found).state := by
  obtain ⟨log, hrun⟩ := exists_run_of_visit hvisit hreply
  rw [hrun]

/-- A run that fails ends with a failure of the consultation's own, or with that of a question. -/
theorem FailsOnly.of_result_run (hc : c.FailsOnly kind)
    (hresult : (c.run handler state).result = .error failure) :
    kind failure ∨ ∃ query found, (query, found) ∈ c.visits handler state ∧
      (handler query found).reply = .error failure := by
  induction hc generalizing state with
  | ok a => cases hresult
  | error hfailure =>
    cases hresult
    exact .inl hfailure
  | log _ ih => exact ih hresult
  | @ask query next _ ih =>
    simp only [run] at hresult
    simp only [visits]
    -- The question fails and ends the run, or the failure is one of the rest.
    cases hreply : (handler query state).reply with
    | error cause =>
      rw [hreply] at hresult
      cases hresult
      exact .inr ⟨query, state, List.mem_cons_self, hreply⟩
    | ok reply =>
      rw [hreply] at hresult
      refine (ih reply hresult).imp_right ?_
      rintro ⟨later, found, hvisit, hlater⟩
      exact ⟨later, found, List.mem_cons_of_mem _ hvisit, hlater⟩

/-- Where no question fails, a consultation fails by itself. -/
theorem FailsOnly.of_result {answers : Answers} (hc : c.FailsOnly kind)
    (hworking : ∀ query failure, answers query ≠ .error failure)
    (hresult : c.result answers = .error failure) : kind failure := by
  have hgives : Handler.Gives (fun query (_ : Unit) => ⟨[], answers query, ()⟩) answers :=
    fun _ _ => rfl
  rw [← result_run hgives c ()] at hresult
  refine (hc.of_result_run hresult).resolve_right ?_
  rintro ⟨query, found, -, hreply⟩
  exact hworking query failure hreply

end

end Consultation

/-! ## Failures that come from the request -/

/-- Failures of which the request is the cause: it is missing or does not decode, carries no object,
is for a resource without rules, or has a limit that does not normalize. -/
inductive Failure.OfRequest : Failure → Prop where
  | noRequest : OfRequest .noRequest
  | undecodable (subject : String) (report : DecodeReport) :
      OfRequest (.undecodable subject report)
  | noObject (operation : Operation) (kind : String) : OfRequest (.noObject operation kind)
  | noOldObject (operation : Operation) (kind : String) : OfRequest (.noOldObject operation kind)
  | unsupportedResource (name : Text) : OfRequest (.unsupportedResource name)
  | quantity (cause : QuantityError) : OfRequest (.quantity cause)

/-- Failures of which the objects that a request carries are the cause: one of them does not decode,
is missing, or has a limit that does not normalize. -/
inductive Failure.OfObjects : Failure → Prop where
  | undecodable (subject : String) (report : DecodeReport) :
      OfObjects (.undecodable subject report)
  | noObject (operation : Operation) (kind : String) : OfObjects (.noObject operation kind)
  | noOldObject (operation : Operation) (kind : String) : OfObjects (.noOldObject operation kind)
  | quantity (cause : QuantityError) : OfObjects (.quantity cause)

/-- Failures of decoding the objects that a request carries: one of them does not decode or is
missing. -/
inductive Failure.OfDecoding : Failure → Prop where
  | undecodable (subject : String) (report : DecodeReport) :
      OfDecoding (.undecodable subject report)
  | noObject (operation : Operation) (kind : String) : OfDecoding (.noObject operation kind)
  | noOldObject (operation : Operation) (kind : String) : OfDecoding (.noOldObject operation kind)

theorem Failure.OfDecoding.ofObjects {failure : Failure} (h : failure.OfDecoding) :
    failure.OfObjects := by
  cases h with
  | undecodable subject report => exact .undecodable subject report
  | noObject operation kind => exact .noObject operation kind
  | noOldObject operation kind => exact .noOldObject operation kind

theorem Failure.OfObjects.ofRequest {failure : Failure} (h : failure.OfObjects) :
    failure.OfRequest := by
  cases h with
  | undecodable subject report => exact .undecodable subject report
  | noObject operation kind => exact .noObject operation kind
  | noOldObject operation kind => exact .noOldObject operation kind
  | quantity cause => exact .quantity cause

theorem Failure.OfRequest.isCollaborator {failure : Failure} (h : failure.OfRequest) :
    failure.isCollaborator = false := by
  cases h <;> rfl

theorem Failure.OfRequest.isReported {failure : Failure} (h : failure.OfRequest) :
    failure.isReported = true := by
  cases h <;> rfl

section

variable {kind : String} {decoder : Decoder α} {failure : Failure}

theorem ofDecoding_of_decodeObject {object : Option (List (Text × Json))}
    (h : decodeObject kind decoder object = .error failure) : failure.OfDecoding := by
  cases object with
  | none => cases h
  | some members =>
    rw [decodeObject] at h
    split at h
    · cases h
    · cases h
      exact .undecodable _ _

/-- The old object is decoded before the new one, and only then must both be there. -/
theorem ruleContext_eq (kind : String) (decoder : Decoder α) (request : AdmissionRequest) :
    ruleContext kind decoder request =
      (if request.operation = .create then .ok none
        else decodeObject kind decoder request.oldObject) >>= fun old =>
      (if request.operation = .delete then .ok none
        else decodeObject kind decoder request.object) >>= fun new =>
      if (request.operation = .create || request.operation = .update) && new.isNone then
        .error (.noObject request.operation kind)
      else if (request.operation = .update || request.operation = .delete) && old.isNone then
        .error (.noOldObject request.operation kind)
      else .ok ⟨request.operation, old, new, request.userInfo⟩ := by
  unfold ruleContext
  dsimp only
  split <;> split <;> rfl

/-- Where there is nothing for rules to look at, the objects did not decode or were missing. -/
theorem ofDecoding_of_ruleContext {request : AdmissionRequest}
    (h : ruleContext kind decoder request = .error failure) : failure.OfDecoding := by
  -- An object that is left out does not fail.
  have hunless : ∀ {p : Prop} [Decidable p] {object : Option (List (Text × Json))}
      {cause : Failure}, (if p then .ok none else decodeObject kind decoder object) =
        .error cause → cause.OfDecoding := by
    intro p _ object cause hcause
    split at hcause
    · cases hcause
    · exact ofDecoding_of_decodeObject hcause
  rw [ruleContext_eq] at h
  obtain hold | ⟨old, -, h⟩ := Except.bind_eq_error.mp h
  · exact hunless hold
  obtain hnew | ⟨new, -, h⟩ := Except.bind_eq_error.mp h
  · exact hunless hnew
  split at h
  · cases h
    exact .noObject _ _
  · split at h
    · cases h
      exact .noOldObject _ _
    · cases h

end

/-- If this fails, the request is the cause. -/
def FailsByRequest (result : Except Failure α) : Prop :=
  ∀ failure, result = .error failure → failure.OfRequest

namespace FailsByRequest

theorem ok (a : α) : FailsByRequest (.ok a) := nofun

theorem error {failure : Failure} (h : failure.OfRequest) :
    FailsByRequest (.error failure : Except Failure α) := by
  rintro _ ⟨⟩
  exact h

theorem requestOf (admissionReview : Json) :
    FailsByRequest (AdmissionControl.requestOf admissionReview) := by
  unfold AdmissionControl.requestOf
  split
  · split
    · exact .ok _
    · exact .error (.undecodable _ _)
  · exact .error .noRequest

theorem dispatch (request : AdmissionRequest) (resource : Text) :
    FailsByRequest (AdmissionControl.dispatch request resource) := by
  unfold AdmissionControl.dispatch
  dsimp only
  split
  · exact .ok _
  · exact .error (.unsupportedResource _)

end FailsByRequest

/-! ## The objects that are there -/

/-- Every object that the operation has is there. -/
structure RuleContext.Complete (context : RuleContext α) : Prop where
  old : context.operation ≠ .create → ∃ object, context.old = some object
  new : context.operation ≠ .delete → ∃ object, context.new = some object

/-- What a request carries is complete. -/
theorem Carried.complete {kind : String} {decoder : Decoder α} {request : AdmissionRequest}
    {old new : Option α} (h : Carried kind decoder request old new) (user : UserInfo) :
    RuleContext.Complete ⟨request.operation, old, new, user⟩ := by
  cases h with
  | create hop _ => exact ⟨fun hcreate => absurd hop hcreate, fun _ => ⟨_, rfl⟩⟩
  | update _ _ _ => exact ⟨fun _ => ⟨_, rfl⟩, fun _ => ⟨_, rfl⟩⟩
  | delete hop _ => exact ⟨fun _ => ⟨_, rfl⟩, fun hdelete => absurd hop hdelete⟩

section

open Consultation

variable {α : Type} {kind : Failure → Prop} {context : RuleContext α}

theorem failsOnly_requireOld (hcontext : context.Complete) (hop : context.operation ≠ .create) :
    context.requireOld.FailsOnly kind := by
  obtain ⟨object, hobject⟩ := hcontext.old hop
  rw [RuleContext.requireOld, hobject]
  exact .pure object

/-- What is done with the old object is done with the one that is there. -/
theorem failsOnly_requireOld_bind {β : Type} {f : α → Consultation β} (hcontext : context.Complete)
    (hop : context.operation ≠ .create)
    (h : ∀ old, context.old = some old → (f old).FailsOnly kind) :
    (context.requireOld >>= f).FailsOnly kind := by
  obtain ⟨old, hold⟩ := hcontext.old hop
  rw [RuleContext.requireOld, hold]
  exact h old hold

theorem failsOnly_requireNew (hcontext : context.Complete) (hop : context.operation ≠ .delete) :
    context.requireNew.FailsOnly kind := by
  obtain ⟨object, hobject⟩ := hcontext.new hop
  rw [RuleContext.requireNew, hobject]
  exact .pure object

/-- An operation that a rule does not skip is the one that it is for. -/
theorem ne_of_not_skipped {operation own other : Operation} (h : ¬ operation ≠ own)
    (hown : own ≠ other) : operation ≠ other := by
  rw [not_not.mp h]
  exact hown

/-- A rule for creations and updates looks at no deletion. -/
theorem ne_delete_of_not_skipped {operation : Operation}
    (h : ¬ (operation ≠ .create && operation ≠ .update) = true) : operation ≠ .delete := by
  rintro rfl
  exact h rfl

end

/-! ## The rules for clusters -/

namespace ClusterRules

open Consultation

variable {kind : Failure → Prop} {context : RuleContext Cluster}

theorem failsOnly_fleetWorkspaceUnset (hcontext : context.Complete) :
    (fleetWorkspaceUnset context).FailsOnly kind := by
  unfold fleetWorkspaceUnset
  split
  · exact .pure _
  next hop =>
    refine .bind (failsOnly_requireOld hcontext (ne_of_not_skipped hop (by decide))) fun old => ?_
    split
    · exact .pure _
    · refine .bind (failsOnly_requireNew hcontext (ne_of_not_skipped hop (by decide)))
        fun new => ?_
      split <;> exact .pure _

theorem failsOnly_fleetWorkspacePermission (hcontext : context.Complete) :
    (fleetWorkspacePermission context).FailsOnly kind := by
  unfold fleetWorkspacePermission
  split
  · exact .pure _
  next hop =>
    refine .bind (failsOnly_requireNew hcontext (ne_delete_of_not_skipped hop)) fun new => ?_
    dsimp only
    split
    · exact .pure _
    · split
      · exact .pure _
      · refine .bind (.ask fun _ => .pure _) fun granted => ?_
        split <;> exact .pure _

theorem failsOnly_creatorAnnotationsImmutable (hcontext : context.Complete) :
    (creatorAnnotationsImmutable context).FailsOnly kind := by
  unfold creatorAnnotationsImmutable
  split
  · exact .pure _
  next hop =>
    refine .bind (failsOnly_requireOld hcontext (ne_of_not_skipped hop (by decide))) fun old => ?_
    refine .bind (failsOnly_requireNew hcontext (ne_of_not_skipped hop (by decide))) fun new => ?_
    dsimp only
    split <;> exact .pure _

theorem failsOnly_creatorReference (hcontext : context.Complete) :
    (creatorReference context).FailsOnly kind := by
  unfold creatorReference
  -- Behind the question for the creator everything is decided by comparison.
  split
  · exact .pure _
  next hop =>
    refine .bind (failsOnly_requireNew hcontext (ne_of_not_skipped hop (by decide))) fun new => ?_
    dsimp only
    split
    · exact .pure _
    · split
      · exact .pure _
      · -- That the creator does not exist is a reply, and no failure.
        refine .bind (.ask fun _ => .pure _) fun found => ?_
        split
        · exact .pure _
        · split <;> exact .pure _

theorem failsOnly_noCreatorRbacImmutable (hcontext : context.Complete) :
    (noCreatorRbacImmutable context).FailsOnly kind := by
  unfold noCreatorRbacImmutable
  split
  · exact .pure _
  next hop =>
    refine .bind (failsOnly_requireOld hcontext (ne_of_not_skipped hop (by decide))) fun old => ?_
    refine .bind (failsOnly_requireNew hcontext (ne_of_not_skipped hop (by decide))) fun new => ?_
    dsimp only
    split <;> exact .pure _

theorem failsOnly_noCreatorRbacWithCreator (hcontext : context.Complete) :
    (noCreatorRbacWithCreator context).FailsOnly kind := by
  unfold noCreatorRbacWithCreator
  split
  · exact .pure _
  next hop =>
    refine .bind (failsOnly_requireNew hcontext (ne_of_not_skipped hop (by decide))) fun new => ?_
    dsimp only
    split <;> exact .pure _

theorem failsOnly_versionManagementChecked : versionManagementChecked.FailsOnly kind := by
  refine .bind (.ask fun _ => .pure _) fun found => ?_
  split
  · exact .pure _
  · exact .bind (.record _ _) fun _ => .pure _

theorem failsOnly_versionManagementRule (hcontext : context.Complete) :
    (versionManagementRule context).FailsOnly kind := by
  unfold versionManagementRule
  split
  · exact .pure _
  next hop =>
    refine .bind failsOnly_versionManagementChecked fun checked => ?_
    split
    · exact .pure _
    · refine .bind (failsOnly_requireNew hcontext (ne_delete_of_not_skipped hop)) fun new => ?_
      dsimp only
      split <;> exact .pure _

/-- The rules for clusters have no failures of their own. -/
theorem failsOnly_check (hcontext : context.Complete) :
    ∀ rule ∈ all, (rule.check context).FailsOnly kind := by
  simp only [all, List.forall_mem_cons]
  exact ⟨failsOnly_fleetWorkspaceUnset hcontext, failsOnly_fleetWorkspacePermission hcontext,
    failsOnly_creatorAnnotationsImmutable hcontext, failsOnly_creatorReference hcontext,
    failsOnly_noCreatorRbacImmutable hcontext, failsOnly_noCreatorRbacWithCreator hcontext,
    failsOnly_versionManagementRule hcontext, fun _ h => absurd h List.not_mem_nil⟩

end ClusterRules

/-! ## The rules for projects -/

/-- If the limit does not normalize, the rules fail with a failure of a kind. -/
def StoredLimit.FailsBy (kind : Failure → Prop) (limit : StoredLimit) : Prop :=
  ∀ failure, limit.normalize = .error failure → kind (.ofQuantity failure)

namespace ProjectRules

open Consultation

variable {kind : Failure → Prop} {context : RuleContext Project}

/-- A limit that does not normalize is refused where each of its integers has a text. -/
theorem failsBy_of_passes (hquantity : ∀ cause, kind (.quantity cause)) {limit : StoredLimit}
    (h : limit.Passes Json.shortIntegers) : limit.FailsBy kind := by
  intro failure hfailure
  cases failure with
  | refused cause => exact hquantity cause
  | unshown => exact absurd hfailure (StoredLimit.normalize_ne_unshown h)

theorem failsBy_of_unshown (hquantity : ∀ cause, kind (.quantity cause)) (hunshown : kind .unshown)
    (limit : StoredLimit) : limit.FailsBy kind := by
  intro failure _
  cases failure with
  | refused cause => exact hquantity cause
  | unshown => exact hunshown

theorem failsOnly_normalized {limit : StoredLimit} (h : limit.FailsBy kind) :
    (normalized limit).FailsOnly kind := .ofExcept h

/-- What is done with the quotas of a request is done with those of its new object, or with none. -/
theorem failsOnly_quotas_bind {α : Type}
    {f : Option ProjectQuota × Option NamespaceQuota → Consultation α} (hcontext : context.Complete)
    (hnone : (f (none, none)).FailsOnly kind)
    (hnew : ∀ new, context.new = some new →
      (f (new.spec.resourceQuota, new.spec.namespaceDefaultResourceQuota)).FailsOnly kind) :
    (quotas context >>= f).FailsOnly kind := by
  by_cases hop : context.operation = .delete
  · rw [quotas, if_pos hop]
    exact hnone
  · obtain ⟨new, hobject⟩ := hcontext.new hop
    rw [quotas, if_neg hop, RuleContext.requireNew, hobject]
    exact hnew new hobject

/-- Two limits are compared with each other, and what is above its bound is listed, or one of them
does not normalize; there is always a text to list it. -/
theorem failsOnly_denyExceeding (intro : Text) {outer inner : StoredLimit}
    (hfails : outer.FailsBy kind) (hfails' : inner.FailsBy kind) :
    (ProjectRules.exceeding outer inner >>= denyExceeding intro).FailsOnly kind := by
  unfold ProjectRules.exceeding
  -- Two limits are normalized, and both may fail; what exceeds is then always described.
  cases houter : outer.normalize with
  | error failure =>
    rw [normalized, houter]
    exact .error (hfails failure houter)
  | ok bounds =>
    cases hinner : inner.normalize with
    | error failure =>
      rw [normalized, houter, normalized, hinner]
      exact .error (hfails' failure hinner)
    | ok declared =>
      have hnormal := StoredLimit.normal_of_normalize hinner
      obtain ⟨listed, hlisted⟩ := Limit.exists_describe?_exceeding bounds hnormal
      rw [normalized, houter, normalized, hinner]
      show (denyExceeding intro (Limit.exceeding bounds declared)).FailsOnly kind
      unfold denyExceeding
      split
      · exact .pure _
      · rw [describe, hlisted]
        exact .pure _

theorem failsOnly_systemProjectDelete (hcontext : context.Complete) :
    (systemProjectDelete context).FailsOnly kind := by
  unfold systemProjectDelete
  split
  · exact .pure _
  next hop =>
    refine .bind (failsOnly_requireOld hcontext (ne_of_not_skipped hop (by decide))) fun old => ?_
    split <;> exact .pure _

theorem failsOnly_quotaFieldsPresent (hcontext : context.Complete) :
    (quotaFieldsPresent context).FailsOnly kind :=
  failsOnly_quotas_bind hcontext (.pure _) fun _ _ => by split <;> exact .pure _

section

/- The limits of the projects that a rule looks at. -/
variable (hlimits : context.All (Project.EachLimit (StoredLimit.FailsBy kind)))

include hlimits

theorem failsOnly_quotaResourcesMatch (hcontext : context.Complete) :
    (quotaResourcesMatch context).FailsOnly kind := by
  refine failsOnly_quotas_bind hcontext (.pure _) fun new hnew => ?_
  split
  next project namespaceDefault hquotas =>
    obtain ⟨hproject, hnamespace⟩ := Prod.mk.inj hquotas
    exact .bind (failsOnly_normalized ((hlimits.new new hnew).limit _ hproject)) fun _ =>
      .bind (failsOnly_normalized ((hlimits.new new hnew).namespaceLimit _ hnamespace))
        fun _ => .pure _
  next => exact .pure _

theorem failsOnly_namespaceQuotaFits (hcontext : context.Complete) :
    (namespaceQuotaFits context).FailsOnly kind := by
  refine failsOnly_quotas_bind hcontext (.pure _) fun new hnew => ?_
  split
  next project namespaceDefault hquotas =>
    obtain ⟨hproject, hnamespace⟩ := Prod.mk.inj hquotas
    exact failsOnly_denyExceeding _ ((hlimits.new new hnew).limit _ hproject)
      ((hlimits.new new hnew).namespaceLimit _ hnamespace)
  next => exact .pure _

theorem failsOnly_usedQuotaFits (hcontext : context.Complete) :
    (usedQuotaFits context).FailsOnly kind := by
  unfold usedQuotaFits
  split
  · exact .pure _
  next hop =>
    -- The limits compared are the new one and the usage of the project before.
    refine failsOnly_requireOld_bind hcontext (ne_of_not_skipped hop (by decide))
      fun old hold => ?_
    split
    · exact .pure _
    next oldQuota hbefore =>
      refine failsOnly_quotas_bind hcontext (.pure _) fun new hnew => ?_
      split
      · exact .pure _
      next project _ hquotas =>
        obtain ⟨hproject, -⟩ := Prod.mk.inj hquotas
        exact failsOnly_denyExceeding _ ((hlimits.new new hnew).limit _ hproject)
          ((hlimits.old old hold).usedLimit _ hbefore)

/-- The rules for projects fail by a limit that does not normalize. -/
theorem failsOnly_check (hcontext : context.Complete) :
    ∀ rule ∈ all, (rule.check context).FailsOnly kind := by
  simp only [all, List.forall_mem_cons]
  exact ⟨failsOnly_systemProjectDelete hcontext, failsOnly_quotaFieldsPresent hcontext,
    failsOnly_quotaResourcesMatch hlimits hcontext,
    failsOnly_namespaceQuotaFits hlimits hcontext, failsOnly_usedQuotaFits hlimits hcontext,
    fun _ h => absurd h List.not_mem_nil⟩

end

end ProjectRules

/-! ## Reviews -/

section

open Consultation

variable {α : Type} {kind : Failure → Prop}

theorem failsOnly_evaluateRulesFrom {context : RuleContext α} {rules : List (Rule α)}
    (h : ∀ rule ∈ rules, (rule.check context).FailsOnly kind) (warnings : List Text) :
    (evaluateRulesFrom context warnings rules).FailsOnly kind := by
  induction rules generalizing warnings with
  | nil => exact .pure _
  | cons rule rest ih =>
    rw [List.forall_mem_cons] at h
    refine .bind h.1 fun r => ?_
    cases r with
    | deny reason message => exact .bind (.record _ _) fun _ => .pure _
    | warn message =>
      exact .bind (.record _ _) fun _ => .bind (ih h.2 (warnings ++ [message])) fun _ => .pure _
    | allow => exact .bind (ih h.2 warnings) fun _ => .pure _

/-- A decision fails as the request does to carry its objects, or as the rules do on these. -/
theorem failsOnly_decideBy {name : String} {decoder : Decoder α} {rules : List (Rule α)}
    {request : AdmissionRequest} {P : α → Prop}
    (hundecoded : ∀ failure, ruleContext name decoder request = .error failure → kind failure)
    (hobjects : ∀ old new, Carried name decoder request old new →
      RuleContext.All P ⟨request.operation, old, new, request.userInfo⟩)
    (hrules : ∀ context : RuleContext α, context.All P → context.Complete →
      ∀ rule ∈ rules, (rule.check context).FailsOnly kind) :
    (decideBy name decoder rules request).FailsOnly kind := by
  by_cases hoperation : hasRules request.operation = true
  · cases hcontext : ruleContext name decoder request with
    | error failure =>
      rw [decideBy, if_pos hoperation, hcontext]
      exact .error (hundecoded failure hcontext)
    | ok context =>
      have hcarried := carried_of_ruleContext hoperation hcontext
      rw [decideBy_of_carried rules hcarried]
      -- The objects are there, so what is left to fail are the checks themselves.
      have hchecked := hrules _ (hobjects _ _ hcarried) (hcarried.complete request.userInfo)
      exact .bind (failsOnly_evaluateRulesFrom hchecked []) fun _ => .pure _
  · rw [decideBy, if_neg hoperation]
    exact .pure _

/-- The decision on a request fails because of the objects that it carries: they do not decode, are
missing, or have a limit that does not normalize.  This is refused, unless an integer in it may be
too long for a message. -/
theorem failsOnly_decideRequest (hobjects : ∀ failure, failure.OfObjects → kind failure)
    {request : AdmissionRequest} (hintegers : request.Passes Json.shortIntegers ∨ kind .unshown)
    (resourceKind : ResourceKind) : (decideRequest resourceKind request).FailsOnly kind := by
  have hundecoded : ∀ {α : Type} {name : String} {decoder : Decoder α} {failure : Failure},
      ruleContext name decoder request = .error failure → kind failure :=
    fun h => hobjects _ (ofDecoding_of_ruleContext h).ofObjects
  cases resourceKind with
  | cluster =>
    refine failsOnly_decideBy (P := fun _ => True) (fun _ => hundecoded) ?_
      fun _ _ => ClusterRules.failsOnly_check
    exact fun old new _ => ⟨fun _ _ => trivial, fun _ _ => trivial⟩
  | project =>
    -- A limit fails by its quantities, and without a message only by a long integer.
    have hquantity : ∀ cause, kind (.quantity cause) := fun cause => hobjects _ (.quantity cause)
    refine failsOnly_decideBy (fun _ => hundecoded) (fun old new hcarried => ?_)
      fun _ => ProjectRules.failsOnly_check
    rcases hintegers with hpasses | hunshown
    · have hshort := hcarried.all (Project.fromLeaves_decode (by decide)) hpasses request.userInfo
      exact hshort.mono fun _ hproject =>
        hproject.mono fun _ => ProjectRules.failsBy_of_passes hquantity
    · have hany := ProjectRules.failsBy_of_unshown hquantity hunshown
      constructor <;> exact fun _ _ => ⟨fun _ _ => hany _, fun _ _ => hany _, fun _ _ => hany _⟩

/-- Every failure of a review's own comes from the request, or from an integer in the review that is
too long for a message. -/
theorem failsOnly_review (admissionReview : Json) (resource : Text) :
    (review admissionReview resource).FailsOnly fun failure =>
      failure.OfRequest ∨ failure = .unshown ∧ admissionReview.isWritable = false := by
  cases hrequest : requestOf admissionReview with
  | error failure =>
    rw [review, hrequest]
    exact .error (.inl (FailsByRequest.requestOf admissionReview failure hrequest))
  | ok request =>
    rw [review_of_request hrequest]
    refine .bind ?_ fun _ => .pure _
    refine .bind (.ofExcept fun failure h => .inl (FailsByRequest.dispatch request resource _ h))
      fun kind => ?_
    refine .bind ?_ fun decision => .bind (.record _ _) fun _ => .pure _
    refine failsOnly_decideRequest (fun _ h => .inl h.ofRequest) ?_ kind
    -- A review whose integers have texts has none that is too long.
    by_cases hwritable : admissionReview.isWritable = true
    · exact .inl (passes_of_requestOf rfl hwritable hrequest)
    · exact .inr (.inr ⟨rfl, by simpa using hwritable⟩)

/-- In a review whose integers all have a text, every failure of its own comes from the request. -/
theorem failsOnly_review_of_isWritable {admissionReview : Json}
    (h : admissionReview.isWritable = true) (resource : Text) :
    (review admissionReview resource).FailsOnly Failure.OfRequest := by
  refine (failsOnly_review admissionReview resource).mono fun failure hfailure => ?_
  refine hfailure.resolve_right fun hunshown => ?_
  rw [h] at hunshown
  cases hunshown.2

end

/-! ## Collaborators -/

theorem Failure.isReported_of_isCollaborator {failure : Failure}
    (h : failure.isCollaborator = true) : failure.isReported = true := by
  cases failure <;> first | rfl | cases h

/-- A handler that fails a question only as a collaborator fails. -/
def Handler.FailsAsCollaborator (handler : Handler σ) : Prop :=
  ∀ query state failure, (handler query state).reply = .error failure →
    failure.isCollaborator = true

/-- Where collaborators fail as such, every failure of a review is reported, if its integers all
have a text. -/
theorem Handler.FailsAsCollaborator.isReported {handler : Handler σ}
    (hhandler : handler.FailsAsCollaborator) {admissionReview : Json} {resource : Text} {state : σ}
    {failure : Failure} (hwritable : admissionReview.isWritable = true)
    (h : ((review admissionReview resource).run handler state).result = .error failure) :
    failure.isReported = true := by
  rcases (failsOnly_review_of_isWritable hwritable resource).of_result_run h with
    hrequest | ⟨query, found, -, hreply⟩
  · exact hrequest.isReported
  · exact Failure.isReported_of_isCollaborator (hhandler query found failure hreply)

/-- The failure of a question to a part of a directory that is out of order. -/
def Query.unavailable : Query → Failure
  | .user name => .unavailable "users" name
  | .setting name => .unavailable "settings" name
  | .access check => .unavailable "authorizer" check.verb

namespace Directory

variable {directory : Directory} {query : Query} {failure : Failure}

/-- A directory fails a question to a part of it that is out of order, and no other. -/
theorem eq_unavailable_of_answers (h : directory.answers query = .error failure) :
    failure = query.unavailable := by
  cases query <;>
  · simp only [answers] at h
    split at h
    · cases h
      rfl
    · cases h

theorem unavailable_of_answers (h : directory.answers query = .error failure) :
    ∃ service item, failure = .unavailable service item := by
  rw [eq_unavailable_of_answers h]
  cases query <;> exact ⟨_, _, rfl⟩

theorem failsAsCollaborator (directory : Directory) : directory.handler.FailsAsCollaborator := by
  intro query checks failure h
  rw [directory.handler_gives query checks] at h
  rw [eq_unavailable_of_answers h]
  cases query <;> rfl

end Directory

/-! ## Over a directory -/

/-- Whatever is given as a review, and whatever is in the directory and in order there, the run ends
with a response, with a failure that comes from the request, or with that of a part out of order
which was asked; or the review holds an integer of more than 4300 digits, which a message would have
to show.  It never ends because something was not found, an object was missing, or a quantity could
not be written. -/
theorem review_fails_only_as_declared (admissionReview : Json) (resource : Text)
    (directory : Directory) (checks : List AccessCheck) :
    let consultation := review admissionReview resource
    let result := (consultation.run directory.handler checks).result
    ((∃ response, result = .ok response) ∨
      (∃ failure, result = .error failure ∧ failure.OfRequest) ∨
      (∃ query service item, query ∈ consultation.asked directory.answers ∧
        directory.answers query = .error (.unavailable service item) ∧
        result = .error (.unavailable service item)) ∨
      result = .error .unshown ∧ admissionReview.isWritable = false) ∧
    (∀ kind name, result ≠ .error (.notFound kind name)) ∧
    result ≠ .error .noMembers ∧ result ≠ .error .unwritable := by
  intro consultation result
  -- A failure is one of the review itself, or was the reply to a question that it asked.
  have hfailed : ∀ failure, result = .error failure → failure.OfRequest ∨
      (∃ query service item, query ∈ consultation.asked directory.answers ∧
        directory.answers query = .error (.unavailable service item) ∧
        failure = .unavailable service item) ∨
      failure = .unshown ∧ admissionReview.isWritable = false := by
    intro failure hfailure
    rcases (failsOnly_review admissionReview resource).of_result_run hfailure with
      (hrequest | hunshown) | ⟨query, found, hvisit, hreply⟩
    · exact .inl hrequest
    · exact .inr (.inr hunshown)
    · rw [directory.handler_gives query found] at hreply
      obtain ⟨service, item, rfl⟩ := Directory.unavailable_of_answers hreply
      refine .inr (.inl ⟨query, service, item, ?_, hreply, rfl⟩)
      rw [← Consultation.map_fst_visits directory.handler_gives consultation checks]
      exact List.mem_map_of_mem hvisit
  -- A failure of another kind is none of these.
  have hnot : ∀ failure, ¬ failure.OfRequest → failure ≠ .unshown →
      (∀ service item, failure ≠ .unavailable service item) → result ≠ .error failure := by
    intro failure hrequest hunshown hother hfailure
    rcases hfailed failure hfailure with h | ⟨-, service, item, -, -, h⟩ | ⟨h, -⟩
    · exact hrequest h
    · exact hother service item h
    · exact hunshown h
  refine ⟨?_, fun _ _ => hnot _ nofun nofun nofun, hnot _ nofun nofun nofun,
    hnot _ nofun nofun nofun⟩
  cases hresult : result with
  | ok response => exact .inl ⟨response, rfl⟩
  | error failure =>
    rcases hfailed failure hresult with h | ⟨query, service, item, hasked, hanswer, rfl⟩ | ⟨rfl, h⟩
    · exact .inr (.inl ⟨failure, rfl, h⟩)
    · exact .inr (.inr (.inl ⟨query, service, item, hasked, hanswer, rfl⟩))
    · exact .inr (.inr (.inr ⟨rfl, h⟩))

/-- A review of a project with an integer of 4301 digits in its limit ends with a failure that is
none of those, although no part is out of order. -/
theorem tooLongToShow_review_fails_undeclared :
    ∃ failure,
      ((review (projectReview .create (some ProjectRules.tooLongToShowMembers) none) "").run
        ({} : Directory).handler []).result = .error failure ∧
      ¬ failure.OfRequest ∧ failure.isCollaborator = false := by
  refine ⟨.unshown, ?_, nofun, rfl⟩
  have hcarried : Carried "Project" Project.decode
      (projectRequest .create (some ProjectRules.tooLongToShowMembers) none) none
      (some ProjectRules.tooLongToShowProject) := .create rfl rfl
  -- The limit cannot be read, and its failure has no message.
  have hverdict : ProjectRules.ProjectVerdict none ProjectRules.tooLongToShowProject
      (.error (.ofQuantity .unshown)) :=
    .limitUnreadable ProjectRules.limit?_tooLongToShowProject nofun
  have hdecided :=
    ProjectRules.result_of_projectVerdict ({} : Directory).handler [] hcarried hverdict
  rw [Consultation.result_run (Directory.handler_gives _)] at hdecided ⊢
  rw [review_of_dispatch (requestOf_projectReview _ _ _) rfl, Consultation.result_bind, hdecided]
  rfl

end AdmissionControl
