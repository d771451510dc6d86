/-
  AdmissionControl.Proofs.Evaluation

  What the evaluation of rules comes to under fixed answers.

  `settle` reads the results of some rules in order, up to the first failure or denial.  The
  evaluation of the rules decides what `settle` makes of their results (`decision_evaluateRules`),
  so it allows exactly when every rule passes (`settle_allowed_iff`), and then it has asked the
  questions of every rule (`asked_evaluateRules`).  Rules that enforce conditions settle to a
  decision that allows when all of these are met
  (`settle_of_enforcesAll`).

  `Carried` says which objects a request carries, decoded; the decision on such a request is that of
  the rules on these objects (`decideBy_of_carried`), and what they settle to (`result_decideBy`).
  A review of a request that falls under a kind is this decision, and what it concludes from it
  (`review_of_dispatch`).
-/

import AdmissionControl.Proofs.Answers
import AdmissionControl.Review

namespace AdmissionControl

variable {α : Type} (answers : Answers)

/-! ## The objects that must be there -/

theorem asksOnly_requireOld {kind : Query → Prop} (context : RuleContext α) :
    context.requireOld.AsksOnly kind := by
  unfold RuleContext.requireOld
  split
  · exact .pure _
  · exact .fail _

theorem asksOnly_requireNew {kind : Query → Prop} (context : RuleContext α) :
    context.requireNew.AsksOnly kind := by
  unfold RuleContext.requireNew
  split
  · exact .pure _
  · exact .fail _

/-! ## The results of rules -/

/-- The decision on the results of some rules, read in order up to the first failure or denial,
with the warnings of earlier rules. -/
def settle (warnings : List Text) : List (Except Failure RuleResult) → Except Failure Decision
  | [] => .ok (.allow warnings)
  | .error failure :: _ => .error failure
  | .ok (.deny reason message) :: _ => .ok (.deny reason message warnings)
  | .ok (.warn message) :: rest => settle (warnings ++ [message]) rest
  | .ok .allow :: rest => settle warnings rest

/-- The results of some rules in a context. -/
def ruleResults (context : RuleContext α) (rules : List (Rule α)) :
    List (Except Failure RuleResult) :=
  rules.map fun rule => (rule.check context).result answers

/-- A consultation of a rule gives a result, and this is no denial. -/
def Consultation.Passes (c : Consultation RuleResult) : Prop :=
  ∃ r, c.result answers = .ok r ∧ r.denied = false

/-- Rules are settled to an allowing decision exactly when each of them passes. -/
theorem settle_allowed_iff (warnings : List Text) (results : List (Except Failure RuleResult)) :
    (∃ decision, settle warnings results = .ok decision ∧ decision.allowed = true) ↔
      ∀ result ∈ results, ∃ r, result = .ok r ∧ r.denied = false := by
  induction results generalizing warnings with
  | nil => simp [settle, Decision.allow]
  | cons result rest ih =>
    rw [List.forall_mem_cons]
    -- A warning or an allowance leaves the verdict to the rest, a failure or a denial settles it.
    match result with
    | .error failure => simp [settle]
    | .ok (.deny reason message) => simp [settle, Decision.deny, RuleResult.denied]
    | .ok (.warn message) =>
      simp only [settle, ih]
      exact ⟨fun h => ⟨⟨_, rfl, rfl⟩, h⟩, fun h => h.2⟩
    | .ok .allow =>
      simp only [settle, ih]
      exact ⟨fun h => ⟨⟨_, rfl, rfl⟩, h⟩, fun h => h.2⟩

/-- A condition on a request, and the reason for which it is denied otherwise. -/
structure Obligation where
  reason : Reason
  holds : Prop

/-- The first condition that is not met has this reason. -/
inductive FirstUnmet : List Obligation → Reason → Prop where
  | here {obligation : Obligation} {rest : List Obligation} : ¬ obligation.holds →
      FirstUnmet (obligation :: rest) obligation.reason
  | later {obligation : Obligation} {rest : List Obligation} {reason : Reason} :
      obligation.holds → FirstUnmet rest reason → FirstUnmet (obligation :: rest) reason

/-- A result of a rule is no denial exactly when a condition is met, and otherwise a denial for its
reason. -/
def Enforces (result : Except Failure RuleResult) (obligation : Obligation) : Prop :=
  ∃ r, result = .ok r ∧ (r.denied = false ↔ obligation.holds) ∧
    (r.denied = true → r.reason = obligation.reason)

theorem Enforces.allow {reason : Reason} {P : Prop} (h : P) :
    Enforces (.ok .allow) ⟨reason, P⟩ :=
  ⟨_, rfl, by simp [RuleResult.denied, h], by simp [RuleResult.denied]⟩

theorem Enforces.warn {reason : Reason} {P : Prop} {message : Text} (h : P) :
    Enforces (.ok (.warn message)) ⟨reason, P⟩ :=
  ⟨_, rfl, by simp [RuleResult.denied, h], by simp [RuleResult.denied]⟩

theorem Enforces.deny {reason : Reason} {P : Prop} {message : Text} (h : ¬ P) :
    Enforces (.ok (.deny reason message)) ⟨reason, P⟩ :=
  ⟨_, rfl, by simp [RuleResult.denied, h], by simp [RuleResult.reason]⟩

/-- A result that enforces a condition is no denial exactly when it is met. -/
theorem Enforces.not_denied_iff {r : RuleResult} {obligation : Obligation}
    (h : Enforces (.ok r) obligation) : r.denied = false ↔ obligation.holds := by
  obtain ⟨r', hr, hholds, -⟩ := h
  rw [Except.ok.inj hr]
  exact hholds

/-- A rule that enforces a condition passes exactly when it is met. -/
theorem Enforces.passes_iff {c : Consultation RuleResult} {obligation : Obligation}
    (h : Enforces (c.result answers) obligation) : c.Passes answers ↔ obligation.holds := by
  obtain ⟨r, hr, hholds, -⟩ := h
  rw [← hholds]
  constructor
  · rintro ⟨r', hr', hdenied⟩
    rw [hr, Except.ok.injEq] at hr'
    rw [hr', hdenied]
  · intro hdenied
    exact ⟨r, hr, hdenied⟩

/-- Each result enforces the next condition of a list, or it allows and has no part in it. -/
inductive EnforcesAll : List (Except Failure RuleResult) → List Obligation → Prop where
  | nil : EnforcesAll [] []
  | skip {results : List (Except Failure RuleResult)} {obligations : List Obligation} :
      EnforcesAll results obligations → EnforcesAll (.ok .allow :: results) obligations
  | cons {result : Except Failure RuleResult} {results : List (Except Failure RuleResult)}
      {obligation : Obligation} {obligations : List Obligation} : Enforces result obligation →
      EnforcesAll results obligations → EnforcesAll (result :: results) (obligation :: obligations)

/-- Rules that enforce conditions settle to a decision that allows exactly when all of these are
met, and denies for the reason of the first that is not. -/
theorem settle_of_enforcesAll {results : List (Except Failure RuleResult)}
    {obligations : List Obligation} (h : EnforcesAll results obligations) (warnings : List Text) :
    ∃ decision, settle warnings results = .ok decision ∧
      (decision.allowed = true ↔ ∀ obligation ∈ obligations, obligation.holds) ∧
      (decision.allowed = false → FirstUnmet obligations decision.reason) := by
  induction h generalizing warnings with
  | nil => exact ⟨.allow warnings, rfl, by simp [Decision.allow], by simp [Decision.allow]⟩
  | skip _ ih => exact ih warnings
  | @cons result results obligation obligations hfirst _ ih =>
    obtain ⟨r, rfl, hholds, hreason⟩ := hfirst
    -- Where the first condition is met, the rest decides, with or without one more warning.
    have hrest : ∀ more, obligation.holds → ∃ decision,
        settle more results = .ok decision ∧
        (decision.allowed = true ↔ ∀ o ∈ obligation :: obligations, o.holds) ∧
        (decision.allowed = false → FirstUnmet (obligation :: obligations) decision.reason) := by
      intro more hmet
      obtain ⟨decision, hdecision, hallowed, hunmet⟩ := ih more
      refine ⟨decision, hdecision, ?_, fun hdenied => .later hmet (hunmet hdenied)⟩
      rw [hallowed, List.forall_mem_cons]
      exact ⟨fun hall => ⟨hmet, hall⟩, fun hall => hall.2⟩
    cases r with
    | allow => exact hrest warnings (hholds.mp rfl)
    | warn message => exact hrest (warnings ++ [message]) (hholds.mp rfl)
    | deny reason message =>
      have hunmet : ¬ obligation.holds := fun hmet => by cases hholds.mpr hmet
      obtain rfl : reason = obligation.reason := hreason rfl
      refine ⟨_, rfl, ?_, fun _ => .here hunmet⟩
      rw [List.forall_mem_cons]
      exact ⟨fun hallowed => (by cases hallowed), fun hall => absurd hall.1 hunmet⟩

theorem decision_evaluateRulesFrom (context : RuleContext α) (warnings : List Text)
    (rules : List (Rule α)) :
    ((evaluateRulesFrom context warnings rules).result answers).map Evaluation.decision =
      settle warnings (ruleResults answers context rules) := by
  induction rules generalizing warnings with
  | nil => rfl
  | cons rule rest ih =>
    simp only [evaluateRulesFrom, ruleResults, List.map_cons, Consultation.result_bind]
    -- A failure and a denial end both; otherwise the rest goes on, behind the warning if there is
    -- one.
    cases (rule.check context).result answers with
    | error failure => rfl
    | ok r =>
      cases r with
      | deny reason message => rfl
      | warn message =>
        have h := ih (warnings ++ [message])
        simp only [Except.ok_bind, Consultation.result_bind, Consultation.result_record, settle]
        rw [← ruleResults, ← h]
        cases (evaluateRulesFrom context (warnings ++ [message]) rest).result answers <;> rfl
      | allow =>
        have h := ih warnings
        simp only [Except.ok_bind, Consultation.result_bind, settle]
        rw [← ruleResults, ← h]
        cases (evaluateRulesFrom context warnings rest).result answers <;> rfl

/-- The evaluation of rules decides what their results are settled to. -/
theorem decision_evaluateRules (context : RuleContext α) (rules : List (Rule α)) :
    ((evaluateRules rules context).result answers).map Evaluation.decision =
      settle [] (ruleResults answers context rules) :=
  decision_evaluateRulesFrom answers context [] rules

theorem asked_evaluateRulesFrom (context : RuleContext α) (warnings : List Text)
    (rules : List (Rule α)) (hpass : ∀ rule ∈ rules, (rule.check context).Passes answers) :
    (evaluateRulesFrom context warnings rules).asked answers =
      rules.flatMap fun rule => (rule.check context).asked answers := by
  induction rules generalizing warnings with
  | nil => rfl
  | cons rule rest ih =>
    rw [List.forall_mem_cons] at hpass
    obtain ⟨⟨r, hr, hdenied⟩, hrest⟩ := hpass
    -- What follows the questions of the rest is a result alone, and asks nothing more.
    have htail : ∀ (more : List Text) (f : Evaluation → Evaluation),
        (evaluateRulesFrom context more rest >>= fun e => pure (f e)).asked answers =
          rest.flatMap fun rule => (rule.check context).asked answers := by
      intro more f
      rw [Consultation.asked_bind, ih more hrest]
      cases (evaluateRulesFrom context more rest).result answers <;> simp
    rw [evaluateRulesFrom, Consultation.asked_bind, hr, List.flatMap_cons]
    cases r with
    | deny reason message => cases hdenied
    | warn message =>
      rw [← htail (warnings ++ [message]) (Evaluation.afterRule rule.name)]
      rfl
    | allow =>
      rw [← htail warnings (Evaluation.afterRule rule.name)]

/-- When every rule passes, the questions of all rules are asked in order. -/
theorem asked_evaluateRules (context : RuleContext α) (rules : List (Rule α))
    (hpass : ∀ rule ∈ rules, (rule.check context).Passes answers) :
    (evaluateRules rules context).asked answers =
      rules.flatMap fun rule => (rule.check context).asked answers :=
  asked_evaluateRulesFrom answers context [] rules hpass

/-- The evaluation of rules asks only what these ask. -/
theorem asksOnly_evaluateRulesFrom {kind : Query → Prop} (context : RuleContext α)
    (warnings : List Text) (rules : List (Rule α))
    (h : ∀ rule ∈ rules, (rule.check context).AsksOnly kind) :
    (evaluateRulesFrom context warnings rules).AsksOnly kind := by
  induction rules generalizing warnings with
  | nil => exact .pure _
  | cons rule rest ih =>
    rw [List.forall_mem_cons] at h
    refine h.1.bind fun r => ?_
    cases r with
    | deny reason message => exact (Consultation.AsksOnly.record _ _).bind fun _ => .pure _
    | warn message =>
      exact (Consultation.AsksOnly.record _ _).bind fun _ =>
        (ih (warnings ++ [message]) h.2).bind fun _ => .pure _
    | allow => exact (ih warnings h.2).bind fun _ => .pure _

/-- The decision of rules in a context. -/
def decisionOn (rules : List (Rule α)) (context : RuleContext α) : Consultation Decision :=
  evaluateRules rules context >>= fun evaluation => pure evaluation.decision

theorem asksOnly_decisionOn {kind : Query → Prop} {context : RuleContext α}
    {rules : List (Rule α)} (h : ∀ rule ∈ rules, (rule.check context).AsksOnly kind) :
    (decisionOn rules context).AsksOnly kind :=
  (asksOnly_evaluateRulesFrom context [] rules h).bind fun _ => .pure _

/-- A rule that allows at once has no part in the decision. -/
theorem decisionOn_cons_of_allow {context : RuleContext α} {rule : Rule α}
    {rest : List (Rule α)} (h : rule.check context = pure .allow) :
    decisionOn (rule :: rest) context = decisionOn rest context := by
  have hevaluate : evaluateRules (rule :: rest) context =
      (evaluateRules rest context >>= fun e => pure (e.afterRule rule.name)) := by
    rw [evaluateRules, evaluateRulesFrom, h]
    rfl
  rw [decisionOn, hevaluate, bind_assoc]
  rfl

/-- The log record of a rule that denies. -/
def Rule.denialRecord (rule : Rule α) (operation : Operation) (message : Text) : LogRecord :=
  ⟨.info, "Rule " ++ rule.name ++ " denied " ++ operation.name ++ ": " ++ message⟩

/-- Behind a rule that allows if something is granted, the other rules decide if it is. -/
theorem decisionOn_cons_of_granted {context : RuleContext α} {rule : Rule α}
    {rest : List (Rule α)} {c : Consultation Bool} {reason : Reason} {message : Text}
    (h : rule.check context = c >>= fun granted =>
      if granted then pure .allow else pure (.deny reason message)) :
    decisionOn (rule :: rest) context = c >>= fun granted =>
      if granted then decisionOn rest context
      else .log (rule.denialRecord context.operation message)
        (pure (.deny reason message [])) := by
  rw [decisionOn, evaluateRules, evaluateRulesFrom, h, bind_assoc, bind_assoc]
  congr 1
  funext granted
  -- A refusal is logged and ends the rules; behind a grant the others decide, under one more name.
  cases granted with
  | false => rfl
  | true =>
    have hallowed : decisionOn rest context =
        ((evaluateRules rest context >>= fun e => pure (e.afterRule rule.name)) >>= fun e =>
          pure e.decision) := by
      rw [bind_assoc]
      rfl
    exact hallowed.symm

/-! ## The objects of a request -/

/-- The objects that a request carries, decoded: the old one and the new one, as far as the
operation has them. -/
inductive Carried (kind : String) (decoder : Decoder α) (request : AdmissionRequest) :
    Option α → Option α → Prop where
  | create {new : α} : request.operation = .create →
      decodeObject kind decoder request.object = .ok (some new) →
      Carried kind decoder request none (some new)
  | update {old new : α} : request.operation = .update →
      decodeObject kind decoder request.oldObject = .ok (some old) →
      decodeObject kind decoder request.object = .ok (some new) →
      Carried kind decoder request (some old) (some new)
  | delete {old : α} : request.operation = .delete →
      decodeObject kind decoder request.oldObject = .ok (some old) →
      Carried kind decoder request (some old) none

variable {kind : String} {decoder : Decoder α} {request : AdmissionRequest} {old new : Option α}

/-- An operation that writes an object: creation, where there is none before, or an update of the
one before. -/
inductive Writes : Operation → Option α → Prop where
  | create : Writes .create none
  | update (old : α) : Writes .update (some old)

theorem Writes.ne_delete {operation : Operation} (h : Writes operation old) :
    operation ≠ .delete := by
  cases h <;> decide

/-- Rules for creations and updates look at such an operation. -/
theorem Writes.not_skipped {operation : Operation} (h : Writes operation old) :
    (operation ≠ .create && operation ≠ .update) = false := by
  cases h <;> rfl

theorem Carried.writes {object : α} (h : Carried kind decoder request old (some object)) :
    Writes request.operation old := by
  cases h with
  | create hop _ => rw [hop]; exact .create
  | update hop _ _ => rw [hop]; exact .update _

theorem Carried.create_or_update {object : α}
    (h : Carried kind decoder request old (some object)) :
    request.operation = .create ∨ request.operation = .update := by
  cases h with
  | create hop _ => exact .inl hop
  | update hop _ _ => exact .inr hop

theorem Carried.operation_eq_create (h : Carried kind decoder request none new) :
    request.operation = .create := by
  cases h with
  | create hop _ => exact hop

/-- A request that carries its objects comes to the rules. -/
theorem Carried.hasRules (h : Carried kind decoder request old new) :
    AdmissionControl.hasRules request.operation = true := by
  cases h with
  | create hop _ => rw [hop]; rfl
  | update hop _ _ => rw [hop]; rfl
  | delete hop _ => rw [hop]; rfl

/-- What the rules look at are the objects that the request carries. -/
theorem ruleContext_of_carried (h : Carried kind decoder request old new) :
    ruleContext kind decoder request =
      .ok ⟨request.operation, old, new, request.userInfo⟩ := by
  cases h with
  | create hop hnew => simp [ruleContext, hop, hnew]
  | update hop hold hnew => simp [ruleContext, hop, hold, hnew]
  | delete hop hold => simp [ruleContext, hop, hold]

/-- A request that comes to the rules of a kind carries the objects that these look at. -/
theorem carried_of_ruleContext {context : RuleContext α}
    (hrules : hasRules request.operation = true)
    (h : ruleContext kind decoder request = .ok context) :
    Carried kind decoder request context.old context.new := by
  -- Each operation decodes the objects that it carries; a context is only there if each is present.
  cases hop : request.operation with
  | connect => rw [hop] at hrules; cases hrules
  | create =>
    simp only [ruleContext, hop] at h
    cases hnew : decodeObject kind decoder request.object with
    | error failure => simp [hnew] at h
    | ok new =>
      cases new with
      | none => simp [hnew] at h
      | some new => simp [hnew] at h; subst h; exact .create hop hnew
  -- An update decodes the object before first, and then the one behind.
  | update =>
    simp only [ruleContext, hop] at h
    cases hold : decodeObject kind decoder request.oldObject with
    | error failure => simp [hold] at h
    | ok old =>
      cases hnew : decodeObject kind decoder request.object with
      | error failure => simp [hold, hnew] at h
      | ok new =>
        cases new with
        | none => simp [hold, hnew] at h
        | some new =>
          cases old with
          | none => simp [hold, hnew] at h
          | some old => simp [hold, hnew] at h; subst h; exact .update hop hold hnew
  | delete =>
    simp only [ruleContext, hop] at h
    cases hold : decodeObject kind decoder request.oldObject with
    | error failure => simp [hold] at h
    | ok old =>
      cases old with
      | none => simp [hold] at h
      | some old => simp [hold] at h; subst h; exact .delete hop hold

/-- The decision on a request is that of the rules on the objects that it carries. -/
theorem decideBy_of_carried (rules : List (Rule α)) (h : Carried kind decoder request old new) :
    decideBy kind decoder rules request =
      decisionOn rules ⟨request.operation, old, new, request.userInfo⟩ := by
  rw [decideBy, if_pos h.hasRules, ruleContext_of_carried h]
  rfl

/-- It is what the results of the rules on these objects are settled to. -/
theorem result_decideBy (rules : List (Rule α)) (h : Carried kind decoder request old new) :
    (decideBy kind decoder rules request).result answers =
      settle [] (ruleResults answers ⟨request.operation, old, new, request.userInfo⟩ rules) := by
  rw [decideBy_of_carried rules h, decisionOn, Consultation.result_bind, ← decision_evaluateRules]
  cases (evaluateRules rules _).result answers <;> rfl

theorem silent_decideBy (rules : List (Rule α))
    (h : ∀ context, ∀ rule ∈ rules, (rule.check context).Silent) :
    (decideBy kind decoder rules request).Silent := by
  unfold decideBy
  split
  · exact (Consultation.AsksOnly.ofExcept _ _).bind fun context =>
      asksOnly_decisionOn (h context)
  · exact .pure _

/-- A request that comes to the rules is allowed exactly when it carries its objects and every rule
passes on them. -/
theorem decideBy_allowed_iff (rules : List (Rule α)) (hrules : hasRules request.operation = true) :
    (∃ decision, (decideBy kind decoder rules request).result answers = .ok decision ∧
      decision.allowed = true) ↔
    ∃ old new, Carried kind decoder request old new ∧ ∀ rule ∈ rules,
      (rule.check ⟨request.operation, old, new, request.userInfo⟩).Passes answers := by
  have hpasses : ∀ (context : RuleContext α),
      (∃ decision, settle [] (ruleResults answers context rules) = .ok decision ∧
        decision.allowed = true) ↔ ∀ rule ∈ rules, (rule.check context).Passes answers := by
    intro context
    rw [settle_allowed_iff, ruleResults, List.forall_mem_map]
    rfl
  constructor
  · rintro ⟨decision, hdecision, hallowed⟩
    cases hcontext : ruleContext kind decoder request with
    | error failure =>
      -- A request without its objects fails, and is not decided on.
      rw [decideBy, if_pos hrules, hcontext] at hdecision
      cases hdecision
    | ok context =>
      have hcarried := carried_of_ruleContext hrules hcontext
      have hsettled := result_decideBy answers rules hcarried
      rw [hdecision] at hsettled
      exact ⟨_, _, hcarried, (hpasses _).mp ⟨decision, hsettled.symm, hallowed⟩⟩
  · rintro ⟨old, new, hcarried, hpass⟩
    rw [result_decideBy answers rules hcarried]
    exact (hpasses _).mpr hpass

/-- An allowed request has asked the questions of every rule. -/
theorem asked_decideBy (rules : List (Rule α)) (h : Carried kind decoder request old new)
    (hpass : ∀ rule ∈ rules,
      (rule.check ⟨request.operation, old, new, request.userInfo⟩).Passes answers) :
    (decideBy kind decoder rules request).asked answers = rules.flatMap fun rule =>
      (rule.check ⟨request.operation, old, new, request.userInfo⟩).asked answers := by
  rw [decideBy_of_carried rules h, decisionOn, Consultation.asked_bind,
    asked_evaluateRules answers _ rules hpass]
  cases (evaluateRules rules _).result answers <;> simp

/-! ## Reviews -/

section

variable {admissionReview : Json} {request : AdmissionRequest} {resource : Text}
  {kind : ResourceKind}

/-- The evaluation of a request that falls under a kind: the decision, and its record. -/
theorem evaluateRequest_of_dispatch (hdispatch : dispatch request resource = .ok kind) :
    evaluateRequest request resource = (decideRequest kind request >>= fun decision =>
      Consultation.record (decisionRecord kind request decision).level
        (decisionRecord kind request decision).message >>= fun _ => pure decision) := by
  unfold evaluateRequest
  rw [hdispatch]
  rfl

/-- A review evaluates the request that it holds, and responds to it. -/
theorem review_of_request (hrequest : requestOf admissionReview = .ok request) :
    review admissionReview resource = (evaluateRequest request resource >>= fun decision =>
      pure (decision.respond request.uid)) := by
  rw [review, hrequest]
  rfl

/-- What comes behind the decision of a review: its record, and the response. -/
def concludeReview (kind : ResourceKind) (request : AdmissionRequest) (decision : Decision) :
    Consultation ReviewResponse :=
  Consultation.record (decisionRecord kind request decision).level
    (decisionRecord kind request decision).message >>= fun _ =>
      pure (decision.respond request.uid)

/-- A review of a request that falls under a kind. -/
theorem review_of_dispatch (hrequest : requestOf admissionReview = .ok request)
    (hdispatch : dispatch request resource = .ok kind) :
    review admissionReview resource =
      (decideRequest kind request >>= concludeReview kind request) := by
  rw [review_of_request hrequest, evaluateRequest_of_dispatch hdispatch, bind_assoc]
  rfl

end

end AdmissionControl
