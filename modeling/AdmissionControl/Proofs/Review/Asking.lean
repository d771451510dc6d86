/-
  AdmissionControl.Proofs.Review.Asking

  Questions that no run to a certain end leaves out.

  `AsksBefore query P` says of a consultation that on every branch to a result with `P` it asks the
  query, whatever the replies.  So every run to such a result comes to a state of the handler in
  which the query is asked and replied to (`exists_reached`), also over a handler that replies
  differently each time.

  A rule that asks a question before every result but a denial makes each allowed review ask it
  (`asksBefore_review`).  The rule on the creator of a cluster is one, so no creation that names a
  creator is allowed unasked (`asksBefore_creation`).
-/

import AdmissionControl.Proofs.Cluster.Obligations
import Mathlib.Logic.Relation

namespace AdmissionControl

namespace Consultation

variable {α β : Type} {query : Query} {P : α → Prop}

/-- On every branch of the consultation to a result with `P` the query is asked. -/
inductive AsksBefore (query : Query) (P : α → Prop) : Consultation α → Prop where
  | fail (failure : Failure) : AsksBefore query P (.done (.error failure))
  | done {a : α} : ¬ P a → AsksBefore query P (.done (.ok a))
  | log {record : LogRecord} {rest : Consultation α} : AsksBefore query P rest →
      AsksBefore query P (.log record rest)
  | here (next : query.Reply → Consultation α) : AsksBefore query P (.ask query next)
  | later {other : Query} {next : other.Reply → Consultation α} :
      (∀ reply, AsksBefore query P (next reply)) → AsksBefore query P (.ask other next)

theorem AsksBefore.pure {a : α} (h : ¬ P a) : AsksBefore query P (pure a : Consultation α) :=
  .done h

/-- Nothing has to be asked before a result that never comes. -/
theorem AsksBefore.never (query : Query) (c : Consultation α) :
    c.AsksBefore query fun _ => False := by
  induction c with
  | done result =>
    cases result with
    | ok a => exact .done not_false
    | error failure => exact .fail failure
  | log record rest ih => exact .log ih
  | ask other next ih => exact .later ih

/-- Of two consultations, the first asks before some of its results, and the second behind all
others. -/
theorem AsksBefore.bind {Q : β → Prop} {c : Consultation α} {f : α → Consultation β}
    (hc : c.AsksBefore query P) (hf : ∀ a, ¬ P a → (f a).AsksBefore query Q) :
    (c >>= f).AsksBefore query Q := by
  show (c.bind f).AsksBefore query Q
  induction hc with
  | fail failure => exact .fail failure
  | done ha => exact hf _ ha
  | log _ ih => exact .log ih
  | here next => exact .here _
  | later _ ih => exact .later ih

/-- What the second of two consultations asks in any case is asked by both together. -/
theorem AsksBefore.of_next {Q : β → Prop} {f : α → Consultation β} (c : Consultation α)
    (hf : ∀ a, (f a).AsksBefore query Q) : (c >>= f).AsksBefore query Q :=
  (AsksBefore.never query c).bind fun a _ => hf a

/-- A result that is only passed on has to be asked for as it was. -/
theorem AsksBefore.map {Q : β → Prop} {c : Consultation α} {f : α → β}
    (hc : c.AsksBefore query P) (hf : ∀ a, Q (f a) → P a) :
    (c >>= fun a => Pure.pure (f a)).AsksBefore query Q :=
  hc.bind fun a ha => .pure fun hQ => ha (hf a hQ)

end Consultation

/-! ## Runs -/

/-- One state of a handler comes behind another, by some questions. -/
abbrev Handler.Reaches (handler : Handler σ) : σ → σ → Prop :=
  Relation.ReflTransGen fun before after => ∃ query, (handler query before).state = after

namespace Consultation

variable {α : Type} {query : Query} {P : α → Prop} {handler : Handler σ}

theorem reaches_run (c : Consultation α) (state : σ) :
    handler.Reaches state (c.run handler state).state := by
  induction c generalizing state with
  | done result => exact .refl
  | log record rest ih => exact ih state
  | ask query next ih =>
    have hstep : handler.Reaches state (handler query state).state := .single ⟨query, rfl⟩
    simp only [run]
    split
    · exact hstep.trans (ih _ _)
    · exact hstep

/-- A run to a result with `P` comes to a state in which the query is asked and replied to, and
goes on from there. -/
theorem AsksBefore.exists_reached {c : Consultation α} (h : c.AsksBefore query P) {state : σ}
    {a : α} (hrun : (c.run handler state).result = .ok a) (ha : P a) :
    ∃ reached reply, handler.Reaches state reached ∧
      (handler query reached).reply = .ok reply ∧
      handler.Reaches (handler query reached).state (c.run handler state).state := by
  -- By induction on how the question is unavoidable, over the state in which the rest finds itself.
  induction h generalizing state with
  | fail failure => cases hrun
  | done hnot =>
    cases hrun
    exact absurd ha hnot
  | log _ ih => exact ih hrun
  | here next =>
    simp only [run] at hrun ⊢
    split at hrun
    · next reply hreply =>
      exact ⟨state, reply, .refl, hreply, reaches_run (next reply) _⟩
    · cases hrun
  | @later other next _ ih =>
    -- Another question comes first; it was replied to, for the run ends with a value.
    have hstep : handler.Reaches state (handler other state).state := .single ⟨other, rfl⟩
    simp only [run] at hrun ⊢
    split at hrun
    · next reply hreply =>
      obtain ⟨reached, known, hreached, hknown, hrest⟩ := ih reply hrun
      exact ⟨reached, known, hstep.trans hreached, hknown, hrest⟩
    · cases hrun

end Consultation

/-! ## Rules -/

open Consultation

variable {α : Type} {query : Query}

/-- The question of one rule is asked before the rules allow. -/
theorem asksBefore_evaluateRulesFrom {context : RuleContext α} {rules : List (Rule α)}
    {rule : Rule α} (hmem : rule ∈ rules)
    (hrule : (rule.check context).AsksBefore query fun r => r.denied = false)
    (warnings : List Text) :
    (evaluateRulesFrom context warnings rules).AsksBefore query
      fun evaluation => evaluation.decision.allowed = true := by
  induction rules generalizing warnings with
  | nil => cases hmem
  | cons first rest ih =>
    -- A denial does not allow.
    have hdenied : ∀ reason message,
        (record .info ("Rule " ++ first.name ++ " denied " ++ context.operation.name ++ ": " ++
          message) >>= fun _ => (Pure.pure ⟨.deny reason message warnings, [first.name]⟩ :
            Consultation Evaluation)).AsksBefore query
          fun evaluation => evaluation.decision.allowed = true :=
      fun reason message => .of_next _ fun _ => .pure Bool.false_ne_true
    rcases List.mem_cons.mp hmem with rfl | hrest
    · refine hrule.bind fun r hr => ?_
      cases r with
      | allow => exact absurd rfl hr
      | warn message => exact absurd rfl hr
      | deny reason message => exact hdenied reason message
    · refine .of_next _ fun r => ?_
      cases r with
      | allow => exact (ih hrest warnings).map fun _ hallowed => hallowed
      | warn message =>
        exact .of_next _ fun _ =>
          (ih hrest (warnings ++ [message])).map fun _ hallowed => hallowed
      | deny reason message => exact hdenied reason message

variable {kind : String} {decoder : Decoder α} {request : AdmissionRequest} {old new : Option α}

theorem asksBefore_decideBy {rules : List (Rule α)} {rule : Rule α} (hmem : rule ∈ rules)
    (hcarried : Carried kind decoder request old new)
    (hrule : (rule.check ⟨request.operation, old, new, request.userInfo⟩).AsksBefore query
      fun r => r.denied = false) :
    (decideBy kind decoder rules request).AsksBefore query
      fun decision => decision.allowed = true := by
  rw [decideBy_of_carried rules hcarried]
  exact (asksBefore_evaluateRulesFrom hmem hrule []).map fun _ hallowed => hallowed

/-- A review that falls under a kind asks what the decision on its request asks. -/
theorem asksBefore_review {admissionReview : Json} {resource : Text} {kind : ResourceKind}
    (hrequest : requestOf admissionReview = .ok request)
    (hkind : dispatch request resource = .ok kind)
    (hdecision : (decideRequest kind request).AsksBefore query
      fun decision => decision.allowed = true) :
    (review admissionReview resource).AsksBefore query
      fun response => response.allowed = true := by
  rw [review_of_dispatch hrequest hkind]
  exact hdecision.bind fun decision hallowed => .of_next _ fun _ => .pure hallowed

/-- The rule on the creator asks for the user who is named before it passes. -/
theorem ClusterRules.asksBefore_creatorReference {before : Option Cluster} {new : Cluster}
    {user : UserInfo} (hnamed : new.written creatorId ≠ "") :
    (creatorReference ⟨.create, before, some new, user⟩).AsksBefore
      (.user (new.written creatorId)) fun r => r.denied = false := by
  obtain ⟨missing, foreign, hrule⟩ := creatorReference_of_named before user hnamed
  rw [hrule]
  exact .here _

/-- A review of the creation of a cluster asks for the creator who is named before it allows. -/
theorem ClusterRules.asksBefore_creation {admissionReview : Json} {resource : Text}
    {new : Cluster} (hrequest : requestOf admissionReview = .ok request)
    (hkind : dispatch request resource = .ok .cluster)
    (hcarried : Carried "Cluster" Cluster.decode request none (some new))
    (hnamed : new.written creatorId ≠ "") :
    (review admissionReview resource).AsksBefore (.user (new.written creatorId))
      fun response => response.allowed = true := by
  have hmem : (⟨"creator-reference", creatorReference⟩ : Rule Cluster) ∈ all := by simp [all]
  have hrule : (creatorReference ⟨request.operation, none, some new,
      request.userInfo⟩).AsksBefore (.user (new.written creatorId)) fun r => r.denied = false := by
    cases hcarried with
    | create hop _ =>
      rw [hop]
      exact asksBefore_creatorReference hnamed
  exact asksBefore_review hrequest hkind (asksBefore_decideBy hmem hcarried hrule)

end AdmissionControl
