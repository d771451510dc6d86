/-
  AdmissionControl.Proofs.Rules.Course

  The course that the evaluation of rules takes.

  `Passed` says that some rules were run one after the other and none of them denied, with what they
  warned of and logged; `Course` says how an evaluation ends behind them: with no rule left, with a
  rule that denies, or with a rule that fails.  A run of the evaluation is its only course
  (`run_evaluateRules_eq_iff`), so the rules behind the last one that ran have no part in it.

  An evaluation is that of its first rule and, if it passes, of the others, whose warnings and names
  come behind (`evaluateRules_cons`).  Hence lists of rules can be split (`evaluateRules_append`).
-/

import AdmissionControl.Proofs.Evaluation

namespace AdmissionControl

variable {α σ : Type} {handler : Handler σ} {state : σ}

/-! ## Log records and results in front -/

namespace Consultation

variable {β : Type}

/-- A consultation with log records in front. -/
def logging (records : List LogRecord) (c : Consultation α) : Consultation α :=
  records.foldr .log c

theorem run_logging (records : List LogRecord) (c : Consultation α) :
    (logging records c).run handler state = (c.run handler state).after records := by
  induction records with
  | nil => rfl
  | cons record rest ih =>
    show ((logging rest c).run handler state).after [record] = _
    rw [ih, Outcome.after_after]
    rfl

@[simp] theorem result_logging (answers : Answers) (records : List LogRecord)
    (c : Consultation α) : (logging records c).result answers = c.result answers := by
  induction records with
  | nil => rfl
  | cons record rest ih => exact ih

theorem logging_bind (records : List LogRecord) (c : Consultation α) (f : α → Consultation β) :
    (logging records c >>= f) = logging records (c >>= f) := by
  induction records with
  | nil => rfl
  | cons record rest ih => exact congrArg (Consultation.log record) ih

variable {c : Consultation α} {log : List LogRecord} {next : σ}

/-- A run goes on behind a result. -/
theorem run_bind_of_ok {a : α} (f : α → Consultation β)
    (h : c.run handler state = ⟨.ok a, log, next⟩) :
    (c >>= f).run handler state = ((f a).run handler next).after log := by
  have hbind : (c >>= f).run handler state = _ := run_bind handler c f state
  rw [hbind, h]

/-- A run ends with a failure. -/
theorem run_bind_of_error {failure : Failure} (f : α → Consultation β)
    (h : c.run handler state = ⟨.error failure, log, next⟩) :
    (c >>= f).run handler state = ⟨.error failure, log, next⟩ := by
  have hbind : (c >>= f).run handler state = _ := run_bind handler c f state
  rw [hbind, h]

/-- Consultations that run alike, up to log records in front, go on alike. -/
theorem run_bind_of_after {d : Consultation α} (f : α → Consultation β)
    (h : c.run handler state = (d.run handler next).after log) :
    (c >>= f).run handler state = ((d >>= f).run handler next).after log := by
  have hleft : (c >>= f).run handler state = _ := run_bind handler c f state
  have hright : (d >>= f).run handler next = _ := run_bind handler d f next
  rw [hleft, hright, h]
  cases hresult : (d.run handler next).result <;> simp [Outcome.after, hresult]

end Consultation

/-! ## One rule -/

/-- The message of a warning. -/
def RuleResult.warnings : RuleResult → List Text
  | .warn message => [message]
  | _ => []

/-- The log record of a rule that warns. -/
def Rule.warningRecord (rule : Rule α) (message : Text) : LogRecord :=
  ⟨.debug, "Rule " ++ rule.name ++ " warned: " ++ message⟩

/-- What is logged of the result of a rule. -/
def Rule.remarks (rule : Rule α) (operation : Operation) : RuleResult → List LogRecord
  | .allow => []
  | .warn message => [rule.warningRecord message]
  | .deny _ message => [rule.denialRecord operation message]

/-- An evaluation behind other rules, of some names, and their warnings. -/
def Evaluation.behind (names : List String) (warnings : List Text) (evaluation : Evaluation) :
    Evaluation where
  decision := { evaluation.decision with warnings := warnings ++ evaluation.decision.warnings }
  ran := names ++ evaluation.ran

theorem Evaluation.behind_behind (names names' : List String) (warnings warnings' : List Text)
    (evaluation : Evaluation) :
    (evaluation.behind names' warnings').behind names warnings =
      evaluation.behind (names ++ names') (warnings ++ warnings') := by
  simp [behind]

variable {context : RuleContext α}

/-- What is logged of a rule, and then the denial or the rules behind it. -/
theorem evaluateRulesFrom_cons (warnings : List Text) (rule : Rule α) (rest : List (Rule α)) :
    evaluateRulesFrom context warnings (rule :: rest) = (rule.check context >>= fun r =>
      Consultation.logging (rule.remarks context.operation r) (
        if r.denied then pure ⟨.deny r.reason r.message warnings, [rule.name]⟩
        else evaluateRulesFrom context (warnings ++ r.warnings) rest >>= fun e =>
          pure (e.afterRule rule.name))) := by
  rw [evaluateRulesFrom]
  refine congrArg (rule.check context >>= ·) (funext fun r => ?_)
  cases r with
  | deny reason message => rfl
  | warn message => rfl
  | allow =>
    rw [RuleResult.warnings, List.append_nil]
    · rfl
    · rintro message ⟨⟩

/-- Warnings of earlier rules come in front of what the others decide. -/
theorem evaluateRulesFrom_append (earlier warnings : List Text) (rules : List (Rule α)) :
    evaluateRulesFrom context (earlier ++ warnings) rules =
      (evaluateRulesFrom context warnings rules >>= fun e => pure (e.behind [] earlier)) := by
  induction rules generalizing warnings with
  | nil => rfl
  | cons rule rest ih =>
    rw [evaluateRulesFrom_cons, evaluateRulesFrom_cons, bind_assoc]
    refine congrArg (rule.check context >>= ·) (funext fun r => ?_)
    rw [Consultation.logging_bind, List.append_assoc, ih]
    cases hdenied : r.denied
    · simp only [Bool.false_eq_true, if_false, bind_assoc, pure_bind]
      rfl
    · rfl

theorem evaluateRulesFrom_eq (warnings : List Text) (rules : List (Rule α)) :
    evaluateRulesFrom context warnings rules =
      (evaluateRules rules context >>= fun e => pure (e.behind [] warnings)) := by
  have h : evaluateRulesFrom context (warnings ++ []) rules = _ :=
    evaluateRulesFrom_append warnings [] rules
  rwa [List.append_nil] at h

/-- Rules are evaluated by the first of them, and by the others if it does not deny. -/
theorem evaluateRules_cons (rule : Rule α) (rest : List (Rule α)) :
    evaluateRules (rule :: rest) context = (rule.check context >>= fun r =>
      Consultation.logging (rule.remarks context.operation r) (
        if r.denied then pure ⟨.deny r.reason r.message [], [rule.name]⟩
        else evaluateRules rest context >>= fun e =>
          pure (e.behind [rule.name] r.warnings))) := by
  rw [evaluateRules, evaluateRulesFrom_cons]
  simp only [List.nil_append, evaluateRulesFrom_eq _ rest, bind_assoc, pure_bind]
  rfl

/-- Rules are evaluated by a front of them, and by the others if it does not deny. -/
theorem evaluateRules_append (first second : List (Rule α)) :
    evaluateRules (first ++ second) context = (evaluateRules first context >>= fun e =>
      if e.decision.allowed then
        evaluateRules second context >>= fun e' => pure (e'.behind e.ran e.decision.warnings)
      else pure e) := by
  induction first with
  | nil => exact (bind_pure (evaluateRules second context)).symm
  | cons rule rest ih =>
    rw [List.cons_append, evaluateRules_cons, evaluateRules_cons, bind_assoc]
    refine congrArg (rule.check context >>= ·) (funext fun r => ?_)
    rw [Consultation.logging_bind]
    -- Behind a denial neither the rest nor the second list is asked.
    cases hdenied : r.denied
    · simp only [Bool.false_eq_true, if_false, bind_assoc, pure_bind, ih]
      refine congrArg _ (congrArg (evaluateRules rest context >>= ·) (funext fun e => ?_))
      cases hallowed : e.decision.allowed
      · simp [Evaluation.behind, hallowed]
      · simp [Evaluation.behind, hallowed]
    · rfl

/-! ## Courses -/

/-- The names of some rules. -/
def ruleNames (rules : List (Rule α)) : List String := rules.map Rule.name

/-- Rules run one after the other from a state of the handler, and none of them denies.  What they
warn of and log is kept in order, and each goes on from where the last left the handler. -/
inductive Passed (handler : Handler σ) (context : RuleContext α) :
    List (Rule α) → σ → List Text → List LogRecord → σ → Prop where
  | nil (state : σ) : Passed handler context [] state [] [] state
  | cons {rule : Rule α} {rest : List (Rule α)} {r : RuleResult} {state next last : σ}
      {log more : List LogRecord} {warnings : List Text} :
      (rule.check context).run handler state = ⟨.ok r, log, next⟩ → r.denied = false →
      Passed handler context rest next warnings more last →
      Passed handler context (rule :: rest) state (r.warnings ++ warnings)
        (log ++ rule.remarks context.operation r ++ more) last

/-- How the evaluation of rules ends: they all pass, or behind rules that pass there is one that
denies, or one that fails. -/
inductive Course (handler : Handler σ) (context : RuleContext α) :
    List (Rule α) → σ → Outcome σ Evaluation → Prop where
  | passed {rules : List (Rule α)} {state last : σ} {warnings : List Text}
      {log : List LogRecord} : Passed handler context rules state warnings log last →
      Course handler context rules state ⟨.ok ⟨.allow warnings, ruleNames rules⟩, log, last⟩
  | denied {before : List (Rule α)} {rule : Rule α} (after : List (Rule α)) {state next last : σ}
      {warnings : List Text} {log more : List LogRecord} {reason : Reason} {message : Text} :
      Passed handler context before state warnings log next →
      (rule.check context).run handler next = ⟨.ok (.deny reason message), more, last⟩ →
      Course handler context (before ++ rule :: after) state
        ⟨.ok ⟨.deny reason message warnings, ruleNames (before ++ [rule])⟩,
          log ++ more ++ [rule.denialRecord context.operation message], last⟩
  | failed {before : List (Rule α)} {rule : Rule α} (after : List (Rule α)) {state next last : σ}
      {warnings : List Text} {log more : List LogRecord} {failure : Failure} :
      Passed handler context before state warnings log next →
      (rule.check context).run handler next = ⟨.error failure, more, last⟩ →
      Course handler context (before ++ rule :: after) state ⟨.error failure, log ++ more, last⟩

variable {rules before after : List (Rule α)} {warnings : List Text} {log : List LogRecord}
  {next : σ}

/-- Behind rules that pass, the evaluation is that of the others. -/
theorem Passed.run_append (h : Passed handler context before state warnings log next)
    (after : List (Rule α)) :
    (evaluateRules (before ++ after) context).run handler state =
      ((evaluateRules after context >>= fun e =>
        pure (e.behind (ruleNames before) warnings)).run handler next).after log := by
  induction h with
  | nil state =>
    show _ = ((evaluateRules after context >>= pure).run handler state).after []
    rw [bind_pure]
    rfl
  | @cons rule rest r state next last log more warnings hrun hpasses _ ih =>
    rw [List.cons_append, evaluateRules_cons, Consultation.run_bind_of_ok _ hrun,
      Consultation.run_logging, hpasses, if_neg (by decide), Consultation.run_bind_of_after _ ih]
    simp only [bind_assoc, pure_bind, Evaluation.behind_behind, Outcome.after_after,
      List.append_assoc]
    rfl

/-- Rules that were run pass under the answers of the handler. -/
theorem Passed.passes {answers : Answers} (hgives : handler.Gives answers)
    (h : Passed handler context before state warnings log next) :
    ∀ rule ∈ before, (rule.check context).Passes answers := by
  induction h with
  | nil state => exact fun rule hrule => absurd hrule List.not_mem_nil
  | @cons rule rest r state next last log more warnings hrun hpasses _ ih =>
    refine List.forall_mem_cons.mpr ⟨⟨r, ?_, hpasses⟩, ih⟩
    rw [← Consultation.result_run hgives _ state, hrun]

theorem Passed.append_inv {first second : List (Rule α)} {warnings : List Text}
    {log : List LogRecord} (h : Passed handler context (first ++ second) state warnings log next) :
    ∃ between warnings₁ warnings₂ log₁ log₂,
      Passed handler context first state warnings₁ log₁ between ∧
      Passed handler context second between warnings₂ log₂ next ∧
      warnings = warnings₁ ++ warnings₂ ∧ log = log₁ ++ log₂ := by
  induction first generalizing state warnings log with
  | nil => exact ⟨state, [], warnings, [], log, .nil state, h, rfl, rfl⟩
  | cons rule rest ih =>
    cases h with
    | cons hrun hpasses hrest =>
      obtain ⟨between, warnings₁, warnings₂, log₁, log₂, hfirst, hsecond, rfl, rfl⟩ := ih hrest
      exact ⟨between, _, warnings₂, _, log₂, .cons hrun hpasses hfirst, hsecond,
        (List.append_assoc _ _ _).symm, (List.append_assoc _ _ _).symm⟩

/-- The run of an evaluation that takes a course. -/
theorem Course.run_eq {outcome : Outcome σ Evaluation}
    (h : Course handler context rules state outcome) :
    (evaluateRules rules context).run handler state = outcome := by
  cases h with
  | @passed rules state last warnings log hpassed =>
    -- The run of the rules that pass is known, so only what ends it is left.
    have hrun := hpassed.run_append []
    rw [List.append_nil] at hrun
    rw [hrun]
    show (⟨.ok ⟨.allow (warnings ++ []), ruleNames rules ++ []⟩, log ++ [], last⟩ :
      Outcome σ Evaluation) = _
    simp only [List.append_nil]
  | @denied before rule after state next last warnings log more reason message hpassed hrun =>
    rw [hpassed.run_append, evaluateRules_cons, bind_assoc, Consultation.run_bind_of_ok _ hrun]
    show (⟨.ok ⟨.deny reason message (warnings ++ []), ruleNames before ++ [rule.name]⟩,
      log ++ (more ++ [rule.denialRecord context.operation message]), last⟩ :
        Outcome σ Evaluation) = _
    simp [ruleNames]
  | failed after hpassed hrun =>
    rw [hpassed.run_append, evaluateRules_cons, bind_assoc, Consultation.run_bind_of_error _ hrun]
    rfl

theorem exists_course (handler : Handler σ) (context : RuleContext α) (rules : List (Rule α))
    (state : σ) :
    ∃ outcome, Course handler context rules state outcome := by
  induction rules generalizing state with
  | nil => exact ⟨_, .passed (.nil state)⟩
  | cons rule rest ih =>
    -- What the first rule says decides whether the others are asked.
    cases hrun : (rule.check context).run handler state with
    | mk result log next =>
      cases result with
      | error failure => exact ⟨_, .failed rest (.nil state) hrun⟩
      | ok r =>
        cases hdenied : r.denied
        · -- The course of the others, with one more rule that passes in front.
          obtain ⟨outcome, hcourse⟩ := ih next
          cases hcourse with
          | passed hpassed => exact ⟨_, .passed (.cons hrun hdenied hpassed)⟩
          | denied after hpassed hlast =>
            exact ⟨_, .denied after (.cons hrun hdenied hpassed) hlast⟩
          | failed after hpassed hlast =>
            exact ⟨_, .failed after (.cons hrun hdenied hpassed) hlast⟩
        · cases r with
          | deny reason message => exact ⟨_, .denied rest (.nil state) hrun⟩
          | allow => cases hdenied
          | warn message => cases hdenied

theorem run_evaluateRules_eq_iff {outcome : Outcome σ Evaluation} :
    (evaluateRules rules context).run handler state = outcome ↔
      Course handler context rules state outcome := by
  constructor
  · rintro rfl
    obtain ⟨outcome, hcourse⟩ := exists_course handler context rules state
    rwa [hcourse.run_eq]
  · exact Course.run_eq

/-! ## Rules with a result each -/

/-- The rules that run when the results are given: those up to the first denial, with it. -/
def throughDenial (said : Rule α → RuleResult) (rules : List (Rule α)) : List (Rule α) :=
  rules.takeWhile (fun rule => !(said rule).denied) ++
    (rules.find? fun rule => (said rule).denied).toList

/-- What rules with given results decide: the first denial, if there is one, and the warnings of
the rules that run. -/
def decisionOf (said : Rule α → RuleResult) (rules : List (Rule α)) : Decision :=
  let warnings := (throughDenial said rules).flatMap fun rule => (said rule).warnings
  match rules.find? fun rule => (said rule).denied with
  | some rule => .deny (said rule).reason (said rule).message warnings
  | none => .allow warnings

theorem decisionOf_denied_iff (said : Rule α → RuleResult) (rules : List (Rule α)) :
    (decisionOf said rules).allowed = false ↔ ∃ rule ∈ rules, (said rule).denied = true := by
  rw [← List.find?_isSome, decisionOf]
  cases rules.find? fun rule => (said rule).denied <;> simp [Decision.allow, Decision.deny]

section

variable {said : Rule α → RuleResult} {rule : Rule α} (rest : List (Rule α))

theorem throughDenial_cons_of_denied (h : (said rule).denied = true) :
    throughDenial said (rule :: rest) = [rule] := by
  simp [throughDenial, h]

theorem throughDenial_cons_of_passed (h : (said rule).denied = false) :
    throughDenial said (rule :: rest) = rule :: throughDenial said rest := by
  simp [throughDenial, h]

theorem decisionOf_cons_of_denied (h : (said rule).denied = true) :
    decisionOf said (rule :: rest) = .deny (said rule).reason (said rule).message [] := by
  have hnone : (said rule).warnings = [] := by
    cases hsaid : said rule with
    | warn message =>
      rw [hsaid] at h
      cases h
    | _ => rfl
  simp [decisionOf, throughDenial_cons_of_denied rest h, h, hnone]

theorem decisionOf_cons_of_passed (h : (said rule).denied = false) :
    decisionOf said (rule :: rest) = { decisionOf said rest with
      warnings := (said rule).warnings ++ (decisionOf said rest).warnings } := by
  simp only [decisionOf, throughDenial_cons_of_passed rest h, List.find?_cons, h,
    List.flatMap_cons]
  cases rest.find? fun rule => (said rule).denied <;> rfl

end

/-- Only the rules up to the first denial need a result. -/
theorem result_evaluateRules {answers : Answers} {said : Rule α → RuleResult}
    (h : ∀ rule ∈ throughDenial said rules, (rule.check context).result answers = .ok (said rule)) :
    (evaluateRules rules context).result answers =
      .ok ⟨decisionOf said rules, ruleNames (throughDenial said rules)⟩ := by
  induction rules with
  | nil => rfl
  | cons rule rest ih =>
    -- Only the rules up to the first denial need to say anything.
    cases hdenied : (said rule).denied
    · rw [throughDenial_cons_of_passed rest hdenied] at h ⊢
      obtain ⟨hrule, hrest⟩ := List.forall_mem_cons.mp h
      rw [evaluateRules_cons, Consultation.result_bind, hrule, Except.ok_bind,
        Consultation.result_logging, hdenied, if_neg (by decide), Consultation.result_bind,
        ih hrest, decisionOf_cons_of_passed rest hdenied]
      rfl
    · rw [throughDenial_cons_of_denied rest hdenied] at h ⊢
      have hrule := h rule List.mem_cons_self
      rw [evaluateRules_cons, Consultation.result_bind, hrule, Except.ok_bind,
        Consultation.result_logging, hdenied, if_pos rfl, decisionOf_cons_of_denied rest hdenied]
      rfl

/-! ## The evaluation of any rules -/

/-- A run of the evaluation is its course: rules that pass, each from where the last left off, up to
the first that denies or fails.  If the results are given up to the first denial, the rules up to it
run, it is the decision, and the warnings are theirs.  Two lists of rules are evaluated like the
first alone if it denies, and otherwise like the second with the first's warnings in front. -/
theorem evaluation_ends_at_first_denial_or_failure :
    (∀ (σ α : Type) (handler : Handler σ) (context : RuleContext α) (rules : List (Rule α))
      (state : σ) (outcome : Outcome σ Evaluation),
      (evaluateRules rules context).run handler state = outcome ↔
        Course handler context rules state outcome) ∧
    (∀ (α : Type) (answers : Answers) (context : RuleContext α) (rules : List (Rule α))
      (said : Rule α → RuleResult),
      (∀ rule ∈ throughDenial said rules,
        (rule.check context).result answers = .ok (said rule)) →
      (evaluateRules rules context).result answers =
        .ok ⟨decisionOf said rules, ruleNames (throughDenial said rules)⟩ ∧
      ((decisionOf said rules).allowed = false ↔ ∃ rule ∈ rules, (said rule).denied = true)) ∧
    (∀ (α : Type) (context : RuleContext α) (first second : List (Rule α)),
      evaluateRules (first ++ second) context = evaluateRules first context >>= fun e =>
        if e.decision.allowed then
          evaluateRules second context >>= fun e' => pure (e'.behind e.ran e.decision.warnings)
        else pure e) :=
  ⟨fun _ _ _ _ _ _ _ => run_evaluateRules_eq_iff,
    fun _ _ _ rules said h => ⟨result_evaluateRules h, decisionOf_denied_iff said rules⟩,
    fun _ _ => evaluateRules_append⟩

/-- Two reminders without a text, a gate that is closed, and a rule that fails. -/
def gateRules : List (Rule Unit) :=
  [⟨"reminder", fun _ => pure (.warn "")⟩, ⟨"reminder", fun _ => pure (.warn "")⟩,
    ⟨"gate", fun _ => pure (.deny .forbidden "closed")⟩, ⟨"broken", fun _ => .fail .noMembers⟩]

/-- What the rules up to the gate say. -/
def gateSays (rule : Rule Unit) : RuleResult :=
  if rule.name = "reminder" then .warn "" else .deny .forbidden "closed"

theorem gateRules_end_at_gate :
    (evaluateRules gateRules ⟨.create, none, none, {}⟩).result ({} : Directory).answers =
      .ok ⟨.deny .forbidden "closed" ["", ""], ["reminder", "reminder", "gate"]⟩ := by
  obtain ⟨-, hresults, -⟩ := evaluation_ends_at_first_denial_or_failure
  refine (hresults Unit _ _ gateRules gateSays fun rule hrule => ?_).1
  have hrules : throughDenial gateSays gateRules = gateRules.take 3 := rfl
  rw [hrules] at hrule
  simp only [gateRules, List.take_succ_cons, List.take_zero, List.mem_cons, List.not_mem_nil,
    or_false] at hrule
  rcases hrule with rfl | rfl | rfl <;> rfl

end AdmissionControl
