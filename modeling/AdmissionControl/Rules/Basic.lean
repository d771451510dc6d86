/-
  Rules and their evaluation.

  A rule looks at one request and allows it, denies it, or warns.  Rules are evaluated in order
  up to the first denial; the warnings of the rules before it stay on the decision.
-/

import AdmissionControl.Consultation
import AdmissionControl.Decision

namespace AdmissionControl

/-- What one rule says. -/
inductive RuleResult where
  | allow
  | deny (reason : Reason) (message : Text)
  | warn (message : Text)
  deriving DecidableEq

namespace RuleResult

def outcomeName : RuleResult → String
  | .allow => "allow"
  | .deny .. => "deny"
  | .warn _ => "warn"

def reason : RuleResult → Reason
  | .deny reason _ => reason
  | _ => .unspecified

def message : RuleResult → Text
  | .allow => ""
  | .deny _ message => message
  | .warn message => message

def denied : RuleResult → Bool
  | .deny .. => true
  | _ => false

end RuleResult

/-- What a rule looks at: the operation, the object before and after it, and who asks. -/
structure RuleContext (α : Type) where
  operation : Operation
  old : Option α
  new : Option α
  user : UserInfo

namespace RuleContext

/-- The object before the operation, which must be there. -/
def requireOld (context : RuleContext α) : Consultation α :=
  match context.old with
  | some object => pure object
  | none => .fail .noMembers

/-- The object after the operation, which must be there. -/
def requireNew (context : RuleContext α) : Consultation α :=
  match context.new with
  | some object => pure object
  | none => .fail .noMembers

end RuleContext

structure Rule (α : Type) where
  name : String
  check : RuleContext α → Consultation RuleResult

/-- The decision of some rules, and the names of those that were run. -/
structure Evaluation where
  decision : Decision
  ran : List String
  deriving DecidableEq

/-- An evaluation with one more rule run before. -/
def Evaluation.afterRule (name : String) (evaluation : Evaluation) : Evaluation :=
  { evaluation with ran := name :: evaluation.ran }

/-- Evaluates rules in order, with the warnings of earlier rules. -/
def evaluateRulesFrom (context : RuleContext α) (warnings : List Text) :
    List (Rule α) → Consultation Evaluation
  | [] => pure ⟨.allow warnings, []⟩
  | rule :: rest => do
    match ← rule.check context with
    | .deny reason message =>
      Consultation.record .info
        ("Rule " ++ rule.name ++ " denied " ++ context.operation.name ++ ": " ++ message)
      return ⟨.deny reason message warnings, [rule.name]⟩
    | .warn message =>
      Consultation.record .debug ("Rule " ++ rule.name ++ " warned: " ++ message)
      let evaluation ← evaluateRulesFrom context (warnings ++ [message]) rest
      return evaluation.afterRule rule.name
    | .allow =>
      let evaluation ← evaluateRulesFrom context warnings rest
      return evaluation.afterRule rule.name

/-- Evaluates rules in order up to the first denial. -/
def evaluateRules (rules : List (Rule α)) (context : RuleContext α) : Consultation Evaluation :=
  evaluateRulesFrom context [] rules

end AdmissionControl
