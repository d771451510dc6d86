/-
  Consultations: evaluations that ask questions on the way.

  A rule may ask for a user, for a setting, or whether an access is granted.  A consultation is
  the tree of its questions and of what it does with each possible reply, ending in a result or
  a failure, with log records along the branches.  That something does not exist is a reply; a
  collaborator that fails gives none, and no consultation can go on without.

  `Consultation.run` answers the questions by a handler with a state of its own, so that one
  evaluation runs alike over a directory in memory and over an API server.
-/

import AdmissionControl.Failure
import AdmissionControl.Log
import AdmissionControl.Model.Directory

namespace AdmissionControl

/-- A question to a collaborator. -/
inductive Query where
  | user (name : Text)
  | setting (name : Text)
  | access (check : AccessCheck)

/-- The replies to a question; a user or a setting may not exist. -/
abbrev Query.Reply : Query → Type
  | .user _ => Option User
  | .setting _ => Option Setting
  | .access _ => Bool

/-- An evaluation that may ask, log, and fail. -/
inductive Consultation (α : Type) : Type where
  | done (result : Except Failure α)
  | log (record : LogRecord) (rest : Consultation α)
  | ask (query : Query) (next : query.Reply → Consultation α)

namespace Consultation

/-- One consultation after another; a failure ends it. -/
def bind : Consultation α → (α → Consultation β) → Consultation β
  | .done (.ok a), f => f a
  | .done (.error failure), _ => .done (.error failure)
  | .log record rest, f => .log record (rest.bind f)
  | .ask query next, f => .ask query fun reply => (next reply).bind f

instance : Monad Consultation where
  pure a := .done (.ok a)
  bind := bind

def fail (failure : Failure) : Consultation α := .done (.error failure)

/-- A result that is there already, or its failure. -/
def ofExcept (wrap : ε → Failure) : Except ε α → Consultation α
  | .ok a => pure a
  | .error e => fail (wrap e)

def record (level : LogLevel) (message : Text) : Consultation Unit :=
  .log ⟨level, message⟩ (pure ())

/-- Asks for a user, who may not exist. -/
def user? (name : Text) : Consultation (Option User) := .ask (.user name) pure

def setting? (name : Text) : Consultation (Option Setting) := .ask (.setting name) pure

def granted (check : AccessCheck) : Consultation Bool := .ask (.access check) pure

/-- Asks for a user who must exist. -/
def user (name : Text) : Consultation User := do
  match ← user? name with
  | some user => pure user
  | none => fail (.notFound "user" name)

def setting (name : Text) : Consultation Setting := do
  match ← setting? name with
  | some setting => pure setting
  | none => fail (.notFound "setting" name)

theorem bind_assoc (c : Consultation α) (f : α → Consultation β) (g : β → Consultation γ) :
    (c.bind f).bind g = c.bind fun a => (f a).bind g := by
  induction c with
  | done result => cases result <;> rfl
  | log record rest ih => simp only [bind, ih]
  | ask query next ih => simp only [bind]; congr 1; funext reply; exact ih reply

theorem bind_pure (c : Consultation α) : c.bind pure = c := by
  induction c with
  | done result => cases result <;> rfl
  | log record rest ih => simp only [bind, ih]
  | ask query next ih => simp only [bind]; congr 1; funext reply; exact ih reply

instance : LawfulMonad Consultation := LawfulMonad.mk' Consultation bind_pure
  (fun _ _ => rfl) bind_assoc

end Consultation

/-! ## Running -/

/-- What a handler makes of a question: its log records, the reply or a failure, and its state
afterwards. -/
structure Handled (σ ρ : Type) where
  log : List LogRecord
  reply : Except Failure ρ
  state : σ

/-- A way to answer every question. -/
abbrev Handler (σ : Type) := (query : Query) → σ → Handled σ query.Reply

/-- How a run ended: the result or a failure, everything that was logged, and the state of the
handler. -/
structure Outcome (σ α : Type) where
  result : Except Failure α
  log : List LogRecord
  state : σ

def Outcome.after (log : List LogRecord) (outcome : Outcome σ α) : Outcome σ α :=
  { outcome with log := log ++ outcome.log }

/-- Answers the questions of a consultation by a handler, one after the other. -/
def Consultation.run (handler : Handler σ) : Consultation α → σ → Outcome σ α
  | .done result, state => ⟨result, [], state⟩
  | .log record rest, state => (rest.run handler state).after [record]
  | .ask query next, state =>
    let handled := handler query state
    match handled.reply with
    | .ok reply => ((next reply).run handler handled.state).after handled.log
    | .error failure => ⟨.error failure, handled.log, handled.state⟩

theorem Outcome.after_after (first second : List LogRecord) (outcome : Outcome σ α) :
    (outcome.after second).after first = outcome.after (first ++ second) := by
  simp [Outcome.after]

/-- A run of two consultations is a run of the first and, if it has a result, of the second from
where the first left the handler. -/
theorem Consultation.run_bind (handler : Handler σ) (c : Consultation α)
    (f : α → Consultation β) (state : σ) :
    (c.bind f).run handler state =
      match (c.run handler state).result with
      | .ok a => ((f a).run handler (c.run handler state).state).after (c.run handler state).log
      | .error failure =>
        ⟨.error failure, (c.run handler state).log, (c.run handler state).state⟩ := by
  induction c generalizing state with
  | done result => cases result <;> rfl
  | log record rest ih =>
    simp only [bind, run, ih, Outcome.after]
    split <;> simp
  | ask query next ih =>
    simp only [bind, run]
    split
    next reply _ =>
      simp only [ih, Outcome.after]
      split <;> simp [List.append_assoc]
    next => rfl

end AdmissionControl
