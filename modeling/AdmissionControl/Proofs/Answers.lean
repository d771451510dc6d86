/-
  AdmissionControl.Proofs.Answers

  Consultations under fixed answers.

  `Answers` gives every question one reply or failure, whenever it is asked.  Under fixed answers
  a consultation has a result and a list of questions that it asks (`Consultation.result`,
  `Consultation.asked`), and both are read off along `>>=` (`result_bind`, `asked_bind`).  A run
  over a handler that gives these answers ends with that result (`result_run`).  A directory is
  such a handler, and it records those of the questions that are access checks
  (`state_run_directory`).  So is every handler that is served by collaborators which do not fail
  (`Collaborators`).

  `AsksOnly` bounds the kinds of questions that a consultation may ask, whatever the replies.  One
  that asks nothing runs alike over every handler (`run_of_silent`).
-/

import AdmissionControl.Directory

namespace AdmissionControl

/-! ## Failures along a chain -/

@[simp] theorem Except.ok_bind (a : α) (f : α → Except ε β) : (Except.ok a >>= f) = f a := rfl

@[simp] theorem Except.error_bind (e : ε) (f : α → Except ε β) :
    (Except.error e >>= f) = Except.error e := rfl

theorem Except.bind_eq_ok {first : Except ε α} {next : α → Except ε β} {b : β} :
    (first >>= next) = .ok b ↔ ∃ a, first = .ok a ∧ next a = .ok b := by
  cases first <;> simp

theorem Except.bind_eq_error {first : Except ε α} {next : α → Except ε β} {e : ε} :
    (first >>= next) = .error e ↔ first = .error e ∨ ∃ a, first = .ok a ∧ next a = .error e := by
  cases first <;> simp

/-- What each step keeps, a chain of steps keeps. -/
theorem Except.foldlM_invariant {P : α → Prop} {step : α → β → Except ε α} {items : List β}
    (hstep : ∀ item ∈ items, ∀ {before after}, P before → step before item = .ok after → P after)
    {start last : α} (hstart : P start) (h : items.foldlM step start = .ok last) : P last := by
  induction items generalizing start with
  | nil =>
    cases h
    exact hstart
  | cons item rest ih =>
    rw [List.foldlM_cons] at h
    rw [List.forall_mem_cons] at hstep
    obtain ⟨next, hfirst, hrest⟩ := Except.bind_eq_ok.mp h
    exact ih hstep.2 (hstep.1 hstart hfirst) hrest

/-- One reply or failure for every question, whenever it is asked. -/
abbrev Answers := (query : Query) → Except Failure query.Reply

namespace Consultation

variable {α β : Type} (answers : Answers)

/-- What a consultation results in. -/
def result : Consultation α → Except Failure α
  | .done result => result
  | .log _ rest => rest.result
  | .ask query next =>
    match answers query with
    | .ok reply => (next reply).result
    | .error failure => .error failure

/-- The questions that a consultation asks, in order; the last of them may have failed. -/
def asked : Consultation α → List Query
  | .done _ => []
  | .log _ rest => rest.asked
  | .ask query next =>
    query :: match answers query with
      | .ok reply => (next reply).asked
      | .error _ => []

/-! ## Results -/

@[simp] theorem result_pure (a : α) : (pure a : Consultation α).result answers = .ok a := rfl

@[simp] theorem result_fail (failure : Failure) :
    (fail failure : Consultation α).result answers = .error failure := rfl

@[simp] theorem result_ofExcept_ok (wrap : ε → Failure) (a : α) :
    (ofExcept wrap (.ok a)).result answers = .ok a := rfl

@[simp] theorem result_ofExcept_error (wrap : ε → Failure) (e : ε) :
    (ofExcept wrap (.error e : Except ε α)).result answers = .error (wrap e) := rfl

@[simp] theorem result_record (level : LogLevel) (message : Text) :
    (record level message).result answers = .ok () := rfl

@[simp] theorem result_user? (name : Text) :
    (user? name).result answers = answers (.user name) := by
  simp only [user?, result]
  cases answers (.user name) <;> rfl

@[simp] theorem result_setting? (name : Text) :
    (setting? name).result answers = answers (.setting name) := by
  simp only [setting?, result]
  cases answers (.setting name) <;> rfl

@[simp] theorem result_granted (check : AccessCheck) :
    (granted check).result answers = answers (.access check) := by
  simp only [granted, result]
  cases answers (.access check) <;> rfl

/-- The result of two consultations is that of the first handed to the second. -/
@[simp] theorem result_bind (c : Consultation α) (f : α → Consultation β) :
    (c >>= f).result answers = c.result answers >>= fun a => (f a).result answers := by
  show (c.bind f).result answers = _
  induction c with
  | done result => cases result <;> rfl
  | log record rest ih => exact ih
  | ask query next ih =>
    simp only [Consultation.bind, result]
    cases answers query with
    | error failure => rfl
    | ok reply => exact ih reply

/-! ## Questions -/

@[simp] theorem asked_pure (a : α) : (pure a : Consultation α).asked answers = [] := rfl

@[simp] theorem asked_fail (failure : Failure) :
    (fail failure : Consultation α).asked answers = [] := rfl

@[simp] theorem asked_ofExcept (wrap : ε → Failure) (r : Except ε α) :
    (ofExcept wrap r).asked answers = [] := by
  cases r <;> rfl

@[simp] theorem asked_record (level : LogLevel) (message : Text) :
    (record level message).asked answers = [] := rfl

@[simp] theorem asked_user? (name : Text) : (user? name).asked answers = [.user name] := by
  simp only [user?, asked]
  cases answers (.user name) <;> rfl

@[simp] theorem asked_setting? (name : Text) :
    (setting? name).asked answers = [.setting name] := by
  simp only [setting?, asked]
  cases answers (.setting name) <;> rfl

@[simp] theorem asked_granted (check : AccessCheck) :
    (granted check).asked answers = [.access check] := by
  simp only [granted, asked]
  cases answers (.access check) <;> rfl

/-- The questions of a second consultation come behind those of the first, if the first has a
result. -/
@[simp] theorem asked_bind (c : Consultation α) (f : α → Consultation β) :
    (c >>= f).asked answers = c.asked answers ++
      match c.result answers with
      | .ok a => (f a).asked answers
      | .error _ => [] := by
  show (c.bind f).asked answers = _
  induction c with
  | done result => cases result <;> rfl
  | log record rest ih => exact ih
  | ask query next ih =>
    -- A question that fails ends both sides.
    simp only [Consultation.bind, result, asked]
    cases answers query with
    | error failure => rfl
    | ok reply => rw [List.cons_append, ← ih reply]

/-! ## Kinds of questions -/

/-- Whatever the replies, every question of a consultation is of a kind. -/
inductive AsksOnly (kind : Query → Prop) : Consultation α → Prop where
  | done (result : Except Failure α) : AsksOnly kind (.done result)
  | log {record : LogRecord} {rest : Consultation α} : AsksOnly kind rest →
      AsksOnly kind (.log record rest)
  | ask {query : Query} {next : query.Reply → Consultation α} : kind query →
      (∀ reply, AsksOnly kind (next reply)) → AsksOnly kind (.ask query next)

variable {kind : Query → Prop}

theorem AsksOnly.bind {c : Consultation α} {f : α → Consultation β} (hc : AsksOnly kind c)
    (hf : ∀ a, AsksOnly kind (f a)) : AsksOnly kind (c >>= f) := by
  show AsksOnly kind (c.bind f)
  induction hc with
  | done result =>
    cases result with
    | ok a => exact hf a
    | error failure => exact .done _
  | log _ ih => exact .log ih
  | ask hquery _ ih => exact .ask hquery ih

theorem AsksOnly.pure (a : α) : AsksOnly kind (pure a : Consultation α) := .done _

theorem AsksOnly.fail (failure : Failure) : AsksOnly kind (fail failure : Consultation α) :=
  .done _

theorem AsksOnly.record (level : LogLevel) (message : Text) :
    AsksOnly kind (record level message) := .log (.done _)

theorem AsksOnly.ofExcept (wrap : ε → Failure) (r : Except ε α) :
    AsksOnly kind (ofExcept wrap r) := by
  cases r <;> exact .done _

/-- The questions that are asked under some answers are of the kind. -/
theorem AsksOnly.forall_mem_asked {c : Consultation α} (hc : AsksOnly kind c) :
    ∀ query ∈ c.asked answers, kind query := by
  induction hc with
  | done result => simp [asked]
  | log _ ih => exact ih
  | @ask query next hquery _ ih =>
    rw [asked, List.forall_mem_cons]
    refine ⟨hquery, ?_⟩
    cases answers query with
    | ok reply => exact ih reply
    | error failure => simp

/-- A consultation that asks nothing. -/
abbrev Silent (c : Consultation α) : Prop := c.AsksOnly fun _ => False

/-- What a handler does has no influence on a consultation that asks nothing. -/
theorem run_of_silent {c : Consultation α} (hc : Silent c) (handler : Handler σ) (state : σ) :
    (c.run handler state).result = c.result answers ∧ (c.run handler state).state = state := by
  induction hc with
  | done result => exact ⟨rfl, rfl⟩
  | log _ ih => exact ih
  | ask hquery => cases hquery

end Consultation

/-! ## Handlers with fixed answers -/

/-- A handler replies to every question by the answers, whatever its state. -/
def Handler.Gives (handler : Handler σ) (answers : Answers) : Prop :=
  ∀ query state, (handler query state).reply = answers query

/-- A run over a handler with fixed answers ends with the result under these answers. -/
theorem Consultation.result_run {handler : Handler σ} {answers : Answers}
    (hgives : handler.Gives answers) (c : Consultation α) (state : σ) :
    (c.run handler state).result = c.result answers := by
  induction c generalizing state with
  | done result => rfl
  | log record rest ih => exact ih state
  | ask query next ih =>
    simp only [run, result, hgives query state]
    cases answers query with
    | error failure => rfl
    | ok reply => exact ih reply _

/-- Users, settings and verdicts on accesses that are always at hand. -/
structure Collaborators where
  user? : Text → Option User
  setting? : Text → Option Setting
  granted : AccessCheck → Bool

/-- The answers of collaborators. -/
def Collaborators.answers (collaborators : Collaborators) : Answers
  | .user name => .ok (collaborators.user? name)
  | .setting name => .ok (collaborators.setting? name)
  | .access check => .ok (collaborators.granted check)

/-! ## Directories -/

namespace Directory

/-- The answers of a directory. -/
def answers (directory : Directory) : Answers
  | .user name =>
    if directory.outage.users then .error (.unavailable "users" name)
    else .ok (directory.users.lookup name)
  | .setting name =>
    if directory.outage.settings then .error (.unavailable "settings" name)
    else .ok (directory.settings.lookup name)
  | .access check =>
    if directory.outage.authorizer then .error (.unavailable "authorizer" check.verb)
    else .ok (directory.verdict check)

/-- The access check that a directory records for a question; a check that fails is not
recorded. -/
def recorded? (directory : Directory) : Query → Option AccessCheck
  | .access check => if directory.outage.authorizer then none else some check
  | _ => none

/-- The handler of a directory replies by its answers and keeps what is recorded. -/
theorem handler_eq (directory : Directory) (query : Query) (checks : List AccessCheck) :
    directory.handler query checks =
      ⟨[], directory.answers query, checks ++ (directory.recorded? query).toList⟩ := by
  cases query with
  | user name => by_cases h : directory.outage.users <;> simp [handler, answers, recorded?, h]
  | setting name =>
    by_cases h : directory.outage.settings <;> simp [handler, answers, recorded?, h]
  | access check =>
    by_cases h : directory.outage.authorizer <;> simp [handler, answers, recorded?, h]

theorem handler_gives (directory : Directory) : directory.handler.Gives directory.answers := by
  intro query checks
  rw [handler_eq]

/-- The collaborators behind a directory. -/
def collaborators (directory : Directory) : Collaborators where
  user? name := directory.users.lookup name
  setting? name := directory.settings.lookup name
  granted := directory.verdict

/-- A directory of which no part is out of order gives the answers of its collaborators. -/
theorem gives_collaborators {directory : Directory} (h : directory.outage = {}) :
    directory.handler.Gives directory.collaborators.answers := by
  intro query checks
  rw [directory.handler_gives query checks]
  cases query <;> simp only [answers, h] <;> rfl

/-- A directory that answers for a user looks it up. -/
theorem answers_user_eq_ok {directory : Directory} {name : Text} {found : Option User}
    (h : directory.answers (.user name) = .ok found) : directory.users.lookup name = found := by
  simp only [answers] at h
  split at h
  · cases h
  · exact Except.ok.inj h

/-- A directory that answers for a setting looks it up. -/
theorem answers_setting_eq_ok {directory : Directory} {name : Text} {found : Option Setting}
    (h : directory.answers (.setting name) = .ok found) :
    directory.settings.lookup name = found := by
  simp only [answers] at h
  split at h
  · cases h
  · exact Except.ok.inj h

/-- A directory that answers for an access gives its verdict. -/
theorem answers_access_eq_ok {directory : Directory} {check : AccessCheck} {granted : Bool}
    (h : directory.answers (.access check) = .ok granted) :
    directory.verdict check = granted ∧ directory.recorded? (.access check) = some check := by
  simp only [answers] at h
  split at h
  · cases h
  · next hworks => exact ⟨Except.ok.inj h, by simp only [recorded?, if_neg hworks]⟩

end Directory

namespace Consultation

/-- A run over a directory adds to the access checks those among its questions. -/
theorem state_run_directory (directory : Directory) (c : Consultation α)
    (checks : List AccessCheck) :
    (c.run directory.handler checks).state =
      checks ++ (c.asked directory.answers).filterMap directory.recorded? := by
  induction c generalizing checks with
  | done result => simp [run, asked]
  | log record rest ih => exact ih checks
  | ask query next ih =>
    simp only [run, asked, Directory.handler_eq]
    cases directory.answers query with
    | error failure => cases h : directory.recorded? query <;> simp [h]
    | ok reply =>
      -- What this question adds comes before what the rest of the run adds.
      show ((next reply).run directory.handler _).state = _
      rw [ih reply]
      cases h : directory.recorded? query <;> simp [h]

end Consultation

end AdmissionControl
