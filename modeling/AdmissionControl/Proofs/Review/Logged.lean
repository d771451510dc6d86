/-
  AdmissionControl.Proofs.Review.Logged

  What a review logs, and what its records tell.

  Where the collaborators log nothing, the course of an evaluation can be read off its records: none
  of a failure, one of the rule that denies, and at most one of the last rule otherwise
  (`Course.tells`).  The record of the decision comes behind them (`traced_review`).

  The client of an API server logs an error only with a failure, and a failure ends the review.
-/

import AdmissionControl.Proofs.ApiServer.Refinement
import AdmissionControl.Proofs.Review.Envelope
import AdmissionControl.Proofs.Review.Records

namespace AdmissionControl

open Consultation (Logs Unlogged)

/-! ## What an evaluation logs -/

section

variable {α : Type} {answers : Answers} {context : RuleContext α} {handler : Handler σ}

/-- A rule logs nothing, and does not warn. -/
structure Rule.Discreet (context : RuleContext α) (rule : Rule α) : Prop where
  unlogged : (rule.check context).Unlogged
  branches : ∃ queries, (rule.check context).Branches (RuleResult.Regular False) queries

/-- What the records of an evaluation tell: nothing of rules that all allow, a note of the last of
them with which it allows, its warning, or the first denial. -/
inductive Tells (answers : Answers) (context : RuleContext α) (rules : List (Rule α))
    (note : LogRecord → Prop) : Decision → List LogRecord → Prop where
  | allowed : (∀ rule ∈ rules, (rule.check context).Passes answers) →
      Tells answers context rules note (.allow []) []
  | noted {record : LogRecord} : (∀ rule ∈ rules, (rule.check context).Passes answers) →
      note record → Tells answers context rules note (.allow []) [record]
  | warned {rule : Rule α} {message : Text} :
      (∀ rule ∈ rules, (rule.check context).Passes answers) → rule ∈ rules →
      (rule.check context).result answers = .ok (.warn message) →
      Tells answers context rules note (.allow [message]) [rule.warningRecord message]
  | denied {before after : List (Rule α)} {rule : Rule α} {reason : Reason} {message : Text} :
      rules = before ++ rule :: after →
      (∀ earlier ∈ before, (earlier.check context).Passes answers) →
      (rule.check context).result answers = .ok (.deny reason message) →
      Tells answers context rules note (.deny reason message [])
        [rule.denialRecord context.operation message]

/-- The rules before the last are discreet, and the last logs a note at most, and allows with it. -/
structure Reticent (handler : Handler σ) (context : RuleContext α) (note : LogRecord → Prop)
    (front : List (Rule α)) (last : Rule α) : Prop where
  front : ∀ rule ∈ front, rule.Discreet context
  last : ∀ state, let outcome := (last.check context).run handler state
    outcome.log = [] ∨ ∃ record, note record ∧ outcome.log = [record] ∧ outcome.result = .ok .allow

variable {state next : σ} {warnings : List Text} {log : List LogRecord} {before : List (Rule α)}

/-- Discreet rules that pass leave no record and no warning. -/
theorem Passed.of_discreet (hquiet : handler.Quiet)
    (h : Passed handler context before state warnings log next)
    (hdiscreet : ∀ rule ∈ before, rule.Discreet context) : warnings = [] ∧ log = [] := by
  induction h with
  | nil state => exact ⟨rfl, rfl⟩
  | @cons rule rest r state next last log more warnings hrun hpasses _ ih =>
    obtain ⟨hrule, hrest⟩ := List.forall_mem_cons.mp hdiscreet
    obtain ⟨rfl, rfl⟩ := ih hrest
    -- A discreet rule leaves no record, and it warns of nothing.
    have hlog := hrule.unlogged.log_run hquiet state
    obtain ⟨queries, hbranches⟩ := hrule.branches
    have hregular : r.Regular False := hbranches.of_run (congrArg Outcome.result hrun)
    rw [hrun] at hlog
    obtain rfl : log = [] := hlog
    cases hregular with
    | allow => exact ⟨rfl, rfl⟩
    | deny _ _ => cases hpasses
    | warn _ hno => exact hno.elim

/-- Where a list ends with one element, a split of it is before this element or at it. -/
theorem split_cases_of_concat {β : Type} {front before after : List β} {last x : β}
    (h : front ++ [last] = before ++ x :: after) :
    (before = front ∧ x = last) ∨ ∃ middle, front = before ++ x :: middle := by
  rcases List.eq_nil_or_concat' after with rfl | ⟨middle, y, rfl⟩
  · obtain ⟨hfront, hlast⟩ := List.append_inj' h rfl
    exact .inl ⟨hfront.symm, (List.cons.inj hlast).1.symm⟩
  · rw [← List.cons_append, ← List.append_assoc] at h
    exact .inr ⟨middle, (List.append_inj' h rfl).1⟩

/-- Over a quiet handler the records of reticent rules tell the decision, and there are none of a
failure. -/
theorem Course.tells {note : LogRecord → Prop} {front : List (Rule α)} {last : Rule α}
    {outcome : Outcome σ Evaluation} (hgives : handler.Gives answers) (hquiet : handler.Quiet)
    (hreticent : Reticent handler context note front last)
    (h : Course handler context (front ++ [last]) state outcome) :
    (∀ failure, outcome.result = .error failure → outcome.log = []) ∧
      ∀ e, outcome.result = .ok e →
        Tells answers context (front ++ [last]) note e.decision outcome.log := by
  -- What stands before a rule that ends the evaluation is discreet, and so is the rule, unless it
  -- is the last one, which allows if it logs.
  have hends : ∀ {before after : List (Rule α)} {rule : Rule α} {state between final : σ}
      {warnings : List Text} {log more : List LogRecord} {result : Except Failure RuleResult},
      front ++ [last] = before ++ rule :: after →
      Passed handler context before state warnings log between →
      (rule.check context).run handler between = ⟨result, more, final⟩ →
      result ≠ .ok .allow → warnings = [] ∧ log = [] ∧ more = [] := by
    intro before after rule state between final warnings log more result hsplit hpassed hrun hnot
    rcases split_cases_of_concat hsplit with ⟨rfl, rfl⟩ | ⟨middle, hfront⟩
    · obtain ⟨hwarnings, hlog⟩ := hpassed.of_discreet hquiet hreticent.front
      have hlast := hreticent.last between
      rw [hrun] at hlast
      rcases hlast with hmore | ⟨-, -, -, hallow⟩
      · exact ⟨hwarnings, hlog, hmore⟩
      · exact absurd hallow hnot
    · have hall := hreticent.front
      rw [hfront, List.forall_mem_append, List.forall_mem_cons] at hall
      obtain ⟨hwarnings, hlog⟩ := hpassed.of_discreet hquiet hall.1
      have hmore := hall.2.1.unlogged.log_run hquiet between
      rw [hrun] at hmore
      exact ⟨hwarnings, hlog, hmore⟩
  generalize hrules : front ++ [last] = rules at h
  cases h with
  | failed after hpassed hrun =>
    -- A failure: nothing was logged before, nor by the rule that failed.
    obtain ⟨-, rfl, rfl⟩ := hends hrules hpassed hrun (by rintro ⟨⟩)
    exact ⟨fun _ _ => rfl, by rintro _ ⟨⟩⟩
  | denied after hpassed hrun =>
    -- A denial: its own record is all there is.
    obtain ⟨rfl, rfl, rfl⟩ := hends hrules hpassed hrun (by rintro ⟨⟩)
    refine ⟨by rintro _ ⟨⟩, fun e he => ?_⟩
    cases he
    refine .denied rfl (hpassed.passes hgives) ?_
    rw [← Consultation.result_run hgives, hrun]
  | passed hpassed =>
    refine ⟨by rintro _ ⟨⟩, fun e he => ?_⟩
    cases he
    -- All rules pass, so only the last one may have left a warning or a record.
    have hpasses := hpassed.passes hgives
    rw [← hrules] at hpassed hpasses ⊢
    obtain ⟨between, _, _, _, _, hfront, hlast, rfl, rfl⟩ := hpassed.append_inv
    obtain ⟨rfl, rfl⟩ := hfront.of_discreet hquiet hreticent.front
    cases hlast with
    | @cons _ _ r _ _ _ log _ _ hrun hdenied hnil =>
      cases hnil
      have hresult := Consultation.result_run hgives (last.check context) between
      have hlog := hreticent.last between
      rw [hrun] at hlog hresult
      cases r with
      | deny reason message => cases hdenied
      | allow =>
        rcases hlog with rfl | ⟨record, hnote, rfl, -⟩
        · exact .allowed hpasses
        · exact .noted hpasses hnote
      | warn message =>
        rcases hlog with rfl | ⟨-, -, -, hallow⟩
        · exact .warned hpasses (List.mem_append_right _ List.mem_cons_self) hresult.symm
        · cases hallow

end

/-! ## What a review logs -/

/-- What the records before that of a decision tell, on a request that falls under a kind. -/
inductive AdmissionRequest.Traced (answers : Answers) (request : AdmissionRequest) :
    ResourceKind → Decision → List LogRecord → Prop where
  | unruled (kind : ResourceKind) : request.operation = .connect →
      Traced answers request kind (.allow []) []
  | cluster {old new : Option Cluster} {decision : Decision} {log : List LogRecord} :
      Carried "Cluster" Cluster.decode request old new →
      Tells answers ⟨request.operation, old, new, request.userInfo⟩ ClusterRules.all
        (fun record => record = ClusterRules.settingMissing ∧
          answers (.setting ClusterRules.versionManagementSetting) = .ok none) decision log →
      Traced answers request .cluster decision log
  | project {old new : Option Project} {decision : Decision} {log : List LogRecord} :
      Carried "Project" Project.decode request old new →
      Tells answers ⟨request.operation, old, new, request.userInfo⟩ ProjectRules.all
        (fun _ => False) decision log →
      Traced answers request .project decision log

section

variable {answers : Answers} {handler : Handler σ} {state : σ} {request : AdmissionRequest}

/-- The rules of a list but the last do not warn. -/
theorem RulesBranch.front {α : Type} {context : RuleContext α} {warns : Prop}
    {front : List (Rule α)} {last : Rule α} {queries : List Query}
    (h : RulesBranch context warns (front ++ [last]) queries) :
    ∀ rule ∈ front, ∃ queries,
      (rule.check context).Branches (RuleResult.Regular False) queries := by
  induction front generalizing queries with
  | nil => exact fun rule hrule => absurd hrule List.not_mem_nil
  | cons first rest ih =>
    -- Whether the first rule asks or not, it is taken off, and the rest branches on its own.
    generalize hrules : first :: rest ++ [last] = rules at h
    cases h with
    | nil => cases hrules
    | last _ => simp at hrules
    | silent hfirst hrest =>
      obtain ⟨rfl, rfl⟩ := List.cons.inj hrules
      exact List.forall_mem_cons.mpr ⟨⟨_, hfirst⟩, ih hrest⟩
    | asking hfirst hrest =>
      obtain ⟨rfl, rfl⟩ := List.cons.inj hrules
      exact List.forall_mem_cons.mpr ⟨⟨_, hfirst⟩, ih hrest⟩

theorem ClusterRules.reticent {old new : Option Cluster} (hgives : handler.Gives answers)
    (hquiet : handler.Quiet) (hcarried : Carried "Cluster" Cluster.decode request old new) :
    Reticent handler ⟨request.operation, old, new, request.userInfo⟩
      (fun record => record = settingMissing ∧
        answers (.setting versionManagementSetting) = .ok none)
      front ⟨"version-management", versionManagementRule⟩ where
  front rule hrule := {
    unlogged := unlogged_front _ rule hrule
    branches := (rulesBranch_all hcarried).front rule hrule }
  last state := by
    refine (log_versionManagementRule _ hquiet state).imp_right ?_
    rintro ⟨hlog, hallow, hreply⟩
    rw [hgives] at hreply
    exact ⟨settingMissing, ⟨rfl, hreply⟩, hlog, hallow⟩

theorem ProjectRules.reticent (hquiet : handler.Quiet) (context : RuleContext Project) :
    Reticent handler context (fun _ => False) (all.take 4)
      ⟨"used-quota-fits", usedQuotaFits⟩ where
  front rule hrule := by
    have hrules : RulesBranch context False
        (all.take 4 ++ [⟨"used-quota-fits", usedQuotaFits⟩]) [] := rulesBranch_all context
    exact ⟨unlogged_check context rule (List.mem_of_mem_take hrule), hrules.front rule hrule⟩
  last state := .inl ((unlogged_usedQuotaFits context).log_run hquiet state)

theorem tells_decideBy {α : Type} (name : String) (decoder : Decoder α)
    {note : LogRecord → Prop} {front : List (Rule α)} {last : Rule α}
    (hgives : handler.Gives answers) (hquiet : handler.Quiet)
    (hreticent : ∀ old new, Carried name decoder request old new →
      Reticent handler ⟨request.operation, old, new, request.userInfo⟩ note front last)
    (state : σ) :
    let outcome := (decideBy name decoder (front ++ [last]) request).run handler state
    (∀ failure, outcome.result = .error failure → outcome.log = []) ∧
      ∀ decision, outcome.result = .ok decision →
        (request.operation = .connect ∧ decision = .allow [] ∧ outcome.log = []) ∨
        ∃ old new, Carried name decoder request old new ∧
          Tells answers ⟨request.operation, old, new, request.userInfo⟩ (front ++ [last]) note
            decision outcome.log := by
  by_cases hrules : hasRules request.operation = true
  · -- A context that cannot be had ends the decision before anything is logged.
    cases hcontext : ruleContext name decoder request with
    | error failure =>
      rw [decideBy, if_pos hrules, hcontext]
      exact ⟨fun _ _ => rfl, by rintro _ ⟨⟩⟩
    | ok context =>
      have hcarried := carried_of_ruleContext hrules hcontext
      -- The rules take one of the courses, and the log is that of the course.
      obtain ⟨⟨result, log, next⟩, hcourse⟩ := exists_course handler
        ⟨request.operation, context.old, context.new, request.userInfo⟩ (front ++ [last]) state
      have hrun := hcourse.run_eq
      obtain ⟨hfailed, htold⟩ := hcourse.tells hgives hquiet (hreticent _ _ hcarried)
      rw [decideBy_of_carried _ hcarried, decisionOn]
      cases result with
      | error failure =>
        rw [Consultation.run_bind_of_error _ hrun]
        exact ⟨fun _ _ => hfailed failure rfl, by rintro _ ⟨⟩⟩
      | ok evaluation =>
        rw [Consultation.run_bind_of_ok _ hrun]
        refine ⟨by rintro _ ⟨⟩, fun decision hdecision => .inr ⟨_, _, hcarried, ?_⟩⟩
        cases hdecision
        show Tells _ _ _ _ evaluation.decision (log ++ [])
        rw [List.append_nil]
        exact htold evaluation rfl
  · have hconnect : request.operation = .connect := by
      cases hop : request.operation <;> rw [hop] at hrules <;> first | rfl | exact absurd rfl hrules
    rw [decideBy, if_neg hrules]
    refine ⟨by rintro _ ⟨⟩, fun decision hdecision => .inl ⟨hconnect, ?_, rfl⟩⟩
    cases hdecision
    rfl

/-- The records before that of a decision tell it, and a decision that fails has none. -/
theorem traced_decideRequest (hgives : handler.Gives answers) (hquiet : handler.Quiet)
    (kind : ResourceKind) (request : AdmissionRequest) (state : σ) :
    let outcome := (decideRequest kind request).run handler state
    (∀ failure, outcome.result = .error failure → outcome.log = []) ∧
      ∀ decision, outcome.result = .ok decision →
        request.Traced answers kind decision outcome.log := by
  -- The two kinds differ in their last rule: that of clusters may leave a record of its own.
  cases kind with
  | cluster =>
    obtain ⟨hfailed, htold⟩ := tells_decideBy "Cluster" Cluster.decode hgives hquiet
      (fun old new hcarried => ClusterRules.reticent hgives hquiet hcarried) state
    refine ⟨hfailed, fun decision hdecision => ?_⟩
    show request.Traced answers .cluster decision
      ((decideBy "Cluster" Cluster.decode _ request).run handler state).log
    rcases htold decision hdecision with ⟨hconnect, rfl, hlog⟩ | ⟨old, new, hcarried, htells⟩
    · exact hlog ▸ .unruled _ hconnect
    · exact .cluster hcarried htells
  | project =>
    obtain ⟨hfailed, htold⟩ := tells_decideBy "Project" Project.decode hgives hquiet
      (fun old new _ => ProjectRules.reticent hquiet
        ⟨request.operation, old, new, request.userInfo⟩) state
    refine ⟨hfailed, fun decision hdecision => ?_⟩
    rcases htold decision hdecision with ⟨hconnect, rfl, hlog⟩ | ⟨old, new, hcarried, htells⟩
    · exact hlog ▸ .unruled _ hconnect
    · exact .project hcarried htells

/-- The records of a review are those that tell its decision, and the record of the decision. -/
theorem traced_review (hgives : handler.Gives answers) (hquiet : handler.Quiet)
    (admissionReview : Json) (resource : Text) (state : σ) :
    let outcome := (review admissionReview resource).run handler state
    (∀ failure, outcome.result = .error failure → outcome.log = []) ∧
      ∀ response, outcome.result = .ok response → ∃ request kind decision front,
        requestOf admissionReview = .ok request ∧ dispatch request resource = .ok kind ∧
        response = decision.respond request.uid ∧ request.Traced answers kind decision front ∧
        outcome.log = front ++ [decisionRecord kind request decision] := by
  cases hrequest : requestOf admissionReview with
  | error failure =>
    rw [review, hrequest]
    exact ⟨fun _ _ => rfl, by rintro _ ⟨⟩⟩
  | ok request =>
    cases hdispatch : dispatch request resource with
    | error failure =>
      rw [review_of_request hrequest, evaluateRequest, hdispatch]
      exact ⟨fun _ _ => rfl, by rintro _ ⟨⟩⟩
    | ok kind =>
      obtain ⟨hfailed, htraced⟩ := traced_decideRequest hgives hquiet kind request state
      rw [review_of_dispatch hrequest hdispatch]
      cases hrun : (decideRequest kind request).run handler state with
      | mk result log next =>
        rw [hrun] at hfailed htraced
        cases result with
        | error failure =>
          rw [Consultation.run_bind_of_error _ hrun]
          exact ⟨fun _ _ => hfailed failure rfl, by rintro _ ⟨⟩⟩
        | ok decision =>
          rw [Consultation.run_bind_of_ok _ hrun]
          -- The record of the decision comes last, behind what the rules left.
          refine ⟨by rintro _ ⟨⟩, fun response hresponse => ?_⟩
          cases hresponse
          exact ⟨request, kind, decision, log, rfl, hdispatch, rfl, htraced decision rfl, rfl⟩

end

/-- A record ends with a message. -/
def LogRecord.Carries (record : LogRecord) (message : Text) : Prop :=
  ∃ front, record.message = front ++ message

section

variable {answers : Answers} {request : AdmissionRequest} {kind : ResourceKind}
  {decision : Decision} {log : List LogRecord}

theorem Tells.of_denied {α : Type} {context : RuleContext α} {rules : List (Rule α)}
    {note : LogRecord → Prop} (h : Tells answers context rules note decision log)
    (hdenied : decision.allowed = false) :
    ∃ record, log = [record] ∧ record.level = .info ∧ record.Carries decision.message := by
  cases h with
  | denied _ _ _ => exact ⟨_, rfl, rfl, _, rfl⟩
  | allowed _ => cases hdenied
  | noted _ _ => cases hdenied
  | warned _ _ _ => cases hdenied

theorem Tells.of_allowed {α : Type} {context : RuleContext α} {rules : List (Rule α)}
    {note : LogRecord → Prop} (h : Tells answers context rules note decision log)
    (hnote : ∀ record, note record → record.level = .debug)
    (hallowed : decision.allowed = true) :
    log.length ≤ 1 ∧ ∀ record ∈ log, record.level = .debug := by
  cases h with
  | denied _ _ _ => cases hallowed
  | allowed _ => simp
  | noted _ hrecord => simpa using hnote _ hrecord
  | warned _ _ _ => simp [Rule.warningRecord]

theorem AdmissionRequest.Traced.of_denied (h : request.Traced answers kind decision log)
    (hdenied : decision.allowed = false) :
    ∃ record, log = [record] ∧ record.level = .info ∧ record.Carries decision.message := by
  cases h with
  | unruled _ _ => cases hdenied
  | cluster _ htells => exact htells.of_denied hdenied
  | project _ htells => exact htells.of_denied hdenied

theorem AdmissionRequest.Traced.of_allowed (h : request.Traced answers kind decision log)
    (hallowed : decision.allowed = true) :
    log.length ≤ 1 ∧ ∀ record ∈ log, record.level = .debug := by
  cases h with
  | unruled _ _ => simp
  | cluster _ htells =>
    refine htells.of_allowed ?_ hallowed
    rintro record ⟨rfl, -⟩
    rfl
  | project _ htells => exact htells.of_allowed nofun hallowed

end

namespace ApiServer

/-- Records of a reply come with a failure. -/
theorem resolve_quiet_or_fails (depth : Nat) (subject : Subject) (reply : Reply) :
    (resolve depth subject reply).1 = [] ∨
      ∃ failure, (resolve depth subject reply).2 = .error failure := by
  cases reply with
  | fault fault reason => exact .inr ⟨_, rfl⟩
  | response status body =>
    simp only [resolve]
    split
    · exact .inl rfl
    · split
      · exact .inr ⟨_, rfl⟩
      · exact .inl rfl

theorem resolveFrom_quiet_or_fails (depth : Nat) (url : Url) (subject : Subject) (reply : Reply) :
    (resolveFrom depth url subject reply).1 = [] ∨
      ∃ failure, (resolveFrom depth url subject reply).2 = .error failure := by
  cases reply with
  | fault fault reason => exact resolve_quiet_or_fails depth subject _
  | response status body =>
    simp only [resolveFrom]
    split
    · exact .inl rfl
    · split
      · exact resolve_quiet_or_fails depth subject _
      · exact .inl rfl

theorem Client.request_quiet_or_fails (client : Client) (subject : Subject) (body : Option Json)
    (exchange : Exchange) :
    (client.request subject body exchange).log = [] ∨
      ∃ failure, (client.request subject body exchange).reply = .error failure := by
  unfold Client.request
  dsimp only
  split
  · exact .inl rfl
  · exact resolveFrom_quiet_or_fails _ _ subject _

theorem readFound_quiet_or_fails {α : Type} (read : Json → Except Failure α)
    {handled : Handled Exchange (Option Json)}
    (h : handled.log = [] ∨ ∃ failure, handled.reply = .error failure) :
    (readFound read handled).log = [] ∨
      ∃ failure, (readFound read handled).reply = .error failure := by
  refine h.imp_right ?_
  rintro ⟨failure, hreply⟩
  exact ⟨failure, by rw [readFound, hreply]; rfl⟩

/-- A client logs an error only with a failure. -/
theorem Client.belowError_handler {client : Client} {query : Query} {exchange : Exchange}
    {reply : query.Reply} (h : (client.handler query exchange).reply = .ok reply) :
    ∀ record ∈ (client.handler query exchange).log, record.BelowError := by
  -- Where nothing is logged or the reply is a failure there is nothing to show.
  have hquiet : ∀ {ρ : Type} {handled : Handled Exchange ρ} {found : ρ},
      (handled.log = [] ∨ ∃ failure, handled.reply = .error failure) →
      handled.reply = .ok found → ∀ record ∈ handled.log, record.BelowError := by
    rintro ρ handled found (hlog | ⟨failure, hreply⟩) hfound record hrecord
    · rw [hlog] at hrecord
      cases hrecord
    · rw [hreply] at hfound
      cases hfound
  cases query with
  | user name =>
    exact hquiet (readFound_quiet_or_fails _ (client.request_quiet_or_fails _ _ _)) h
  | setting name =>
    exact hquiet (readFound_quiet_or_fails _ (client.request_quiet_or_fails _ _ _)) h
  | access check =>
    have hrequest := client.request_quiet_or_fails (accessSubject check)
      (some (accessReview check)) exchange
    simp only [Client.handler, readVerdict] at h ⊢
    cases hreply : (client.request (accessSubject check) (some (accessReview check))
        exchange).reply with
    | error failure =>
      rw [hreply] at h
      cases h
    | ok found =>
      have hlog := hquiet hrequest hreply
      rw [hreply] at h
      cases found with
      | none => cases h
      | some j =>
        simp only at h ⊢
        cases hstatus : accessStatusOf j with
        | error failure =>
          rw [hstatus] at h
          cases h
        | ok status =>
          simp only
          split
          · exact hlog
          · -- A denied access is noted below the level of errors.
            rw [List.forall_mem_append]
            exact ⟨hlog, List.forall_mem_singleton.mpr (by rintro ⟨⟩)⟩

end ApiServer

/-- Over a directory, a review that fails has logged nothing.  One that ends has logged the records
that tell its decision and then that of the decision: two for a denial, at the level of information
and with its message, of the rule that denies and of the review; and for an allowance records for
debugging, at most one before the last.  Over an API server no review that ends has logged an
error. -/
theorem log_tells_outcome :
    (∀ (directory : Directory) (admissionReview : Json) (resource : Text)
      (checks : List AccessCheck),
      let outcome := (review admissionReview resource).run directory.handler checks
      (∀ failure, outcome.result = .error failure → outcome.log = []) ∧
      ∀ response, outcome.result = .ok response →
        (∃ request kind decision front,
          requestOf admissionReview = .ok request ∧ dispatch request resource = .ok kind ∧
          response = decision.respond request.uid ∧
          request.Traced directory.answers kind decision front ∧
          outcome.log = front ++ [decisionRecord kind request decision]) ∧
        (response.allowed = false → ∃ first last message,
          outcome.log = [first, last] ∧
          (∃ code reason, response.status = some ⟨code, reason, message⟩) ∧
          first.level = .info ∧ last.level = .info ∧ first.Carries message ∧ last.Carries message) ∧
        (response.allowed = true → ∃ front last,
          outcome.log = front ++ [last] ∧ front.length ≤ 1 ∧
          ∀ record ∈ outcome.log, record.level = .debug)) ∧
    (∀ (client : ApiServer.Client) (exchange : ApiServer.Exchange) (admissionReview : Json)
      (resource : Text) (response : ReviewResponse),
      ((review admissionReview resource).run client.handler exchange).result = .ok response →
      ∀ record ∈ ((review admissionReview resource).run client.handler exchange).log,
        record.level ≠ .error) := by
  constructor
  · intro directory admissionReview resource checks outcome
    obtain ⟨hfailed, htraced⟩ := traced_review directory.handler_gives directory.handler_quiet
      admissionReview resource checks
    refine ⟨hfailed, fun response hresponse => ⟨htraced response hresponse, ?_, ?_⟩⟩
    · intro hdenied
      obtain ⟨request, kind, decision, front, -, -, rfl, htrace, hlog⟩ :=
        htraced response hresponse
      -- A denial leaves one record in front of that of the decision.
      obtain ⟨record, rfl, hlevel, hcarries⟩ := htrace.of_denied hdenied
      have hdecision : decision.allowed = false := hdenied
      refine ⟨record, decisionRecord kind request decision, decision.message, hlog, ?_, hlevel,
        ?_, hcarries, ?_⟩
      · exact ⟨decision.reason.code, decision.reason, by simp [Decision.respond, hdecision]⟩
      · simp [decisionRecord, hdecision]
      · simp only [decisionRecord, hdecision, Bool.false_eq_true, if_false]
        exact ⟨_, rfl⟩
    · intro hallowed
      obtain ⟨request, kind, decision, front, -, -, rfl, htrace, hlog⟩ :=
        htraced response hresponse
      obtain ⟨hlength, hlevels⟩ := htrace.of_allowed hallowed
      have hdecision : decision.allowed = true := hallowed
      refine ⟨front, decisionRecord kind request decision, hlog, hlength, ?_⟩
      show ∀ record ∈ outcome.log, record.level = .debug
      -- The rules leave at most one record, and all are below the level of a denial.
      rw [show outcome.log = _ from hlog, List.forall_mem_append, List.forall_mem_singleton]
      exact ⟨hlevels, by simp [decisionRecord, hdecision]⟩
  · intro client exchange admissionReview resource response hrun
    -- No rule logs an error, and no question that was answered does.
    exact (logs_review admissionReview resource).of_run
      (fun query exchange reply hreply => ApiServer.Client.belowError_handler hreply) hrun

/-- A managed cluster whose annotation has no such value is denied, with two records; an imported
one is allowed, with a warning; a review without a request leaves no record; and a client that finds
no setting logs no error. -/
theorem annotated_reviews_logged :
    let run := fun admissionReview : Json =>
      (review admissionReview "").run ClusterRules.guardedDirectory.handler []
    (∃ first last message, (run (annotatedReview "rke2" "maybe")).log = [first, last] ∧
      first.level = .info ∧ last.level = .info ∧ first.Carries message ∧ last.Carries message) ∧
    (∀ record ∈ (run (annotatedReview "imported" "true")).log, record.level = .debug) ∧
    (run .null).log = [] ∧
    ∀ record ∈ ((review (annotatedReview "imported" "true") "").run
      testClient.handler ⟨[], []⟩).log, record.level ≠ .error := by
  intro run
  have hdenied : ((run (annotatedReview "rke2" "maybe")).result.toOption.map
      ReviewResponse.allowed) = some false := by decide +kernel
  have hallowed : ((run (annotatedReview "imported" "true")).result.toOption.map
      ReviewResponse.allowed) = some true := by decide +kernel
  have hserved : (((review (annotatedReview "imported" "true") "").run
      testClient.handler ⟨[], []⟩).result.toOption.map
        ReviewResponse.allowed) = some true := by decide +kernel
  -- The three verdicts are evaluated; the logs follow from them.
  obtain ⟨response, hresponse, hno⟩ := Option.map_eq_some_iff.mp hdenied
  obtain ⟨response', hresponse', hyes⟩ := Option.map_eq_some_iff.mp hallowed
  obtain ⟨response'', hresponse'', -⟩ := Option.map_eq_some_iff.mp hserved
  obtain ⟨hdirectory, hserver⟩ := log_tells_outcome
  refine ⟨?_, ?_, ?_, ?_⟩
  · obtain ⟨first, last, message, hlog, -, hlevels⟩ := ((hdirectory _ _ _ _).2 response
      (Except.eq_ok_of_toOption hresponse)).2.1 hno
    exact ⟨first, last, message, hlog, hlevels⟩
  · obtain ⟨front, last, -, -, hlevels⟩ := ((hdirectory _ _ _ _).2 response'
      (Except.eq_ok_of_toOption hresponse')).2.2 hyes
    exact hlevels
  · exact (hdirectory _ _ _ _).1 .noRequest rfl
  · exact hserver _ _ _ _ response'' (Except.eq_ok_of_toOption hresponse'')

end AdmissionControl
