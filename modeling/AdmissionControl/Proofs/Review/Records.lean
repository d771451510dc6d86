/-
  AdmissionControl.Proofs.Review.Records

  The records that a review has of its own.

  `Logs kind` says of a consultation that its own records are of a kind, whatever the replies.  The
  rules log nothing, except for the last rule for clusters, which notes that its setting is missing;
  and then it allows (`ClusterRules.log_versionManagementRule`).  None of the records of a review is
  an error (`logs_review`).
-/

import AdmissionControl.Proofs.Rules.Course

namespace AdmissionControl

/-! ## The records of a consultation -/

namespace Consultation

variable {α β : Type} {kind : LogRecord → Prop}

/-- Whatever the replies, every record that a consultation logs is of a kind. -/
inductive Logs (kind : LogRecord → Prop) : Consultation α → Prop where
  | done (result : Except Failure α) : Logs kind (.done result)
  | log {record : LogRecord} {rest : Consultation α} : kind record → Logs kind rest →
      Logs kind (.log record rest)
  | ask {query : Query} {next : query.Reply → Consultation α} :
      (∀ reply, Logs kind (next reply)) → Logs kind (.ask query next)

/-- A consultation that logs nothing. -/
abbrev Unlogged (c : Consultation α) : Prop := c.Logs fun _ => False

namespace Logs

theorem bind {c : Consultation α} {f : α → Consultation β} (hc : c.Logs kind)
    (hf : ∀ a, (f a).Logs kind) : (c >>= f).Logs kind := by
  show (c.bind f).Logs kind
  induction hc with
  | done result =>
    cases result with
    | ok a => exact hf a
    | error failure => exact .done _
  | log hrecord _ ih => exact .log hrecord ih
  | ask _ ih => exact .ask ih

theorem pure (a : α) : (pure a : Consultation α).Logs kind := .done _

theorem fail (failure : Failure) : (fail failure : Consultation α).Logs kind := .done _

theorem record {level : LogLevel} {message : Text} (h : kind ⟨level, message⟩) :
    (record level message).Logs kind := .log h (.done _)

theorem ofExcept (wrap : ε → Failure) (r : Except ε α) : (ofExcept wrap r).Logs kind := by
  cases r <;> exact .done _

theorem asking {query : Query} {f : query.Reply → Consultation β}
    (hf : ∀ reply, (f reply).Logs kind) : (Consultation.ask query Pure.pure >>= f).Logs kind :=
  .ask hf

theorem mono {wider : LogRecord → Prop} {c : Consultation α} (hc : c.Logs kind)
    (h : ∀ record, kind record → wider record) : c.Logs wider := by
  induction hc with
  | done result => exact .done _
  | log hrecord _ ih => exact .log (h _ hrecord) ih
  | ask _ ih => exact .ask ih

variable {handler : Handler σ} {c : Consultation α} {state : σ} {a : α}

/-- Over a handler whose replies come with records of the kind, a run that has a result logs such
records only. -/
theorem of_run (hc : c.Logs kind)
    (hhandler : ∀ query state reply, (handler query state).reply = .ok reply →
      ∀ record ∈ (handler query state).log, kind record)
    (hrun : (c.run handler state).result = .ok a) :
    ∀ record ∈ (c.run handler state).log, kind record := by
  induction hc generalizing state with
  | done result => exact fun record hrecord => absurd hrecord List.not_mem_nil
  | log hown _ ih => exact List.forall_mem_cons.mpr ⟨hown, ih hrun⟩
  | @ask query next _ ih =>
    simp only [run] at hrun ⊢
    cases hreply : (handler query state).reply with
    | error failure =>
      rw [hreply] at hrun
      cases hrun
    | ok reply =>
      rw [hreply] at hrun
      intro record hrecord
      -- The log of the question stands in front of that of the rest.
      rcases List.mem_append.mp hrecord with hrecord | hrecord
      · exact hhandler query state reply hreply record hrecord
      · exact ih reply hrun record hrecord

end Logs

end Consultation

/-- A handler logs nothing. -/
def Handler.Quiet (handler : Handler σ) : Prop := ∀ query state, (handler query state).log = []

theorem Directory.handler_quiet (directory : Directory) : directory.handler.Quiet := by
  intro query checks
  rw [Directory.handler_eq]

/-- What logs nothing logs nothing over a quiet handler. -/
theorem Consultation.Unlogged.log_run {handler : Handler σ} (hquiet : handler.Quiet)
    {c : Consultation α} (hc : c.Unlogged) (state : σ) : (c.run handler state).log = [] := by
  induction hc generalizing state with
  | done result => rfl
  | log hnone => exact hnone.elim
  | @ask query next _ ih =>
    simp only [run, hquiet query state]
    cases (handler query state).reply with
    | error failure => rfl
    | ok reply => exact ih reply _

open Consultation (Logs Unlogged)

/-! ## The records of rules -/

section

variable {α : Type} {kind : LogRecord → Prop}

theorem logs_requireOld (context : RuleContext α) : context.requireOld.Logs kind := by
  unfold RuleContext.requireOld
  split
  · exact .pure _
  · exact .fail _

theorem logs_requireNew (context : RuleContext α) : context.requireNew.Logs kind := by
  unfold RuleContext.requireNew
  split
  · exact .pure _
  · exact .fail _

end

namespace ClusterRules

variable (context : RuleContext Cluster)

theorem unlogged_fleetWorkspaceUnset : (fleetWorkspaceUnset context).Unlogged := by
  unfold fleetWorkspaceUnset
  split
  · exact .pure _
  · refine (logs_requireOld context).bind fun old => ?_
    split
    · exact .pure _
    · refine (logs_requireNew context).bind fun new => ?_
      split <;> exact .pure _

theorem unlogged_fleetWorkspacePermission : (fleetWorkspacePermission context).Unlogged := by
  unfold fleetWorkspacePermission
  split
  · exact .pure _
  · refine (logs_requireNew context).bind fun new => ?_
    dsimp only
    split
    · exact .pure _
    · split
      · exact .pure _
      · refine .asking fun granted => ?_
        split <;> exact .pure _

theorem unlogged_creatorAnnotationsImmutable : (creatorAnnotationsImmutable context).Unlogged := by
  unfold creatorAnnotationsImmutable
  split
  · exact .pure _
  · refine (logs_requireOld context).bind fun old => ?_
    refine (logs_requireNew context).bind fun new => ?_
    dsimp only
    split <;> exact .pure _

theorem unlogged_creatorReference : (creatorReference context).Unlogged := by
  unfold creatorReference
  split
  · exact .pure _
  · refine (logs_requireNew context).bind fun new => ?_
    dsimp only
    split
    · exact .pure _
    · split
      · exact .pure _
      · refine .asking fun found => ?_
        cases found with
        | none => exact .pure _
        | some user =>
          dsimp only
          split <;> exact .pure _

theorem unlogged_noCreatorRbacImmutable : (noCreatorRbacImmutable context).Unlogged := by
  unfold noCreatorRbacImmutable
  split
  · exact .pure _
  · refine (logs_requireOld context).bind fun old => ?_
    refine (logs_requireNew context).bind fun new => ?_
    dsimp only
    split <;> exact .pure _

theorem unlogged_noCreatorRbacWithCreator : (noCreatorRbacWithCreator context).Unlogged := by
  unfold noCreatorRbacWithCreator
  split
  · exact .pure _
  · refine (logs_requireNew context).bind fun new => ?_
    dsimp only
    split <;> exact .pure _

/-- The note that the setting on version management is missing. -/
def settingMissing : LogRecord :=
  ⟨.debug, "Setting " ++ versionManagementSetting ++
    " not found, skipping version management checks"⟩

/-- The rule on version management allows, or looks at the setting and then logs nothing more; and
it allows if the setting does not turn it on. -/
theorem exists_rest_versionManagementRule :
    ∃ rest : Bool → Consultation RuleResult,
      rest false = pure .allow ∧ (∀ checked, (rest checked).Unlogged) ∧
      (versionManagementRule context = pure .allow ∨
        versionManagementRule context = versionManagementChecked >>= rest) := by
  unfold versionManagementRule
  split
  · exact ⟨fun _ => pure .allow, rfl, fun _ => .pure _, .inl rfl⟩
  · refine ⟨_, ?_, fun checked => ?_, .inr rfl⟩
    · rfl
    · split
      · exact .pure _
      · refine (logs_requireNew context).bind fun new => ?_
        dsimp only
        split <;> exact .pure _

theorem logs_versionManagementRule :
    (versionManagementRule context).Logs fun record => record = settingMissing := by
  obtain ⟨rest, -, hrest, hrule | hrule⟩ := exists_rest_versionManagementRule context
  · rw [hrule]
    exact .pure _
  · rw [hrule]
    refine Logs.bind (.asking fun found => ?_) fun checked => (hrest checked).mono nofun
    cases found with
    | some setting => exact .pure _
    | none => exact .bind (.record rfl) fun _ => .pure _

/-- The rule on version management logs that its setting is missing, and allows then. -/
theorem log_versionManagementRule {handler : Handler σ} (hquiet : handler.Quiet) (state : σ) :
    let outcome := (versionManagementRule context).run handler state
    outcome.log = [] ∨ outcome.log = [settingMissing] ∧ outcome.result = .ok .allow ∧
      (handler (.setting versionManagementSetting) state).reply = .ok none := by
  obtain ⟨rest, hfalse, hrest, hrule | hrule⟩ := exists_rest_versionManagementRule context
  · rw [hrule]
    exact .inl rfl
  · -- The lookup of the setting is the only step that may leave a record.
    have hchecked : versionManagementChecked.run handler state =
        match (handler (.setting versionManagementSetting) state).reply with
        | .ok (some setting) => ⟨.ok (setting.value == "true"), [],
            (handler (.setting versionManagementSetting) state).state⟩
        | .ok none => ⟨.ok false, [settingMissing],
            (handler (.setting versionManagementSetting) state).state⟩
        | .error failure => ⟨.error failure, [],
            (handler (.setting versionManagementSetting) state).state⟩ := by
      show Consultation.run handler (.ask (.setting versionManagementSetting) _) state = _
      simp only [Consultation.run, hquiet (.setting versionManagementSetting) state]
      cases (handler (.setting versionManagementSetting) state).reply with
      | error failure => rfl
      | ok found => cases found <;> rfl
    rw [hrule]
    cases hreply : (handler (.setting versionManagementSetting) state).reply with
    | error failure =>
      rw [hreply] at hchecked
      rw [Consultation.run_bind_of_error rest hchecked]
      exact .inl rfl
    | ok found =>
      rw [hreply] at hchecked
      cases found with
      | some setting =>
        rw [Consultation.run_bind_of_ok rest hchecked]
        exact .inl ((hrest _).log_run hquiet _)
      | none =>
        -- Without the setting nothing is checked, so the rule ends right behind its record.
        rw [Consultation.run_bind_of_ok rest hchecked, hfalse]
        exact .inr ⟨rfl, rfl, rfl⟩

/-- The rules before the one on version management. -/
def front : List (Rule Cluster) := all.take 6

theorem all_eq_front_append : all = front ++ [⟨"version-management", versionManagementRule⟩] := rfl

theorem unlogged_front : ∀ rule ∈ front, (rule.check context).Unlogged := by
  intro rule hrule
  simp only [front, all, List.take_succ_cons, List.take_zero, List.mem_cons, List.not_mem_nil,
    or_false] at hrule
  rcases hrule with rfl | rfl | rfl | rfl | rfl | rfl
  · exact unlogged_fleetWorkspaceUnset context
  · exact unlogged_fleetWorkspacePermission context
  · exact unlogged_creatorAnnotationsImmutable context
  · exact unlogged_creatorReference context
  · exact unlogged_noCreatorRbacImmutable context
  · exact unlogged_noCreatorRbacWithCreator context

end ClusterRules

namespace ProjectRules

variable {context : RuleContext Project} {kind : LogRecord → Prop}

theorem logs_quotas (context : RuleContext Project) : (quotas context).Logs kind := by
  unfold quotas
  split
  · exact .pure _
  · exact (logs_requireNew context).bind fun _ => .pure _

theorem logs_exceeding (outer inner : StoredLimit) : (exceeding outer inner).Logs kind :=
  .bind (.ofExcept _ _) fun _ => .bind (.ofExcept _ _) fun _ => .pure _

theorem logs_denyExceeding (intro : Text) (exceeded : Limit) :
    (denyExceeding intro exceeded).Logs kind := by
  unfold denyExceeding
  split
  · exact .pure _
  · refine Logs.bind ?_ fun listed => .pure _
    unfold describe
    split
    · exact .pure _
    · exact .fail _

theorem unlogged_systemProjectDelete (context : RuleContext Project) :
    (systemProjectDelete context).Unlogged := by
  unfold systemProjectDelete
  split
  · exact .pure _
  · refine (logs_requireOld context).bind fun old => ?_
    split <;> exact .pure _

theorem unlogged_usedQuotaFits (context : RuleContext Project) :
    (usedQuotaFits context).Unlogged := by
  unfold usedQuotaFits
  split
  · exact .pure _
  · refine (logs_requireOld context).bind fun old => ?_
    split
    · exact .pure _
    · refine (logs_quotas context).bind fun quotas => ?_
      split
      · exact .pure _
      · exact (logs_exceeding _ _).bind fun exceeded => logs_denyExceeding _ exceeded

theorem unlogged_check (context : RuleContext Project) :
    ∀ rule ∈ all, (rule.check context).Unlogged := by
  intro rule hrule
  simp only [all, List.mem_cons, List.not_mem_nil, or_false] at hrule
  -- The rules of projects in turn: they read quotas, compare, and deny or allow.
  rcases hrule with rfl | rfl | rfl | rfl | rfl
  · exact unlogged_systemProjectDelete context
  · refine (logs_quotas context).bind fun quotas => ?_
    split <;> exact .pure _
  · refine (logs_quotas context).bind fun quotas => ?_
    split
    · exact .bind (.ofExcept _ _) fun _ => .bind (.ofExcept _ _) fun _ => .pure _
    · exact .pure _
  · refine (logs_quotas context).bind fun quotas => ?_
    split
    · exact (logs_exceeding _ _).bind fun exceeded => logs_denyExceeding _ exceeded
    · exact .pure _
  · exact unlogged_usedQuotaFits context

end ProjectRules

/-! ## Levels -/

section

variable {kind : LogRecord → Prop}

theorem logs_evaluateRulesFrom {α : Type} {context : RuleContext α} {rules : List (Rule α)}
    (hremarks : ∀ rule ∈ rules, ∀ r, ∀ record ∈ rule.remarks context.operation r, kind record)
    (h : ∀ rule ∈ rules, (rule.check context).Logs kind) (warnings : List Text) :
    (evaluateRulesFrom context warnings rules).Logs kind := by
  induction rules generalizing warnings with
  | nil => exact .pure _
  | cons rule rest ih =>
    rw [List.forall_mem_cons] at hremarks h
    refine h.1.bind fun r => ?_
    -- A denial and a warning are logged before anything that follows them.
    cases r with
    | deny reason message =>
      exact (Logs.record (hremarks.1 (.deny reason message) _ List.mem_cons_self)).bind
        fun _ => .pure _
    | warn message =>
      exact (Logs.record (hremarks.1 (.warn message) _ List.mem_cons_self)).bind
        fun _ => (ih hremarks.2 h.2 _).bind fun _ => .pure _
    | allow => exact (ih hremarks.2 h.2 _).bind fun _ => .pure _

/-- A record below the level of errors. -/
def LogRecord.BelowError (record : LogRecord) : Prop := record.level ≠ .error

theorem belowError_remarks {α : Type} (rule : Rule α) (operation : Operation) (r : RuleResult) :
    ∀ record ∈ rule.remarks operation r, record.BelowError := by
  cases r with
  | allow => exact fun record hrecord => absurd hrecord List.not_mem_nil
  | _ =>
    intro record hrecord
    rw [List.mem_singleton.mp hrecord]
    exact nofun

theorem logs_decideBy {α : Type} {name : String} {decoder : Decoder α} {rules : List (Rule α)}
    (h : ∀ context, ∀ rule ∈ rules, (rule.check context).Logs LogRecord.BelowError)
    (request : AdmissionRequest) :
    (decideBy name decoder rules request).Logs LogRecord.BelowError := by
  unfold decideBy
  split
  · refine (Logs.ofExcept _ _).bind fun context => Logs.bind ?_ fun _ => .pure _
    exact logs_evaluateRulesFrom (fun rule _ => belowError_remarks rule _) (h context) []
  · exact .pure _

/-- A review itself logs no errors. -/
theorem logs_review (admissionReview : Json) (resource : Text) :
    (review admissionReview resource).Logs LogRecord.BelowError := by
  have hdecide : ∀ kind request, (decideRequest kind request).Logs LogRecord.BelowError := by
    intro kind request
    cases kind with
    | cluster =>
      refine logs_decideBy (fun context => ?_) request
      rw [ClusterRules.all_eq_front_append, List.forall_mem_append]
      refine ⟨fun rule hrule => (ClusterRules.unlogged_front context rule hrule).mono nofun, ?_⟩
      rw [List.forall_mem_singleton]
      refine (ClusterRules.logs_versionManagementRule context).mono ?_
      rintro record rfl
      exact nofun
    | project =>
      exact logs_decideBy (fun context rule hrule =>
        (ProjectRules.unlogged_check context rule hrule).mono nofun) request
  -- The request, its kind, the decision, and the record of it.
  refine (Logs.ofExcept _ _).bind fun request => Logs.bind ?_ fun _ => .pure _
  refine (Logs.ofExcept _ _).bind fun kind => (hdecide kind request).bind fun decision => ?_
  refine Logs.bind (.record ?_) fun _ => .pure _
  show (decisionRecord kind request decision).level ≠ .error
  unfold decisionRecord
  dsimp only
  split <;> exact nofun

end

end AdmissionControl
