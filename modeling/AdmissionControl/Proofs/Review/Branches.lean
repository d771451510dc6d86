/-
  AdmissionControl.Proofs.Review.Branches

  What a review may ask and decide, on whatever branch.

  `Branches P queries` says of a consultation that the questions on each of its branches are some of
  a list, in the order of the list, and that every result has `P`.  Consultations in a row add up
  (`Branches.bind`), and both hold of every run, over a handler that replies as it likes
  (`Branches.of_run`, `Branches.visits_sublist`).

  A rule has one lemma about its branches: which questions it may ask, and that its denials have a
  reason with a name and a message.  Only the rule on version management warns, and it is the last
  one.  So the decision on a request has one warning at most, and none if it denies
  (`Decision.Regular`), and a cluster that is written has at most the questions of
  `ClusterRules.questions`, in this order; every other request has none (`branches_review`).

  Where a rule denies or fails, the review ends: the handler is left as this rule leaves it
  (`ClusterRules.state_review_of_ended`).
-/

import AdmissionControl.Proofs.Cluster.Obligations
import AdmissionControl.Proofs.Review.Failing

namespace AdmissionControl

/-! ## Texts that are not empty -/

namespace Text

@[simp] theorem append_eq_empty_iff {t u : Text} : t ++ u = "" ↔ t = "" ∧ u = "" := by
  obtain ⟨ts⟩ := t
  obtain ⟨us⟩ := u
  show (⟨ts ++ us⟩ : Text) = ⟨[]⟩ ↔ (⟨ts⟩ : Text) = ⟨[]⟩ ∧ (⟨us⟩ : Text) = ⟨[]⟩
  simp only [Text.mk.injEq, List.append_eq_nil_iff]

@[simp] theorem ofString_eq_empty_iff {s : String} : (s : Text) = "" ↔ s = "" :=
  ⟨ofString_inj, congrArg ofString⟩

end Text

/-! ## Branches -/

namespace Consultation

variable {α β : Type} {P : α → Prop} {Q : β → Prop} {queries first second : List Query}

/-- On every branch of the consultation the questions are some of a list, in order, and the result,
if there is one, has `P`. -/
inductive Branches (P : α → Prop) : List Query → Consultation α → Prop where
  | ok {queries : List Query} {a : α} : P a → Branches P queries (.done (.ok a))
  | error {queries : List Query} (failure : Failure) :
      Branches P queries (.done (.error failure))
  | log {queries : List Query} {record : LogRecord} {rest : Consultation α} :
      Branches P queries rest → Branches P queries (.log record rest)
  | ask {query : Query} {queries : List Query} {next : query.Reply → Consultation α} :
      (∀ reply, Branches P queries (next reply)) → Branches P (query :: queries) (.ask query next)
  | skip {query : Query} {queries : List Query} {c : Consultation α} :
      Branches P queries c → Branches P (query :: queries) c

namespace Branches

theorem pure {a : α} (h : P a) : (pure a : Consultation α).Branches P queries := .ok h

theorem fail (failure : Failure) : (fail failure : Consultation α).Branches P queries :=
  .error failure

theorem record (level : LogLevel) (message : Text) :
    (record level message).Branches (fun _ => True) queries := .log (.ok trivial)

theorem ofExcept {wrap : ε → Failure} {r : Except ε α} (h : ∀ a, r = .ok a → P a) :
    (ofExcept wrap r).Branches P queries := by
  cases r with
  | ok a => exact .ok (h a rfl)
  | error e => exact .error _

/-- Questions that are left out may stand before the others. -/
theorem behind {c : Consultation α} (h : c.Branches P second) (first : List Query) :
    c.Branches P (first ++ second) := by
  induction first with
  | nil => exact h
  | cons query first ih => exact .skip ih

/-- The questions of a second consultation come behind those of the first. -/
theorem bind {c : Consultation α} {f : α → Consultation β} (hc : c.Branches P first)
    (hf : ∀ a, P a → (f a).Branches Q second) : (c >>= f).Branches Q (first ++ second) := by
  show (c.bind f).Branches Q (first ++ second)
  -- Along the branches of the first: a result may come before all of its questions are asked, and
  -- those that are left are then skipped.
  induction hc with
  | ok ha => exact (hf _ ha).behind _
  | error failure => exact .error failure
  | log _ ih => exact .log ih
  | ask _ ih => exact .ask ih
  | skip _ ih => exact .skip ih

/-- A second consultation that asks nothing adds no questions. -/
theorem andThen {c : Consultation α} {f : α → Consultation β} (hc : c.Branches P queries)
    (hf : ∀ a, P a → (f a).Branches Q []) : (c >>= f).Branches Q queries := by
  have hboth := hc.bind hf
  rwa [List.append_nil] at hboth

/-- One question, and then a consultation that asks nothing. -/
theorem asking {query : Query} {f : query.Reply → Consultation β}
    (hf : ∀ reply, (f reply).Branches Q []) :
    (Consultation.ask query Pure.pure >>= f).Branches Q [query] :=
  .ask hf

section

variable {handler : Handler σ} {c : Consultation α}

/-- The result of a run has the property, whatever the handler replies. -/
theorem of_run (hc : c.Branches P queries) {state : σ} {a : α}
    (hrun : (c.run handler state).result = .ok a) : P a := by
  induction hc generalizing state with
  | ok ha =>
    cases hrun
    exact ha
  | error failure => cases hrun
  | log _ ih => exact ih hrun
  | ask _ ih =>
    simp only [run] at hrun
    split at hrun
    · exact ih _ hrun
    · cases hrun
  | skip _ ih => exact ih hrun

/-- The questions of a run are some of the list, in order. -/
theorem visits_sublist (hc : c.Branches P queries) (state : σ) :
    ((c.visits handler state).map Prod.fst).Sublist queries := by
  induction hc generalizing state with
  | ok _ => exact List.nil_sublist _
  | error failure => exact List.nil_sublist _
  | log _ ih => exact ih state
  | @ask query queries next _ ih =>
    simp only [visits, List.map_cons]
    refine .cons_cons query ?_
    cases (handler query state).reply with
    | ok reply => exact ih reply _
    | error failure => exact List.nil_sublist _
  | skip _ ih => exact (ih state).cons _

end

end Branches

/-! ## Runs of two consultations -/

section

variable {handler : Handler σ} {state : σ} {c : Consultation α} {f : α → Consultation β}

/-- A run of two consultations that has a result has one of the first. -/
theorem exists_result_of_bind {b : β} (h : ((c >>= f).run handler state).result = .ok b) :
    ∃ a, (c.run handler state).result = .ok a ∧
      ((f a).run handler (c.run handler state).state).result = .ok b := by
  have hbind : (c >>= f).run handler state = _ := run_bind handler c f state
  rw [hbind] at h
  cases hfirst : (c.run handler state).result with
  | error failure =>
    rw [hfirst] at h
    cases h
  | ok a =>
    rw [hfirst] at h
    exact ⟨a, rfl, h⟩

/-- Behind a result the second consultation goes on from where the first left the handler. -/
theorem state_run_bind_of_ok {a : α} (h : (c.run handler state).result = .ok a) :
    ((c >>= f).run handler state).state =
      ((f a).run handler (c.run handler state).state).state := by
  have hbind : (c >>= f).run handler state = _ := run_bind handler c f state
  rw [hbind, h]
  rfl

theorem state_run_bind_of_error {failure : Failure}
    (h : (c.run handler state).result = .error failure) :
    ((c >>= f).run handler state).state = (c.run handler state).state := by
  have hbind : (c >>= f).run handler state = _ := run_bind handler c f state
  rw [hbind, h]

/-- A log record leaves the handler as it is. -/
theorem state_run_record (level : LogLevel) (message : Text) (f : Unit → Consultation β) :
    ((record level message >>= f).run handler state).state = ((f ()).run handler state).state := rfl

/-- So does what only passes a result on. -/
theorem state_run_map (g : α → β) :
    ((c >>= fun a => pure (g a)).run handler state).state = (c.run handler state).state := by
  cases h : (c.run handler state).result with
  | ok a => exact state_run_bind_of_ok h
  | error failure => exact state_run_bind_of_error h

end

end Consultation

open Consultation

/-! ## Rules in a row -/

variable {α : Type} {context : RuleContext α} {warns : Prop} {queries : List Query}

theorem branches_requireOld (context : RuleContext α) :
    context.requireOld.Branches (fun _ => True) [] := by
  unfold RuleContext.requireOld
  split
  · exact .pure trivial
  · exact .fail _

theorem branches_requireNew (context : RuleContext α) :
    context.requireNew.Branches (fun _ => True) [] := by
  unfold RuleContext.requireNew
  split
  · exact .pure trivial
  · exact .fail _

/-- What a rule may say: a denial has a reason with a name and a message, and a warning needs leave
for it. -/
inductive RuleResult.Regular (warns : Prop) : RuleResult → Prop where
  | allow : Regular warns .allow
  | deny {reason : Reason} {message : Text} : reason ≠ .unspecified → message ≠ "" →
      Regular warns (.deny reason message)
  | warn (message : Text) : warns → Regular warns (.warn message)

/-- What rules may decide: a denial has a reason with a name and a message, and no warnings; and
there is one warning at most, with leave for it. -/
inductive Decision.Regular (warns : Prop) : Decision → Prop where
  | allow : Regular warns (.allow [])
  | deny {reason : Reason} {message : Text} : reason ≠ .unspecified → message ≠ "" →
      Regular warns (.deny reason message [])
  | warn (message : Text) : warns → Regular warns (.allow [message])

/-- The rules ask the questions of a list one after the other, each of them one at most, and none
but the last may warn. -/
inductive RulesBranch (context : RuleContext α) (warns : Prop) :
    List (Rule α) → List Query → Prop where
  | nil : RulesBranch context warns [] []
  | last {rule : Rule α} {queries : List Query} :
      (rule.check context).Branches (RuleResult.Regular warns) queries →
      RulesBranch context warns [rule] queries
  | silent {rule : Rule α} {rest : List (Rule α)} {queries : List Query} :
      (rule.check context).Branches (RuleResult.Regular False) [] →
      RulesBranch context warns rest queries → RulesBranch context warns (rule :: rest) queries
  | asking {rule : Rule α} {rest : List (Rule α)} {query : Query} {queries : List Query} :
      (rule.check context).Branches (RuleResult.Regular False) [query] →
      RulesBranch context warns rest queries →
      RulesBranch context warns (rule :: rest) (query :: queries)

/-- A rule that does not warn, and then the rules behind it. -/
theorem branches_evaluateRules_cons {rule : Rule α} {rest : List (Rule α)} {first : List Query}
    (hrule : (rule.check context).Branches (RuleResult.Regular False) first)
    (hrest : (evaluateRules rest context).Branches (fun e => e.decision.Regular warns) queries) :
    (evaluateRules (rule :: rest) context).Branches (fun e => e.decision.Regular warns)
      (first ++ queries) := by
  refine hrule.bind fun r hr => ?_
  cases hr with
  | allow => exact hrest.andThen fun _ hregular => .pure hregular
  | deny hreason hmessage =>
    exact (Branches.record _ _).andThen fun _ _ => .pure (.deny hreason hmessage)
  | warn _ hno => exact hno.elim

/-- Rules that ask and warn in this way come to a regular decision. -/
theorem branches_evaluateRules {rules : List (Rule α)}
    (h : RulesBranch context warns rules queries) :
    (evaluateRules rules context).Branches (fun e => e.decision.Regular warns) queries := by
  induction h with
  | nil => exact .pure .allow
  | last hrule =>
    -- A warning of the last rule is the only one, for none stands before it.
    refine hrule.andThen fun r hr => ?_
    cases hr with
    | allow => exact .pure .allow
    | deny hreason hmessage =>
      exact (Branches.record _ _).andThen fun _ _ => .pure (.deny hreason hmessage)
    | warn message hwarns =>
      exact (Branches.record _ _).andThen fun _ _ => .pure (.warn message hwarns)
  | silent hrule _ ih => exact branches_evaluateRules_cons hrule ih
  | asking hrule _ ih => exact branches_evaluateRules_cons hrule ih

/-! ## The rules for clusters -/

/-- A request brings a cluster, so it may be warned about. -/
def AdmissionRequest.MayWarn (request : AdmissionRequest) (kind : ResourceKind) : Prop :=
  kind = .cluster ∧ (request.operation = .create ∨ request.operation = .update)

namespace ClusterRules

variable {operation : Operation} {user : UserInfo} {before : Option Cluster} {old new : Cluster}

/-- The questions that the rules for clusters may ask, in order. -/
def questions (user : UserInfo) : Option Cluster → Option Cluster → List Query
  | none, some new =>
    [.access (entryCheck user new.workspace), .user (new.written creatorId),
      .setting versionManagementSetting]
  | some _, some new =>
    [.access (entryCheck user new.workspace), .setting versionManagementSetting]
  | _, none => []

theorem branches_fleetWorkspaceUnset :
    (fleetWorkspaceUnset ⟨.update, some old, some new, user⟩).Branches
      (RuleResult.Regular False) [] := by
  simp only [fleetWorkspaceUnset, RuleContext.requireOld, RuleContext.requireNew, pure_bind,
    ne_eq, not_true_eq_false, if_false]
  split
  · exact .pure .allow
  · split
    · exact .pure .allow
    · exact .pure (.deny (by decide) (by simp))

theorem branches_fleetWorkspacePermission (hwrites : Writes operation before) :
    (fleetWorkspacePermission ⟨operation, before, some new, user⟩).Branches
      (RuleResult.Regular False) [.access (entryCheck user new.workspace)] := by
  simp only [fleetWorkspacePermission, RuleContext.requireNew, pure_bind, hwrites.not_skipped,
    Bool.false_eq_true, if_false]
  split
  · exact .pure .allow
  · split
    · exact .pure .allow
    · refine .asking fun granted => ?_
      split
      · exact .pure .allow
      · exact .pure (.deny (by decide) (by simp))

theorem branches_creatorAnnotationsImmutable :
    (creatorAnnotationsImmutable ⟨.update, some old, some new, user⟩).Branches
      (RuleResult.Regular False) [] := by
  simp only [creatorAnnotationsImmutable, RuleContext.requireOld, RuleContext.requireNew,
    pure_bind, ne_eq, not_true_eq_false, if_false]
  split
  · exact .pure (.deny (by decide) (by simp))
  · exact .pure .allow

theorem branches_creatorReference :
    (creatorReference ⟨.create, before, some new, user⟩).Branches
      (RuleResult.Regular False) [.user (new.written creatorId)] := by
  simp only [creatorReference, RuleContext.requireNew, pure_bind, ne_eq, not_true_eq_false,
    if_false]
  split
  · exact .pure (.deny (by decide) (by simp))
  · split
    · exact .pure .allow
    · refine .asking fun found => ?_
      cases found with
      | none => exact .pure (.deny (by decide) (by simp))
      | some creator =>
        dsimp only
        split
        · exact .pure (.deny (by decide) (by simp))
        · exact .pure .allow

theorem branches_noCreatorRbacImmutable :
    (noCreatorRbacImmutable ⟨.update, some old, some new, user⟩).Branches
      (RuleResult.Regular False) [] := by
  simp only [noCreatorRbacImmutable, RuleContext.requireOld, RuleContext.requireNew, pure_bind,
    ne_eq, not_true_eq_false, if_false]
  split
  · exact .pure .allow
  · exact .pure (.deny (by decide) (by simp))

theorem branches_noCreatorRbacWithCreator :
    (noCreatorRbacWithCreator ⟨.create, before, some new, user⟩).Branches
      (RuleResult.Regular False) [] := by
  simp only [noCreatorRbacWithCreator, RuleContext.requireNew, pure_bind, ne_eq,
    not_true_eq_false, if_false]
  split
  · exact .pure (.deny (by decide) (by simp))
  · exact .pure .allow

theorem regular_managedVersion (operation : Operation) (driver : Text) (old new : Option Text)
    (warns : Prop) : (managedVersion operation driver old new).Regular warns := by
  unfold managedVersion
  split
  · split
    · exact .deny (by decide) (by simp)
    · split
      · exact .deny (by decide) (by simp)
      · exact .allow
  · split
    · exact .allow
    · split
      · exact .allow
      · exact .deny (by decide) (by simp)

theorem regular_unmanagedVersion (driver : Text) (value : Option Text) (hwarns : warns) :
    (unmanagedVersion driver value).Regular warns := by
  unfold unmanagedVersion
  split
  · exact .allow
  · split
    · exact .warn _ hwarns
    · exact .warn _ hwarns

theorem branches_versionManagementChecked :
    versionManagementChecked.Branches (fun _ => True) [.setting versionManagementSetting] := by
  refine .asking fun found => ?_
  cases found with
  | some setting => exact .pure trivial
  | none => exact (Branches.record _ _).andThen fun _ _ => .pure trivial

/-- The rule on version management may warn. -/
theorem branches_versionManagementRule (hwrites : Writes operation before) (hwarns : warns) :
    (versionManagementRule ⟨operation, before, some new, user⟩).Branches
      (RuleResult.Regular warns) [.setting versionManagementSetting] := by
  simp only [versionManagementRule, RuleContext.requireNew, pure_bind, hwrites.not_skipped,
    Bool.false_eq_true, if_false]
  refine branches_versionManagementChecked.andThen fun checked _ => ?_
  split
  · exact .pure .allow
  · split
    · exact .pure (regular_managedVersion _ _ _ _ _)
    · exact .pure (regular_unmanagedVersion _ _ hwarns)

/-- The rules for clusters ask the questions of the clusters that a request carries, and the last of
them may warn where it brings a new one. -/
theorem rulesBranch_all {request : AdmissionRequest} {old new : Option Cluster}
    (hcarried : Carried "Cluster" Cluster.decode request old new) :
    RulesBranch ⟨request.operation, old, new, request.userInfo⟩ (request.MayWarn .cluster) all
      (questions request.userInfo old new) := by
  -- A rule for other operations allows at once.
  have hallows : (Pure.pure RuleResult.allow : Consultation RuleResult).Branches
      (RuleResult.Regular False) [] := .pure .allow
  cases hcarried with
  | create hop _ =>
    rw [hop]
    refine .silent hallows (.asking (branches_fleetWorkspacePermission .create) (.silent hallows
      (.asking branches_creatorReference (.silent hallows
        (.silent branches_noCreatorRbacWithCreator (.last ?_))))))
    exact branches_versionManagementRule .create ⟨rfl, .inl hop⟩
  | update hop _ _ =>
    rw [hop]
    refine .silent branches_fleetWorkspaceUnset
      (.asking (branches_fleetWorkspacePermission (.update _))
        (.silent branches_creatorAnnotationsImmutable (.silent hallows
          (.silent branches_noCreatorRbacImmutable (.silent hallows (.last ?_))))))
    exact branches_versionManagementRule (.update _) ⟨rfl, .inr hop⟩
  | delete hop _ =>
    rw [hop]
    refine .silent hallows (.silent hallows (.silent hallows (.silent hallows (.silent hallows
      (.silent hallows (.last ?_))))))
    exact .pure .allow

end ClusterRules

/-! ## The rules for projects -/

namespace ProjectRules

theorem branches_quotas (context : RuleContext Project) :
    (quotas context).Branches (fun _ => True) [] := by
  unfold quotas
  split
  · exact .pure trivial
  · exact (branches_requireNew context).andThen fun _ _ => .pure trivial

theorem branches_normalized (limit : StoredLimit) :
    (normalized limit).Branches (fun _ => True) [] := .ofExcept fun _ _ => trivial

theorem branches_exceeding (outer inner : StoredLimit) :
    (exceeding outer inner).Branches (fun _ => True) [] :=
  (branches_normalized outer).andThen fun _ _ =>
    (branches_normalized inner).andThen fun _ _ => .pure trivial

theorem branches_describe (limit : Limit) : (describe limit).Branches (fun _ => True) [] := by
  unfold describe
  split
  · exact .pure trivial
  · exact .fail _

/-- What is said of entries above their bounds begins with an introduction. -/
theorem branches_denyExceeding {intro : Text} (hintro : intro ≠ "") (exceeded : Limit) :
    (denyExceeding intro exceeded).Branches (RuleResult.Regular False) [] := by
  unfold denyExceeding
  split
  · exact .pure .allow
  · exact (branches_describe exceeded).andThen fun listed _ =>
      .pure (.deny (by decide) (by simp [hintro]))

theorem regular_compareResources (project namespaceDefault : Limit) :
    (compareResources project namespaceDefault).Regular False := by
  unfold compareResources
  split
  · exact .deny (by decide) (by simp)
  · split
    · exact .deny (by decide) (by simp)
    · exact .allow

theorem branches_systemProjectDelete (context : RuleContext Project) :
    (systemProjectDelete context).Branches (RuleResult.Regular False) [] := by
  unfold systemProjectDelete
  split
  · exact .pure .allow
  · refine (branches_requireOld context).andThen fun old _ => ?_
    split
    · exact .pure (.deny (by decide) (by simp))
    · exact .pure .allow

theorem branches_quotaFieldsPresent (context : RuleContext Project) :
    (quotaFieldsPresent context).Branches (RuleResult.Regular False) [] := by
  refine (branches_quotas context).andThen fun quotas _ => ?_
  split
  · exact .pure (.deny (by decide) (by simp))
  · exact .pure (.deny (by decide) (by simp))
  · exact .pure .allow

theorem branches_quotaResourcesMatch (context : RuleContext Project) :
    (quotaResourcesMatch context).Branches (RuleResult.Regular False) [] := by
  refine (branches_quotas context).andThen fun quotas _ => ?_
  split
  · refine (branches_normalized _).andThen fun project _ => ?_
    refine (branches_normalized _).andThen fun namespaceDefault _ => ?_
    exact .pure (regular_compareResources project namespaceDefault)
  · exact .pure .allow

theorem branches_namespaceQuotaFits (context : RuleContext Project) :
    (namespaceQuotaFits context).Branches (RuleResult.Regular False) [] := by
  refine (branches_quotas context).andThen fun quotas _ => ?_
  split
  · exact (branches_exceeding _ _).andThen fun exceeded _ =>
      branches_denyExceeding (by simp) exceeded
  · exact .pure .allow

theorem branches_usedQuotaFits (context : RuleContext Project) :
    (usedQuotaFits context).Branches (RuleResult.Regular False) [] := by
  unfold usedQuotaFits
  split
  · exact .pure .allow
  · refine (branches_requireOld context).andThen fun old _ => ?_
    split
    · exact .pure .allow
    · refine (branches_quotas context).andThen fun quotas _ => ?_
      split
      · exact .pure .allow
      · exact (branches_exceeding _ _).andThen fun exceeded _ =>
          branches_denyExceeding (by simp) exceeded

/-- No rule for projects asks or warns. -/
theorem rulesBranch_all (context : RuleContext Project) : RulesBranch context warns all [] :=
  .silent (branches_systemProjectDelete context) (.silent (branches_quotaFieldsPresent context)
    (.silent (branches_quotaResourcesMatch context) (.silent (branches_namespaceQuotaFits context)
      (.silent (branches_usedQuotaFits context) .nil))))

end ProjectRules

/-! ## Reviews -/

section

variable {kind : String} {decoder : Decoder α} {rules : List (Rule α)} {request : AdmissionRequest}
  {old new : Option α}

theorem branches_decideBy_of_carried (hcarried : Carried kind decoder request old new)
    (hrules : RulesBranch ⟨request.operation, old, new, request.userInfo⟩ warns rules queries) :
    (decideBy kind decoder rules request).Branches (Decision.Regular warns) queries := by
  rw [decideBy_of_carried rules hcarried]
  exact (branches_evaluateRules hrules).andThen fun _ hregular => .pure hregular

/-- A request that does not carry its objects fails, or has no rules and is allowed. -/
theorem branches_decideBy_of_not_carried
    (hnot : ∀ old new, ¬ Carried kind decoder request old new) :
    (decideBy kind decoder rules request).Branches (Decision.Regular warns) queries := by
  by_cases hoperation : hasRules request.operation = true
  · rw [decideBy, if_pos hoperation]
    cases hcontext : ruleContext kind decoder request with
    | error failure => exact .fail failure
    | ok context => exact absurd (carried_of_ruleContext hoperation hcontext) (hnot _ _)
  · rw [decideBy, if_neg hoperation]
    exact .pure .allow

end

/-- The questions of a request that falls under a kind: those of a cluster which it brings. -/
inductive AdmissionRequest.MayAsk (request : AdmissionRequest) :
    ResourceKind → List Query → Prop where
  | nothing (kind : ResourceKind) : MayAsk request kind []
  | cluster {old : Option Cluster} {new : Cluster} :
      Carried "Cluster" Cluster.decode request old (some new) →
      MayAsk request .cluster (ClusterRules.questions request.userInfo old (some new))

/-- A decision is regular, and the questions before it are those of the request. -/
theorem branches_decideRequest (kind : ResourceKind) (request : AdmissionRequest) :
    ∃ queries, request.MayAsk kind queries ∧
      (decideRequest kind request).Branches (Decision.Regular (request.MayWarn kind)) queries := by
  cases kind with
  | cluster =>
    -- Only rules ask and warn, and they run only on what the operation carries.
    by_cases hcarried : ∃ old new, Carried "Cluster" Cluster.decode request old new
    · obtain ⟨old, new, hcarried⟩ := hcarried
      have hbranches := branches_decideBy_of_carried hcarried
        (ClusterRules.rulesBranch_all hcarried)
      cases new with
      | some new => exact ⟨_, .cluster hcarried, hbranches⟩
      | none =>
        -- A deletion has no new cluster to ask about.
        have hnone : ClusterRules.questions request.userInfo old none = [] := by
          cases old <;> rfl
        rw [hnone] at hbranches
        exact ⟨_, .nothing .cluster, hbranches⟩
    · simp only [not_exists] at hcarried
      exact ⟨_, .nothing .cluster, branches_decideBy_of_not_carried hcarried⟩
  | project =>
    refine ⟨_, .nothing .project, ?_⟩
    by_cases hcarried : ∃ old new, Carried "Project" Project.decode request old new
    · obtain ⟨old, new, hcarried⟩ := hcarried
      exact branches_decideBy_of_carried hcarried (ProjectRules.rulesBranch_all _)
    · simp only [not_exists] at hcarried
      exact branches_decideBy_of_not_carried hcarried

/-- The decision on a request is regular for the kind that it is dispatched to. -/
theorem branches_evaluateRequest (request : AdmissionRequest) (resource : Text) :
    ∃ queries,
      (queries ≠ [] → ∃ kind, dispatch request resource = .ok kind ∧
        request.MayAsk kind queries) ∧
      (evaluateRequest request resource).Branches (fun decision => ∃ kind,
        dispatch request resource = .ok kind ∧
          decision.Regular (request.MayWarn kind)) queries := by
  unfold evaluateRequest
  cases hdispatch : dispatch request resource with
  | error failure => exact ⟨[], fun hne => absurd rfl hne, .fail failure⟩
  | ok kind =>
    obtain ⟨queries, hask, hdecide⟩ := branches_decideRequest kind request
    refine ⟨queries, fun _ => ⟨kind, rfl, hask⟩, ?_⟩
    exact hdecide.andThen fun decision hregular =>
      (Branches.record _ _).andThen fun _ _ => .pure ⟨kind, rfl, hregular⟩

/-- The questions of a review are those of the request that it holds. -/
theorem branches_review (admissionReview : Json) (resource : Text) :
    ∃ queries,
      (queries ≠ [] → ∃ request kind, requestOf admissionReview = .ok request ∧
        dispatch request resource = .ok kind ∧ request.MayAsk kind queries) ∧
      (review admissionReview resource).Branches (fun _ => True) queries := by
  unfold review
  cases hrequest : requestOf admissionReview with
  | error failure => exact ⟨[], fun hne => absurd rfl hne, .fail failure⟩
  | ok request =>
    obtain ⟨queries, hask, hevaluate⟩ := branches_evaluateRequest request resource
    refine ⟨queries, fun hne => ?_, hevaluate.andThen fun _ _ => .pure trivial⟩
    obtain ⟨kind, hdispatch, hmay⟩ := hask hne
    exact ⟨request, kind, rfl, hdispatch, hmay⟩

/-! ## Where a review ends -/

section

variable {handler : Handler σ} {state : σ} {warnings : List Text} {before : List (Rule α)}
  {rule : Rule α}

/-- A rule denies or fails, so no rule behind it is looked at. -/
inductive EndsEvaluation : Except Failure RuleResult → Prop where
  | denied (reason : Reason) (message : Text) : EndsEvaluation (.ok (.deny reason message))
  | failed (failure : Failure) : EndsEvaluation (.error failure)

/-- Where the first of some rules denies or fails, the others are not looked at. -/
theorem state_evaluateRulesFrom_cons_of_ended (warnings : List Text) (after : List (Rule α))
    (hends : EndsEvaluation ((rule.check context).run handler state).result) :
    ((evaluateRulesFrom context warnings (rule :: after)).run handler state).state =
      ((rule.check context).run handler state).state := by
  cases hresult : ((rule.check context).run handler state).result with
  | error failure => exact state_run_bind_of_error hresult
  | ok r =>
    rw [hresult] at hends
    cases hends with
    | denied reason message => exact state_run_bind_of_ok hresult

/-- An evaluation ends where a rule of it denies or fails, if the rules before it pass. -/
theorem state_evaluateRulesFrom_of_ended (after : List (Rule α)) {evaluation : Evaluation}
    (hpassed : ((evaluateRulesFrom context warnings before).run handler state).result =
      .ok evaluation) (hallowed : evaluation.decision.allowed = true)
    (hends : EndsEvaluation ((rule.check context).run handler
      ((evaluateRulesFrom context warnings before).run handler state).state).result) :
    ((evaluateRulesFrom context warnings (before ++ rule :: after)).run handler state).state =
      ((rule.check context).run handler
        ((evaluateRulesFrom context warnings before).run handler state).state).state := by
  -- Over the rules before: each passes, and the rest goes on from where it left the handler.
  induction before generalizing warnings state evaluation with
  | nil => exact state_evaluateRulesFrom_cons_of_ended warnings after hends
  | cons first rest ih =>
    obtain ⟨r, hfirst, hnext⟩ := exists_result_of_bind hpassed
    have hwhole : ((evaluateRulesFrom context warnings (first :: rest)).run handler state).state =
      _ := state_run_bind_of_ok hfirst
    have hlonger : ((evaluateRulesFrom context warnings (first :: rest ++ rule :: after)).run
      handler state).state = _ := state_run_bind_of_ok hfirst
    rw [hwhole] at hends ⊢
    rw [hlonger]
    cases r with
    | deny reason message =>
      -- A denial before would not have passed.
      cases hnext
      cases hallowed
    | allow =>
      obtain ⟨passed, hrest, hsame⟩ := exists_result_of_bind hnext
      cases hsame
      simp only [state_run_map] at hends ⊢
      exact ih hrest hallowed hends
    | warn message =>
      obtain ⟨-, -, hlogged⟩ := exists_result_of_bind hnext
      obtain ⟨passed, hrest, hsame⟩ := exists_result_of_bind hlogged
      cases hsame
      simp only [state_run_record, state_run_map] at hends ⊢
      exact ih hrest hallowed hends

variable {kind : ResourceKind} {request : AdmissionRequest} {admissionReview : Json}
  {resource : Text}

/-- A review leaves the handler where the decision on its request does. -/
theorem state_run_review (hrequest : requestOf admissionReview = .ok request)
    (hdispatch : dispatch request resource = .ok kind) :
    ((review admissionReview resource).run handler state).state =
      ((decideRequest kind request).run handler state).state := by
  rw [review_of_dispatch hrequest hdispatch]
  cases h : ((decideRequest kind request).run handler state).result with
  | ok decision => exact state_run_bind_of_ok h
  | error failure => exact state_run_bind_of_error h

/-- The decision on a request leaves the handler where the rules do. -/
theorem state_run_decideBy {name : String} {decoder : Decoder α} {rules : List (Rule α)}
    {old new : Option α} (hcarried : Carried name decoder request old new) :
    ((decideBy name decoder rules request).run handler state).state =
      ((evaluateRules rules ⟨request.operation, old, new, request.userInfo⟩).run
        handler state).state := by
  rw [decideBy_of_carried rules hcarried, decisionOn, state_run_map]

/-- A review of a cluster asks nothing behind a rule that denies or fails. -/
theorem ClusterRules.state_review_of_ended {old new : Option Cluster}
    {context : RuleContext Cluster} {before after : List (Rule Cluster)} {rule : Rule Cluster}
    {evaluation : Evaluation} (hrequest : requestOf admissionReview = .ok request)
    (hdispatch : dispatch request resource = .ok .cluster)
    (hcarried : Carried "Cluster" Cluster.decode request old new)
    (hcontext : context = ⟨request.operation, old, new, request.userInfo⟩)
    (hrules : all = before ++ rule :: after)
    (hpassed : ((evaluateRules before context).run handler state).result = .ok evaluation)
    (hallowed : evaluation.decision.allowed = true)
    (hends : EndsEvaluation ((rule.check context).run handler
      ((evaluateRules before context).run handler state).state).result) :
    ((review admissionReview resource).run handler state).state =
      ((rule.check context).run handler
        ((evaluateRules before context).run handler state).state).state := by
  have hdecide : decideRequest .cluster request =
      decideBy "Cluster" Cluster.decode all request := rfl
  rw [state_run_review hrequest hdispatch, hdecide, state_run_decideBy hcarried, ← hcontext,
    hrules]
  exact state_evaluateRulesFrom_of_ended after hpassed hallowed hends

end

end AdmissionControl
