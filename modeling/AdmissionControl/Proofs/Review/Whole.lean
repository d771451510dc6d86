/-
  AdmissionControl.Proofs.Review.Whole

  What a review says about whole texts is whole.

  What the rules and the failures quote, they quote with halves of surrogate pairs as escapes.  Only
  two texts of an object are repeated as they are: the names of the resources in its limits, and the
  name of its creator, where the users are out of order.

  `Consultation.Whole P` says of a consultation that on each branch the result has `P`, the message
  of a failure is whole, and so is the text of each question.  Every rule is like this where the
  objects are whole, and so a review is where every text of it is: halves in what it answers are
  halves that it was given, by the review or by a collaborator that failed (`whole_of_review`).
-/

import AdmissionControl.Proofs.Model.Whole
import AdmissionControl.Proofs.Review.Carrying
import AdmissionControl.Proofs.Review.Outage

namespace AdmissionControl

/-! ## Limits -/

/-- The message of a refusal shows the value, with halves as escapes. -/
theorem Quantity.whole_of_parse_eq_refused {value : Json} {cause : QuantityError}
    (h : parse value = .error (.refused cause)) : cause.message.Whole := by
  obtain ⟨kind, hkind, hrefuse⟩ := exists_refuse_of_parse_eq_error h
  unfold refuse at hrefuse
  split at hrefuse
  · cases hrefuse
    simp only [List.mem_cons, List.not_mem_nil, or_false] at hkind
    rcases hkind with rfl | rfl | rfl <;> simp [QuantityError.message]
  · cases hrefuse

namespace Limit

/-- The resources of a limit have whole names. -/
def Whole (limit : Limit) : Prop := ∀ entry ∈ limit, entry.1.Whole

theorem whole_canonicalName {key : Text} (h : key.Whole) : (canonicalName key).Whole := by
  have haliased : ∀ entry ∈ aliases, entry.2.Whole := by decide
  unfold canonicalName
  cases hlookup : aliases.lookup key with
  | none => exact h
  | some name =>
    obtain ⟨before, after, hsplit, -⟩ := List.lookup_eq_some_iff.mp hlookup
    exact haliased (key, name) (hsplit ▸ by simp)

/-- An entry with a whole name is declared under a whole name, or refused with a whole message. -/
theorem whole_of_declare {limit : Limit} {entry : Text × Json} (hentry : entry.1.Whole)
    (hlimit : limit.Whole) :
    (∀ next, declare limit entry = .ok next → next.Whole) ∧
    (∀ cause, declare limit entry = .error (.refused cause) → cause.message.Whole) := by
  have hname := whole_canonicalName hentry
  constructor
  · intro next h
    -- Only the name of the entry is new in the limit.
    rcases declare_cases h with ⟨-, rfl⟩ | ⟨-, -, quantity, -, rfl⟩
    · exact hlimit
    · exact List.forall_mem_append.mpr ⟨hlimit, List.forall_mem_singleton.mpr hname⟩
  · intro cause h
    -- The message names the resource, and then says what is wrong with its value.
    unfold declare at h
    split at h
    · cases h
    · dsimp only at h
      split at h
      · cases h
        simp [QuantityError.message, hname]
      · split at h
        · cases h
        next failure hparse =>
          cases failure with
          | refused cause =>
            cases h
            simp [QuantityError.message, hname, Quantity.whole_of_parse_eq_refused hparse]
          | unshown => cases h

theorem whole_of_foldlM_declare {raw : RawLimit} (hraw : ∀ entry ∈ raw, entry.1.Whole)
    {start : Limit} (hstart : start.Whole) :
    (∀ limit, raw.foldlM declare start = .ok limit → limit.Whole) ∧
    (∀ cause, raw.foldlM declare start = .error (.refused cause) → cause.message.Whole) := by
  induction raw generalizing start with
  | nil =>
    constructor
    · rintro _ ⟨⟩
      exact hstart
    · rintro _ ⟨⟩
  | cons entry rest ih =>
    rw [List.forall_mem_cons] at hraw
    obtain ⟨hdeclared, hfailed⟩ := whole_of_declare hraw.1 hstart
    rw [List.foldlM_cons]
    -- The limit is whole behind each entry, so the next message is.
    cases hentry : declare start entry with
    | ok next => exact ih hraw.2 (hdeclared next hentry)
    | error failure =>
      constructor
      · rintro _ ⟨⟩
      · rintro cause ⟨⟩
        exact hfailed cause hentry

theorem whole_of_mapM_entryText? {listed : Limit} (hlisted : listed.Whole) {parts : List Text}
    (h : listed.mapM entryText? = some parts) : ∀ part ∈ parts, part.Whole := by
  induction listed generalizing parts with
  | nil =>
    cases h
    exact List.forall_mem_nil _
  | cons entry rest ih =>
    obtain ⟨hentry, hrest⟩ := List.forall_mem_cons.mp hlisted
    rw [List.mapM_cons] at h
    obtain ⟨part, hpart, h⟩ := Option.bind_eq_some_iff.mp h
    obtain ⟨more, hmore, h⟩ := Option.bind_eq_some_iff.mp h
    cases h
    -- The text of an entry is its name and digits.
    obtain ⟨_, hquantity, rfl⟩ := Option.map_eq_some_iff.mp hpart
    obtain ⟨quantity, -, hquantity⟩ := Option.bind_eq_some_iff.mp hquantity
    cases hquantity
    exact List.forall_mem_cons.mpr ⟨by simp [hentry], ih hrest hmore⟩

/-- The entries of a limit are listed by their names. -/
theorem Whole.describe? {limit : Limit} (h : limit.Whole) {text : Text}
    (hdescribed : limit.describe? = some text) : text.Whole := by
  rw [describe?_eq] at hdescribed
  obtain ⟨parts, hparts, rfl⟩ := Option.map_eq_some_iff.mp hdescribed
  have hsorted : limit.sorted.Whole := fun entry hentry => h entry (mem_sorted.mp hentry)
  exact Text.whole_intercalate (Text.whole_ofString _) (whole_of_mapM_entryText? hsorted hparts)

theorem Whole.exceeding {inner : Limit} (h : inner.Whole) (outer : Limit) :
    (exceeding outer inner).Whole :=
  fun entry hentry => h entry (List.mem_of_mem_filter hentry)

end Limit

/-- A stored limit of whole texts normalizes to one with whole names, or is refused with a whole
message. -/
theorem StoredLimit.whole_of_normalize {stored : StoredLimit} (h : stored.Passes Json.wholeTexts) :
    (∀ limit, stored.normalize = .ok limit → limit.Whole) ∧
    (∀ cause, stored.normalize = .error (.refused cause) → cause.message.Whole) := by
  refine Limit.whole_of_foldlM_declare (fun entry hentry => ?_) (List.forall_mem_nil _)
  obtain ⟨written, hmem, rfl⟩ := List.mem_map.mp hentry
  exact (h written hmem).1

/-! ## Consultations -/

/-- The message of a failure is whole, if there is one. -/
def Failure.Whole (failure : Failure) : Prop :=
  ∀ message, failure.message? = some message → message.Whole

theorem Failure.whole_of_message {failure : Failure} {message : Text}
    (h : failure.message? = some message) (hmessage : message.Whole) : failure.Whole := by
  intro other hother
  obtain rfl := Option.some.inj (h.symm.trans hother)
  exact hmessage

namespace Consultation

variable {α β : Type} {P : α → Prop} {Q : β → Prop}

/-- On every branch the result has `P`, and the failures are whole, those of the consultation
itself and those that a directory has for its questions. -/
inductive Whole (P : α → Prop) : Consultation α → Prop where
  | ok {a : α} : P a → Whole P (.done (.ok a))
  | error {failure : Failure} : failure.Whole → Whole P (.done (.error failure))
  | log {record : LogRecord} {rest : Consultation α} : Whole P rest → Whole P (.log record rest)
  | ask {query : Query} {next : query.Reply → Consultation α} : query.unavailable.Whole →
      (∀ reply, Whole P (next reply)) → Whole P (.ask query next)

namespace Whole

theorem pure {a : α} (h : P a) : (pure a : Consultation α).Whole P := .ok h

theorem record (level : LogLevel) (message : Text) :
    (record level message).Whole fun _ => True := .log (.ok trivial)

theorem ofExcept {wrap : ε → Failure} {r : Except ε α} (hok : ∀ a, r = .ok a → P a)
    (herror : ∀ e, r = .error e → (wrap e).Whole) : (ofExcept wrap r).Whole P := by
  cases r with
  | ok a => exact .ok (hok a rfl)
  | error e => exact .error (herror e rfl)

theorem bind {c : Consultation α} {f : α → Consultation β} (hc : c.Whole P)
    (hf : ∀ a, P a → (f a).Whole Q) : (c >>= f).Whole Q := by
  show (c.bind f).Whole Q
  induction hc with
  | ok ha => exact hf _ ha
  | error hfailure => exact .error hfailure
  | log _ ih => exact .log ih
  | ask hquery _ ih => exact .ask hquery ih

/-- One question, and then what is done with the reply. -/
theorem asking {query : Query} {f : query.Reply → Consultation β}
    (hquery : query.unavailable.Whole) (hf : ∀ reply, (f reply).Whole Q) :
    (Consultation.ask query Pure.pure >>= f).Whole Q := .ask hquery hf

/-- A run ends with a result that has `P`, with a whole failure, or with that of a question in
which the text is whole. -/
theorem of_run {c : Consultation α} (hc : c.Whole P) (handler : Handler σ) (state : σ) :
    (∀ a, (c.run handler state).result = .ok a → P a) ∧
    (∀ failure, (c.run handler state).result = .error failure → failure.Whole ∨
      ∃ query found, query.unavailable.Whole ∧ (handler query found).reply = .error failure) := by
  induction hc generalizing state with
  | ok ha =>
    constructor
    · rintro _ ⟨⟩
      exact ha
    · rintro _ ⟨⟩
  | error hfailure =>
    constructor
    · rintro _ ⟨⟩
    · rintro _ ⟨⟩
      exact .inl hfailure
  | log _ ih => exact ih state
  | @ask query next hquery _ ih =>
    simp only [run]
    -- A failure of the handler is the second alternative; there is no other way that it comes in.
    cases hreply : (handler query state).reply with
    | ok reply => exact ih reply _
    | error failure =>
      constructor
      · rintro _ ⟨⟩
      · rintro _ ⟨⟩
        exact .inr ⟨query, state, hquery, hreply⟩

end Whole

end Consultation

open Consultation

/-! ## Rules -/

/-- The message of a denial or a warning is whole. -/
def RuleResult.Whole (r : RuleResult) : Prop := r.message.Whole

/-- The message and the warnings of a decision are whole. -/
structure Decision.Whole (decision : Decision) : Prop where
  message : decision.message.Whole
  warnings : ∀ warning ∈ decision.warnings, warning.Whole

theorem RuleResult.whole_allow : RuleResult.allow.Whole := Text.whole_ofString ""

section

variable {α : Type} {P : α → Prop} {context : RuleContext α}

theorem whole_requireOld (hcontext : context.All P) : context.requireOld.Whole P := by
  unfold RuleContext.requireOld
  split
  next object hobject => exact .pure (hcontext.old object hobject)
  next => exact .error (by rintro _ ⟨⟩)

theorem whole_requireNew (hcontext : context.All P) : context.requireNew.Whole P := by
  unfold RuleContext.requireNew
  split
  next object hobject => exact .pure (hcontext.new object hobject)
  next => exact .error (by rintro _ ⟨⟩)

/-- Rules that say nothing but whole texts come to a whole decision. -/
theorem whole_evaluateRulesFrom {rules : List (Rule α)}
    (hrules : ∀ rule ∈ rules, (rule.check context).Whole RuleResult.Whole)
    {warnings : List Text} (hwarnings : ∀ warning ∈ warnings, warning.Whole) :
    (evaluateRulesFrom context warnings rules).Whole fun e => e.decision.Whole := by
  induction rules generalizing warnings with
  | nil => exact .pure ⟨Text.whole_ofString "", hwarnings⟩
  | cons rule rest ih =>
    rw [List.forall_mem_cons] at hrules
    refine .bind hrules.1 fun r hr => ?_
    -- The message of a denial is that of its rule, and so is each warning.
    cases r with
    | allow => exact .bind (ih hrules.2 hwarnings) fun _ he => .pure he
    | deny reason message => exact .bind (.record _ _) fun _ _ => .pure ⟨hr, hwarnings⟩
    | warn message =>
      have hmore : ∀ warning ∈ warnings ++ [message], warning.Whole :=
        List.forall_mem_append.mpr ⟨hwarnings, List.forall_mem_singleton.mpr hr⟩
      exact .bind (.record _ _) fun _ _ => .bind (ih hrules.2 hmore) fun _ he => .pure he

end

/-! ## The rules for clusters -/

/-- The annotations of a cluster are whole. -/
def Cluster.Whole (cluster : Cluster) : Prop := cluster.Passes Json.wholeTexts

theorem Cluster.Whole.annotation {cluster : Cluster} (h : cluster.Whole) {key value : Text}
    (hvalue : cluster.annotationValue? key = some value) : value.Whole := by
  obtain ⟨before, after, hsplit, -⟩ := List.lookup_eq_some_iff.mp hvalue
  exact h (key, value) (hsplit ▸ by simp)

namespace ClusterRules

variable {context : RuleContext Cluster}

theorem whole_fleetWorkspaceUnset (hcontext : context.All Cluster.Whole) :
    (fleetWorkspaceUnset context).Whole RuleResult.Whole := by
  unfold fleetWorkspaceUnset
  split
  · exact .pure RuleResult.whole_allow
  · refine .bind (whole_requireOld hcontext) fun old _ => ?_
    split
    · exact .pure RuleResult.whole_allow
    · refine .bind (whole_requireNew hcontext) fun new _ => ?_
      split
      · exact .pure RuleResult.whole_allow
      · exact .pure (Text.whole_ofString _)

theorem whole_fleetWorkspacePermission (hcontext : context.All Cluster.Whole) :
    (fleetWorkspacePermission context).Whole RuleResult.Whole := by
  unfold fleetWorkspacePermission
  split
  · exact .pure RuleResult.whole_allow
  · refine .bind (whole_requireNew hcontext) fun new _ => ?_
    dsimp only
    split
    · exact .pure RuleResult.whole_allow
    · split
      · exact .pure RuleResult.whole_allow
      · -- The question names the verb, and the denial quotes the rest.
        have hquestion : (Query.unavailable (.access
            ⟨context.user, addClusterVerb, workspaceResource new.workspace⟩)).Whole :=
          Failure.whole_of_message rfl (by simp [addClusterVerb])
        refine .asking hquestion fun granted => ?_
        split
        · exact .pure RuleResult.whole_allow
        · exact .pure (by simp [RuleResult.Whole, RuleResult.message])

theorem whole_creatorAnnotationsImmutable (hcontext : context.All Cluster.Whole) :
    (creatorAnnotationsImmutable context).Whole RuleResult.Whole := by
  unfold creatorAnnotationsImmutable
  split
  · exact .pure RuleResult.whole_allow
  · refine .bind (whole_requireOld hcontext) fun old _ => ?_
    refine .bind (whole_requireNew hcontext) fun new _ => ?_
    dsimp only
    split
    next annotation hfound =>
      have hnames : ∀ name ∈ [creatorId, creatorPrincipalName], name.Whole := by decide
      have hname := hnames annotation (List.mem_of_find?_eq_some hfound)
      exact .pure (by simp [RuleResult.Whole, RuleResult.message, hname])
    next => exact .pure RuleResult.whole_allow

theorem whole_creatorReference (hcontext : context.All Cluster.Whole) :
    (creatorReference context).Whole RuleResult.Whole := by
  unfold creatorReference
  split
  · exact .pure RuleResult.whole_allow
  · refine .bind (whole_requireNew hcontext) fun new hnew => ?_
    dsimp only
    split
    · exact .pure (by simp [RuleResult.Whole, RuleResult.message, creatorPrincipalName, creatorId])
    · split
      · exact .pure RuleResult.whole_allow
      · -- Where the users are out of order, the failure names the creator as it is written.
        have hcreator : ((new.annotationValue? creatorId).getD "").Whole := by
          cases hvalue : new.annotationValue? creatorId with
          | none => exact Text.whole_ofString ""
          | some value => exact hnew.annotation hvalue
        have hquestion : (Query.unavailable
            (.user ((new.annotationValue? creatorId).getD ""))).Whole :=
          Failure.whole_of_message rfl (by simp [hcreator])
        refine .asking hquestion fun found => ?_
        split
        · exact .pure (by simp [RuleResult.Whole, RuleResult.message, creatorId])
        · split
          · exact .pure (by simp [RuleResult.Whole, RuleResult.message, creatorPrincipalName])
          · exact .pure RuleResult.whole_allow

theorem whole_noCreatorRbacImmutable (hcontext : context.All Cluster.Whole) :
    (noCreatorRbacImmutable context).Whole RuleResult.Whole := by
  unfold noCreatorRbacImmutable
  split
  · exact .pure RuleResult.whole_allow
  · refine .bind (whole_requireOld hcontext) fun old _ => ?_
    refine .bind (whole_requireNew hcontext) fun new _ => ?_
    dsimp only
    split
    · exact .pure RuleResult.whole_allow
    · exact .pure (by simp [RuleResult.Whole, RuleResult.message, noCreatorRbac])

theorem whole_noCreatorRbacWithCreator (hcontext : context.All Cluster.Whole) :
    (noCreatorRbacWithCreator context).Whole RuleResult.Whole := by
  unfold noCreatorRbacWithCreator
  split
  · exact .pure RuleResult.whole_allow
  · refine .bind (whole_requireNew hcontext) fun new _ => ?_
    dsimp only
    split
    · exact .pure (by simp [RuleResult.Whole, RuleResult.message, creatorId, noCreatorRbac])
    · exact .pure RuleResult.whole_allow

theorem whole_managedVersion {driver : Text} (hdriver : managedDrivers.contains driver = true)
    (operation : Operation) (old new : Option Text) :
    (managedVersion operation driver old new).Whole := by
  -- The messages hold the driver, the name of the annotation and its values, all of them known.
  have hdrivers : ∀ name ∈ managedDrivers, name.Whole := by decide
  have hdriver := hdrivers driver (by simpa using hdriver)
  have hchoices : versionManagementChoices.Whole := by decide
  unfold managedVersion
  split
  · split
    · simp [RuleResult.Whole, RuleResult.message, versionManagement, hdriver]
    · split
      · simp [RuleResult.Whole, RuleResult.message, versionManagement]
      · exact RuleResult.whole_allow
  · split
    · exact RuleResult.whole_allow
    · split
      · exact RuleResult.whole_allow
      · simp [RuleResult.Whole, RuleResult.message, versionManagement, hchoices]

theorem whole_unmanagedVersion (driver : Text) (value : Option Text) :
    (unmanagedVersion driver value).Whole := by
  have hchoices : versionManagementChoices.Whole := by decide
  unfold unmanagedVersion
  split
  · exact RuleResult.whole_allow
  · split <;> simp [RuleResult.Whole, RuleResult.message, versionManagement, hchoices]

theorem whole_versionManagementChecked : versionManagementChecked.Whole fun _ => True := by
  have hquestion : (Query.unavailable (.setting versionManagementSetting)).Whole :=
    Failure.whole_of_message rfl (by simp [versionManagementSetting])
  refine .asking hquestion fun found => ?_
  split
  · exact .pure trivial
  · exact .bind (.record _ _) fun _ _ => .pure trivial

theorem whole_versionManagementRule (hcontext : context.All Cluster.Whole) :
    (versionManagementRule context).Whole RuleResult.Whole := by
  unfold versionManagementRule
  split
  · exact .pure RuleResult.whole_allow
  · refine .bind whole_versionManagementChecked fun checked _ => ?_
    split
    · exact .pure RuleResult.whole_allow
    · refine .bind (whole_requireNew hcontext) fun new _ => ?_
      dsimp only
      split
      next hdriver => exact .pure (whole_managedVersion hdriver _ _ _)
      next => exact .pure (whole_unmanagedVersion _ _)

theorem whole_check (hcontext : context.All Cluster.Whole) :
    ∀ rule ∈ all, (rule.check context).Whole RuleResult.Whole := by
  simp only [all, List.forall_mem_cons]
  exact ⟨whole_fleetWorkspaceUnset hcontext, whole_fleetWorkspacePermission hcontext,
    whole_creatorAnnotationsImmutable hcontext, whole_creatorReference hcontext,
    whole_noCreatorRbacImmutable hcontext, whole_noCreatorRbacWithCreator hcontext,
    whole_versionManagementRule hcontext, List.forall_mem_nil _⟩

end ClusterRules

/-! ## The rules for projects -/

/-- The texts in the limits of a project are whole. -/
def Project.Whole (project : Project) : Prop := project.Passes Json.wholeTexts

namespace ProjectRules

variable {context : RuleContext Project}

theorem whole_normalized {limit : StoredLimit} (h : limit.Passes Json.wholeTexts) :
    (normalized limit).Whole Limit.Whole := by
  obtain ⟨hnormalized, hrefused⟩ := StoredLimit.whole_of_normalize h
  refine .ofExcept hnormalized fun failure hfailure => ?_
  cases failure with
  | refused cause => exact Failure.whole_of_message rfl (hrefused cause hfailure)
  | unshown => exact fun _ hmessage => by cases hmessage

/-- The quotas that a request brings have whole names. -/
theorem whole_quotas (hcontext : context.All Project.Whole) : (quotas context).Whole fun pair =>
    (∀ quota, pair.1 = some quota → quota.limit.Passes Json.wholeTexts) ∧
    (∀ quota, pair.2 = some quota → quota.limit.Passes Json.wholeTexts) := by
  unfold quotas
  split
  · exact .pure ⟨by rintro _ ⟨⟩, by rintro _ ⟨⟩⟩
  · refine .bind (whole_requireNew hcontext) fun new hnew => ?_
    exact .pure ⟨hnew.limit, hnew.namespaceLimit⟩

/-- Of two limits with whole names, what exceeds its bound is denied with a whole message. -/
theorem whole_denyExceeding {intro : Text} (hintro : intro.Whole) {outer inner : StoredLimit}
    (houter : outer.Passes Json.wholeTexts) (hinner : inner.Passes Json.wholeTexts) :
    (ProjectRules.exceeding outer inner >>= denyExceeding intro).Whole RuleResult.Whole := by
  -- What exceeds has names of the inner limit, and the message lists them.
  have hexceeding : (ProjectRules.exceeding outer inner).Whole Limit.Whole :=
    .bind (whole_normalized houter) fun bounds _ =>
      .bind (whole_normalized hinner) fun declared hdeclared => .pure (hdeclared.exceeding bounds)
  refine .bind hexceeding fun exceeded hexceeded => ?_
  unfold denyExceeding
  split
  · exact .pure RuleResult.whole_allow
  · have hdescribe : (describe exceeded).Whole Text.Whole := by
      unfold describe
      split
      next text htext => exact .pure (hexceeded.describe? htext)
      next => exact .error (by rintro _ ⟨⟩)
    exact .bind hdescribe fun listed hlisted =>
      .pure (by simp [RuleResult.Whole, RuleResult.message, hintro, hlisted])

theorem whole_systemProjectDelete (hcontext : context.All Project.Whole) :
    (systemProjectDelete context).Whole RuleResult.Whole := by
  unfold systemProjectDelete
  split
  · exact .pure RuleResult.whole_allow
  · refine .bind (whole_requireOld hcontext) fun old _ => ?_
    split
    · exact .pure (Text.whole_ofString _)
    · exact .pure RuleResult.whole_allow

theorem whole_quotaFieldsPresent (hcontext : context.All Project.Whole) :
    (quotaFieldsPresent context).Whole RuleResult.Whole := by
  refine .bind (whole_quotas hcontext) fun pair _ => ?_
  split
  · exact .pure (by simp [RuleResult.Whole, RuleResult.message, path, projectQuotaField,
      namespaceQuotaField])
  · exact .pure (by simp [RuleResult.Whole, RuleResult.message, path, projectQuotaField,
      namespaceQuotaField])
  · exact .pure RuleResult.whole_allow

theorem whole_compareResources {project : Limit} (hproject : project.Whole)
    (namespaceDefault : Limit) : (compareResources project namespaceDefault).Whole := by
  unfold compareResources
  split
  · simp [RuleResult.Whole, RuleResult.message, path, projectQuotaField]
  · split
    next name hmissing =>
      -- The name that is missing is one of the names in the project's limit.
      obtain ⟨entry, hentry, rfl⟩ := List.mem_map.mp (List.mem_of_find?_eq_some hmissing)
      have hname := hproject entry (Limit.mem_sorted.mp hentry)
      simp [RuleResult.Whole, RuleResult.message, path, projectQuotaField, namespaceQuotaField,
        hname]
    next => exact RuleResult.whole_allow

theorem whole_quotaResourcesMatch (hcontext : context.All Project.Whole) :
    (quotaResourcesMatch context).Whole RuleResult.Whole := by
  refine .bind (whole_quotas hcontext) fun pair hpair => ?_
  split
  next project namespaceDefault =>
    refine .bind (whole_normalized (hpair.1 project rfl)) fun bounds hbounds => ?_
    refine .bind (whole_normalized (hpair.2 namespaceDefault rfl)) fun declared _ => ?_
    exact .pure (whole_compareResources hbounds declared)
  next => exact .pure RuleResult.whole_allow

theorem whole_namespaceQuotaFits (hcontext : context.All Project.Whole) :
    (namespaceQuotaFits context).Whole RuleResult.Whole := by
  refine .bind (whole_quotas hcontext) fun pair hpair => ?_
  split
  next project namespaceDefault =>
    exact whole_denyExceeding (by simp [path, namespaceQuotaField]) (hpair.1 project rfl)
      (hpair.2 namespaceDefault rfl)
  next => exact .pure RuleResult.whole_allow

theorem whole_usedQuotaFits (hcontext : context.All Project.Whole) :
    (usedQuotaFits context).Whole RuleResult.Whole := by
  unfold usedQuotaFits
  split
  · exact .pure RuleResult.whole_allow
  · refine .bind (whole_requireOld hcontext) fun old hold => ?_
    split
    · exact .pure RuleResult.whole_allow
    next oldQuota hquota =>
      refine .bind (whole_quotas hcontext) fun pair hpair => ?_
      split
      · exact .pure RuleResult.whole_allow
      next project _ =>
        exact whole_denyExceeding (by simp [path, projectQuotaField]) (hpair.1 project rfl)
          (hold.usedLimit oldQuota hquota)

theorem whole_check (hcontext : context.All Project.Whole) :
    ∀ rule ∈ all, (rule.check context).Whole RuleResult.Whole := by
  simp only [all, List.forall_mem_cons]
  exact ⟨whole_systemProjectDelete hcontext, whole_quotaFieldsPresent hcontext,
    whole_quotaResourcesMatch hcontext, whole_namespaceQuotaFits hcontext,
    whole_usedQuotaFits hcontext, List.forall_mem_nil _⟩

end ProjectRules

/-! ## Reviews -/

open Decoder (FromLeaves)

theorem Operation.whole_name (operation : Operation) : operation.name.Whole := by
  cases operation <;> exact Text.whole_ofString _

theorem Failure.OfDecoding.whole {failure : Failure} (h : failure.OfDecoding) : failure.Whole := by
  cases h with
  | undecodable subject report => exact Failure.whole_of_message rfl (by simp)
  | noObject operation kind =>
    exact Failure.whole_of_message rfl (by simp [operation.whole_name])
  | noOldObject operation kind =>
    exact Failure.whole_of_message rfl (by simp [operation.whole_name])

section

variable {α : Type} {P : α → Prop} {name : String} {decoder : Decoder α}
  {request : AdmissionRequest} {admissionReview : Json}

theorem whole_decideBy {rules : List (Rule α)} (hdecoder : FromLeaves Json.wholeTexts P decoder)
    (hrules : ∀ context : RuleContext α, context.All P →
      ∀ rule ∈ rules, (rule.check context).Whole RuleResult.Whole)
    (hrequest : request.Passes Json.wholeTexts) :
    (decideBy name decoder rules request).Whole Decision.Whole := by
  by_cases hoperation : hasRules request.operation = true
  · cases hcontext : ruleContext name decoder request with
    | error failure =>
      rw [decideBy, if_pos hoperation, hcontext]
      exact .error (ofDecoding_of_ruleContext hcontext).whole
    | ok context =>
      have hcarried := carried_of_ruleContext hoperation hcontext
      rw [decideBy_of_carried rules hcarried]
      -- What the operation carries is whole, as the request is.
      have hobjects := hcarried.all hdecoder hrequest request.userInfo
      exact .bind (whole_evaluateRulesFrom (hrules _ hobjects) (List.forall_mem_nil _))
        fun _ he => .pure he
  · rw [decideBy, if_neg hoperation]
    exact .pure ⟨Text.whole_ofString "", List.forall_mem_nil _⟩

theorem whole_decideRequest (kind : ResourceKind) (hrequest : request.Passes Json.wholeTexts) :
    (decideRequest kind request).Whole Decision.Whole := by
  cases kind with
  | cluster =>
    exact whole_decideBy Cluster.fromLeaves_decode (fun _ => ClusterRules.whole_check) hrequest
  | project =>
    exact whole_decideBy (Project.fromLeaves_decode fun _ => rfl)
      (fun _ => ProjectRules.whole_check) hrequest

theorem whole_evaluateRequest (hrequest : request.Passes Json.wholeTexts) (resource : Text) :
    (evaluateRequest request resource).Whole Decision.Whole := by
  have hdispatch : (ofExcept id (dispatch request resource)).Whole fun _ => True := by
    refine .ofExcept (fun _ _ => trivial) fun failure h => ?_
    unfold dispatch at h
    dsimp only at h
    split at h
    · cases h
    · cases h
      exact Failure.whole_of_message rfl (by simp)
  refine .bind hdispatch fun kind _ => ?_
  refine .bind (whole_decideRequest kind hrequest) fun decision h => ?_
  exact .bind (.record _ _) fun _ _ => .pure h

/-- The request of a whole review is whole. -/
theorem whole_requestOf (h : admissionReview.isEncodable = true) :
    (ofExcept id (requestOf admissionReview)).Whole (AdmissionRequest.Passes Json.wholeTexts) := by
  refine .ofExcept (fun request hrequest => passes_of_requestOf rfl h hrequest)
    fun failure hfailure => ?_
  unfold requestOf at hfailure
  split at hfailure
  · split at hfailure
    · cases hfailure
    · cases hfailure
      exact Failure.whole_of_message rfl (by simp)
  · cases hfailure
    exact Failure.whole_of_message rfl (Text.whole_ofString _)

/-- A whole decision on a whole request can be sent. -/
theorem Decision.Whole.respond {decision : Decision} (h : decision.Whole) {uid : Text}
    (huid : uid.Whole) : (decision.respond uid).toJson.isEncodable = true := by
  rw [ReviewResponse.isEncodable_toJson]
  refine ⟨huid, fun status hstatus => ?_, h.warnings⟩
  rw [Decision.respond] at hstatus
  split at hstatus
  · cases hstatus
  · cases hstatus
    exact h.message

/-- A review whose texts are whole responds with what can be sent, or fails with a whole message,
unless it is that of a failed question, in which the text is whole as well. -/
theorem whole_of_review (h : admissionReview.isEncodable = true) (resource : Text)
    (handler : Handler σ) (state : σ) :
    (∀ response, ((review admissionReview resource).run handler state).result = .ok response →
      response.toJson.isEncodable = true) ∧
    (∀ failure, ((review admissionReview resource).run handler state).result = .error failure →
      failure.Whole ∨
        ∃ query found, query.unavailable.Whole ∧ (handler query found).reply = .error failure) := by
  have hreview : (review admissionReview resource).Whole
      fun response => response.toJson.isEncodable = true :=
    .bind (whole_requestOf h) fun _ hrequest =>
      .bind (whole_evaluateRequest hrequest resource) fun _ hdecision =>
        .pure (hdecision.respond hrequest.uid)
  exact hreview.of_run handler state

end

end AdmissionControl
