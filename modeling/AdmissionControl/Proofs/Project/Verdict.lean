/-
  AdmissionControl.Proofs.Project.Verdict

  The reference specification of project admission.

  `ProjectVerdict` says case by case what a request to create or to update a project comes to, from
  the limits that its quotas normalize to.  Its cases speak of sets of names and of entries above
  their bounds; the rules compare numbers of entries, look for a first missing name, and filter
  lists.  Every request has a verdict (`exists_projectVerdict`), and the rules settle a request
  to its verdict (`settle_of_projectVerdict`); so the decision is the verdict, and no other
  (`project_decision_iff_verdict`).

  A limit that does not normalize ends the request with its own failure.  This is a refusal, unless
  an integer in the limit has no text for the message (`ProjectVerdict.ne_unshown`).
-/

import AdmissionControl.Proofs.Evaluation
import AdmissionControl.Proofs.Limit.Exceeding
import AdmissionControl.Proofs.Limit.Stored

namespace AdmissionControl

/-! ## Limits of a project -/

namespace Project

/-- The limit of a project's quota, normalized; none where the quota is null. -/
def limit? (project : Project) : Option (Except QuantityFailure Limit) :=
  project.spec.resourceQuota.map fun quota => quota.limit.normalize

/-- The limit of the quota for new namespaces, normalized. -/
def namespaceLimit? (project : Project) : Option (Except QuantityFailure Limit) :=
  project.spec.namespaceDefaultResourceQuota.map fun quota => quota.limit.normalize

/-- How much of a project's quota is used, normalized. -/
def usedLimit? (project : Project) : Option (Except QuantityFailure Limit) :=
  project.spec.resourceQuota.map fun quota => quota.usedLimit.normalize

end Project

namespace ProjectRules

open Limit

/-! ## Verdicts -/

/-- What is said when two quotas do not declare the same resources: that their numbers differ, or
else which one is missing, the first in the order of code points. -/
inductive TellsDifference (bounds defaults : Limit) : Text → Prop where
  | number : bounds.length ≠ defaults.length → TellsDifference bounds defaults
      (path projectQuotaField ++ ": Invalid value: " ++
        "resource quota and namespace default quota do not have the same resources defined")
  | missing {name : Text} : bounds.length = defaults.length →
      name ∈ bounds.names → name ∉ defaults.names →
      (∀ other ∈ bounds.names, other ∉ defaults.names → name ≤ other) →
      TellsDifference bounds defaults
        (path namespaceQuotaField ++ ": Invalid value: " ++
          "missing namespace default for resource " ++ name ++ " defined on " ++
          projectQuotaField)

/-- What a request for the project `new` comes to, over the project `old` when it is an update. -/
inductive ProjectVerdict (old : Option Project) (new : Project) :
    Except Failure Decision → Prop where
  /-- Without quotas there is nothing to check. -/
  | noQuotas : new.limit? = none → new.namespaceLimit? = none →
      ProjectVerdict old new (.ok (.allow []))
  /-- Either quota requires the other. -/
  | projectQuotaMissing : new.limit? = none → new.namespaceLimit? ≠ none →
      ProjectVerdict old new (.ok (.deny .badRequest
        (path projectQuotaField ++ ": Required value: required when " ++ namespaceQuotaField ++
          " is set") []))
  | namespaceQuotaMissing : new.limit? ≠ none → new.namespaceLimit? = none →
      ProjectVerdict old new (.ok (.deny .badRequest
        (path namespaceQuotaField ++ ": Required value: required when " ++ projectQuotaField ++
          " is set") []))
  /-- A limit of the new project does not normalize. -/
  | limitUnreadable {failure : QuantityFailure} : new.limit? = some (.error failure) →
      new.namespaceLimit? ≠ none → ProjectVerdict old new (.error (.ofQuantity failure))
  | namespaceLimitUnreadable {bounds : Limit} {failure : QuantityFailure} :
      new.limit? = some (.ok bounds) → new.namespaceLimit? = some (.error failure) →
      ProjectVerdict old new (.error (.ofQuantity failure))
  /-- The sets of resources differ. -/
  | resourcesDiffer {bounds defaults : Limit} {message : Text} :
      new.limit? = some (.ok bounds) → new.namespaceLimit? = some (.ok defaults) →
      ¬ SameNames bounds defaults → TellsDifference bounds defaults message →
      ProjectVerdict old new (.ok (.deny .badRequest message []))
  /-- A default is above the project's limit. -/
  | defaultsExceed {bounds defaults : Limit} {listed : Text} :
      new.limit? = some (.ok bounds) → new.namespaceLimit? = some (.ok defaults) →
      SameNames bounds defaults → (∃ name quantity, Exceeds bounds defaults name quantity) →
      ListsExceeded bounds defaults listed →
      ProjectVerdict old new (.ok (.deny .forbidden
        (path namespaceQuotaField ++ ": Forbidden: " ++
          "namespace default quota limit exceeds project limit on fields: " ++ listed) []))
  /-- The quotas fit, and there was no quota before. -/
  | noUsage {bounds defaults : Limit} :
      new.limit? = some (.ok bounds) → new.namespaceLimit? = some (.ok defaults) →
      SameNames bounds defaults → (¬ ∃ name quantity, Exceeds bounds defaults name quantity) →
      old.bind Project.usedLimit? = none → ProjectVerdict old new (.ok (.allow []))
  /-- The quotas fit, but what was used before does not normalize. -/
  | usageUnreadable {bounds defaults : Limit} {failure : QuantityFailure} :
      new.limit? = some (.ok bounds) → new.namespaceLimit? = some (.ok defaults) →
      SameNames bounds defaults → (¬ ∃ name quantity, Exceeds bounds defaults name quantity) →
      old.bind Project.usedLimit? = some (.error failure) →
      ProjectVerdict old new (.error (.ofQuantity failure))
  /-- More was used before than the new limit. -/
  | usageExceeds {bounds defaults used : Limit} {listed : Text} :
      new.limit? = some (.ok bounds) → new.namespaceLimit? = some (.ok defaults) →
      SameNames bounds defaults → (¬ ∃ name quantity, Exceeds bounds defaults name quantity) →
      old.bind Project.usedLimit? = some (.ok used) →
      (∃ name quantity, Exceeds bounds used name quantity) → ListsExceeded bounds used listed →
      ProjectVerdict old new (.ok (.deny .forbidden
        (path projectQuotaField ++ ": Forbidden: " ++
          "resourceQuota is below the used limit on fields: " ++ listed) []))
  | usageFits {bounds defaults used : Limit} :
      new.limit? = some (.ok bounds) → new.namespaceLimit? = some (.ok defaults) →
      SameNames bounds defaults → (¬ ∃ name quantity, Exceeds bounds defaults name quantity) →
      old.bind Project.usedLimit? = some (.ok used) →
      (¬ ∃ name quantity, Exceeds bounds used name quantity) →
      ProjectVerdict old new (.ok (.allow []))

/-! ## The first missing name -/

variable {bounds defaults : Limit}

theorem mem_sorted_names (name : Text) :
    name ∈ bounds.sorted.map Prod.fst ↔ name ∈ bounds.names :=
  ((List.mergeSort_perm bounds _).map Prod.fst).mem_iff

theorem firstMissing_eq_some {name : Text} (hbounds : Normal bounds)
    (h : firstMissing bounds defaults = some name) :
    name ∈ bounds.names ∧ name ∉ defaults.names ∧
      ∀ other ∈ bounds.names, other ∉ defaults.names → name ≤ other := by
  have hsorted : (bounds.sorted.map Prod.fst).Pairwise (· ≤ ·) :=
    List.pairwise_map.mpr (hbounds.sorted_ascending.imp fun hab => hab.1)
  -- The names are searched in their order, so what matters is where another name stands.
  obtain ⟨hmissing, before, after, hsplit, hbefore⟩ := List.find?_eq_some_iff_append.mp h
  rw [Option.isNone_iff_eq_none, lookup_eq_none] at hmissing
  refine ⟨(mem_sorted_names name).mp (by rw [hsplit]; simp), hmissing, ?_⟩
  intro other hother habsent
  rw [← mem_sorted_names, hsplit, List.mem_append, List.mem_cons] at hother
  rcases hother with hother | rfl | hother
  · -- A name before the found one is declared on both sides, so it is not missing.
    have hdeclared := hbefore other hother
    rw [Bool.not_eq_true', Option.isNone_eq_false_iff, Option.isSome_iff_ne_none, ne_eq,
      lookup_eq_none] at hdeclared
    exact absurd habsent hdeclared
  · exact (Text.le_total other other).elim id id
  · -- A name behind it is not less, as the names are sorted.
    rw [hsplit] at hsorted
    exact (List.pairwise_cons.mp (List.pairwise_append.mp hsorted).2.1).1 other hother

theorem firstMissing_eq_none :
    firstMissing bounds defaults = none ↔ ∀ name ∈ bounds.names, name ∈ defaults.names := by
  rw [firstMissing, List.find?_eq_none]
  refine forall_congr' fun name => ?_
  rw [mem_sorted_names, Option.isNone_iff_eq_none, lookup_eq_none, not_not]

theorem compareResources_of_sameNames (hbounds : Normal bounds) (hdefaults : Normal defaults)
    (h : SameNames bounds defaults) : compareResources bounds defaults = .allow := by
  obtain ⟨hlength, hsubset⟩ := (sameNames_iff hbounds hdefaults).mp h
  rw [compareResources, if_neg (not_not.mpr hlength), firstMissing_eq_none.mpr hsubset]

theorem compareResources_of_tellsDifference {message : Text} (hbounds : Normal bounds)
    (h : TellsDifference bounds defaults message) :
    compareResources bounds defaults = .deny .badRequest message := by
  cases h with
  | number hlength => rw [compareResources, if_pos hlength]
  | missing hlength hdeclared hmissing hleast =>
    rename_i name
    rw [compareResources, if_neg (not_not.mpr hlength)]
    cases hfirst : firstMissing bounds defaults with
    | none => exact absurd (firstMissing_eq_none.mp hfirst name hdeclared) hmissing
    | some first =>
      -- Both names are the least missing one.
      obtain ⟨hdeclared', hmissing', hleast'⟩ := firstMissing_eq_some hbounds hfirst
      rw [Text.le_antisymm (hleast first hdeclared' hmissing')
        (hleast' name hdeclared hmissing)]

theorem exists_tellsDifference (hbounds : Normal bounds) (hdefaults : Normal defaults)
    (h : ¬ SameNames bounds defaults) : ∃ message, TellsDifference bounds defaults message := by
  by_cases hlength : bounds.length = defaults.length
  · cases hfirst : firstMissing bounds defaults with
    | none =>
      exact absurd ((sameNames_iff hbounds hdefaults).mpr
        ⟨hlength, firstMissing_eq_none.mp hfirst⟩) h
    | some name =>
      obtain ⟨hdeclared, hmissing, hleast⟩ := firstMissing_eq_some hbounds hfirst
      exact ⟨_, .missing hlength hdeclared hmissing hleast⟩
  · exact ⟨_, .number hlength⟩

/-! ## The results of the rules -/

variable (answers : Answers) {operation : Operation} {old : Option Project} {new : Project}
  {user : UserInfo} {limit : Except QuantityFailure Limit}

theorem eq_normalize_of_limit? (h : new.limit? = some limit) :
    ∃ quota, new.spec.resourceQuota = some quota ∧ quota.limit.normalize = limit :=
  Option.map_eq_some_iff.mp h

theorem eq_normalize_of_namespaceLimit? (h : new.namespaceLimit? = some limit) :
    ∃ quota, new.spec.namespaceDefaultResourceQuota = some quota ∧
      quota.limit.normalize = limit :=
  Option.map_eq_some_iff.mp h

theorem eq_none_of_limit? (h : new.limit? = none) : new.spec.resourceQuota = none :=
  Option.map_eq_none_iff.mp h

theorem eq_none_of_namespaceLimit? (h : new.namespaceLimit? = none) :
    new.spec.namespaceDefaultResourceQuota = none :=
  Option.map_eq_none_iff.mp h

theorem normal_of_limit? {bounds : Limit} (h : new.limit? = some (.ok bounds)) :
    Normal bounds := by
  obtain ⟨quota, -, hquota⟩ := eq_normalize_of_limit? h
  exact StoredLimit.normal_of_normalize hquota

theorem normal_of_namespaceLimit? {defaults : Limit}
    (h : new.namespaceLimit? = some (.ok defaults)) : Normal defaults := by
  obtain ⟨quota, -, hquota⟩ := eq_normalize_of_namespaceLimit? h
  exact StoredLimit.normal_of_normalize hquota

theorem normal_of_usedLimit? {used : Limit}
    (h : old.bind Project.usedLimit? = some (.ok used)) : Normal used := by
  obtain ⟨project, -, hproject⟩ := Option.bind_eq_some_iff.mp h
  obtain ⟨quota, -, hquota⟩ := Option.map_eq_some_iff.mp hproject
  exact StoredLimit.normal_of_normalize hquota

theorem result_quotas {project : Option ProjectQuota}
    {namespaceDefault : Option NamespaceQuota} (hop : operation ≠ .delete)
    (hproject : new.spec.resourceQuota = project)
    (hnamespace : new.spec.namespaceDefaultResourceQuota = namespaceDefault) :
    (quotas ⟨operation, old, some new, user⟩).result answers =
      .ok (project, namespaceDefault) := by
  simp [quotas, hop, RuleContext.requireNew, hproject, hnamespace]

theorem result_systemProjectDelete (hop : operation ≠ .delete) :
    (systemProjectDelete ⟨operation, old, some new, user⟩).result answers = .ok .allow := by
  simp [systemProjectDelete, hop]

/-- Nothing is said where no entry is above its bound. -/
theorem result_denyExceeding_of_fits {outer inner : Limit} (intro : Text) (houter : Normal outer)
    (h : ¬ ∃ name quantity, Exceeds outer inner name quantity) :
    (denyExceeding intro (Limit.exceeding outer inner)).result answers = .ok .allow := by
  rw [denyExceeding, if_pos ((exceeding_isEmpty houter).mpr h)]
  rfl

/-- Entries above their bounds are denied with the text that lists them. -/
theorem result_denyExceeding_of_exceeds {outer inner : Limit} {listed : Text} (intro : Text)
    (houter : Normal outer) (hinner : Normal inner)
    (h : ∃ name quantity, Exceeds outer inner name quantity)
    (hlisted : ListsExceeded outer inner listed) :
    (denyExceeding intro (Limit.exceeding outer inner)).result answers =
      .ok (.deny .forbidden (intro ++ listed)) := by
  have hnotempty : ¬ (Limit.exceeding outer inner).isEmpty = true :=
    fun hempty => (exceeding_isEmpty houter).mp hempty h
  rw [denyExceeding, if_neg hnotempty, describe,
    (describe?_exceeding_iff houter hinner).mpr hlisted]
  rfl

variable {bounds defaults used : Limit} {failure : QuantityFailure}

theorem result_quotaResourcesMatch (hop : operation ≠ .delete)
    (hbounds : new.limit? = some (.ok bounds))
    (hdefaults : new.namespaceLimit? = some (.ok defaults)) :
    (quotaResourcesMatch ⟨operation, old, some new, user⟩).result answers =
      .ok (compareResources bounds defaults) := by
  obtain ⟨project, hproject, hlimit⟩ := eq_normalize_of_limit? hbounds
  obtain ⟨namespaceDefault, hnamespace, hdefault⟩ := eq_normalize_of_namespaceLimit? hdefaults
  rw [quotaResourcesMatch, Consultation.result_bind, result_quotas answers hop hproject hnamespace]
  simp only [Except.ok_bind, Consultation.result_bind, normalized, hlimit, hdefault,
    Consultation.result_ofExcept_ok, Consultation.result_pure]

theorem result_quotaResourcesMatch_of_error (hop : operation ≠ .delete)
    (hbounds : new.limit? = some (.error failure)) (hdefaults : new.namespaceLimit? ≠ none) :
    (quotaResourcesMatch ⟨operation, old, some new, user⟩).result answers =
      .error (.ofQuantity failure) := by
  obtain ⟨project, hproject, hlimit⟩ := eq_normalize_of_limit? hbounds
  obtain ⟨limit, hdefaults⟩ := Option.ne_none_iff_exists'.mp hdefaults
  obtain ⟨namespaceDefault, hnamespace, -⟩ := eq_normalize_of_namespaceLimit? hdefaults
  rw [quotaResourcesMatch, Consultation.result_bind, result_quotas answers hop hproject hnamespace]
  simp only [Except.ok_bind, Except.error_bind, Consultation.result_bind, normalized, hlimit,
    Consultation.result_ofExcept_error]

theorem result_quotaResourcesMatch_of_namespace_error (hop : operation ≠ .delete)
    (hbounds : new.limit? = some (.ok bounds))
    (hdefaults : new.namespaceLimit? = some (.error failure)) :
    (quotaResourcesMatch ⟨operation, old, some new, user⟩).result answers =
      .error (.ofQuantity failure) := by
  obtain ⟨project, hproject, hlimit⟩ := eq_normalize_of_limit? hbounds
  obtain ⟨namespaceDefault, hnamespace, hdefault⟩ := eq_normalize_of_namespaceLimit? hdefaults
  rw [quotaResourcesMatch, Consultation.result_bind, result_quotas answers hop hproject hnamespace]
  simp only [Except.ok_bind, Except.error_bind, Consultation.result_bind, normalized, hlimit,
    hdefault, Consultation.result_ofExcept_ok, Consultation.result_ofExcept_error]

theorem result_namespaceQuotaFits (hop : operation ≠ .delete)
    (hbounds : new.limit? = some (.ok bounds))
    (hdefaults : new.namespaceLimit? = some (.ok defaults)) :
    (namespaceQuotaFits ⟨operation, old, some new, user⟩).result answers =
      (denyExceeding (path namespaceQuotaField ++ ": Forbidden: " ++
        "namespace default quota limit exceeds project limit on fields: ")
        (Limit.exceeding bounds defaults)).result answers := by
  obtain ⟨project, hproject, hlimit⟩ := eq_normalize_of_limit? hbounds
  obtain ⟨namespaceDefault, hnamespace, hdefault⟩ := eq_normalize_of_namespaceLimit? hdefaults
  rw [namespaceQuotaFits, Consultation.result_bind, result_quotas answers hop hproject hnamespace]
  simp only [Except.ok_bind, Consultation.result_bind, ProjectRules.exceeding, normalized, hlimit,
    hdefault, Consultation.result_ofExcept_ok, Consultation.result_pure]

theorem result_usedQuotaFits_of_none (hwrites : Writes operation old)
    (hused : old.bind Project.usedLimit? = none) :
    (usedQuotaFits ⟨operation, old, some new, user⟩).result answers = .ok .allow := by
  cases hwrites with
  | create => rfl
  | update old =>
    have hquota : old.spec.resourceQuota = none := Option.map_eq_none_iff.mp hused
    simp only [usedQuotaFits, RuleContext.requireOld, hquota, Consultation.result_bind,
      Consultation.result_pure, Except.ok_bind, ne_eq, not_true_eq_false, if_false]

/-- What was used before is compared with the new limit, if it normalizes. -/
theorem result_usedQuotaFits (hwrites : Writes operation old)
    (hbounds : new.limit? = some (.ok bounds))
    (hused : old.bind Project.usedLimit? = some limit) :
    (usedQuotaFits ⟨operation, old, some new, user⟩).result answers =
      match limit with
      | .error failure => .error (.ofQuantity failure)
      | .ok used =>
        (denyExceeding (path projectQuotaField ++ ": Forbidden: " ++
          "resourceQuota is below the used limit on fields: ")
          (Limit.exceeding bounds used)).result answers := by
  cases hwrites with
  | create => cases hused
  | update old =>
    -- Only an update has a project before it.
    obtain ⟨project, hproject, hlimit⟩ := eq_normalize_of_limit? hbounds
    obtain ⟨oldQuota, hquota, husedLimit⟩ := Option.map_eq_some_iff.mp hused
    have hupdate : Operation.update ≠ .delete := by decide
    simp only [usedQuotaFits, RuleContext.requireOld, hquota, Consultation.result_bind,
      result_quotas answers hupdate hproject rfl, Consultation.result_pure, Except.ok_bind,
      ne_eq, not_true_eq_false, if_false,
      ProjectRules.exceeding, normalized, hlimit, husedLimit, Consultation.result_ofExcept_ok]
    cases limit with
    | error failure => rfl
    | ok used => rfl

theorem result_usedQuotaFits_of_noQuota (hwrites : Writes operation old)
    (hlimit : new.limit? = none) :
    (usedQuotaFits ⟨operation, old, some new, user⟩).result answers = .ok .allow := by
  cases hwrites with
  | create => rfl
  | update old =>
    have hupdate : Operation.update ≠ .delete := by decide
    have hproject := eq_none_of_limit? hlimit
    simp only [usedQuotaFits, RuleContext.requireOld, Consultation.result_bind,
      Consultation.result_pure, Except.ok_bind, ne_eq, not_true_eq_false, if_false]
    cases old.spec.resourceQuota with
    | none => rfl
    | some oldQuota =>
      simp only [Consultation.result_bind, result_quotas answers hupdate hproject rfl,
        Except.ok_bind, Consultation.result_pure]

theorem result_quotaFieldsPresent (hop : operation ≠ .delete) (hlimit : new.limit? ≠ none)
    (hnamespace : new.namespaceLimit? ≠ none) :
    (quotaFieldsPresent ⟨operation, old, some new, user⟩).result answers = .ok .allow := by
  obtain ⟨limit, hlimit⟩ := Option.ne_none_iff_exists'.mp hlimit
  obtain ⟨default, hdefault⟩ := Option.ne_none_iff_exists'.mp hnamespace
  obtain ⟨project, hproject, -⟩ := eq_normalize_of_limit? hlimit
  obtain ⟨namespaceDefault, hnamespace, -⟩ := eq_normalize_of_namespaceLimit? hdefault
  rw [quotaFieldsPresent, Consultation.result_bind,
    result_quotas answers hop hproject hnamespace]
  rfl

/-- Where both quotas are there, the last three rules decide. -/
theorem settle_of_quotas (hop : operation ≠ .delete) (hlimit : new.limit? ≠ none)
    (hnamespace : new.namespaceLimit? ≠ none) :
    settle [] (ruleResults answers ⟨operation, old, some new, user⟩ all) =
      settle [] [
        (quotaResourcesMatch ⟨operation, old, some new, user⟩).result answers,
        (namespaceQuotaFits ⟨operation, old, some new, user⟩).result answers,
        (usedQuotaFits ⟨operation, old, some new, user⟩).result answers] := by
  simp only [ruleResults, all, List.map_cons, List.map_nil, settle,
    result_systemProjectDelete answers hop,
    result_quotaFieldsPresent answers hop hlimit hnamespace]

/-- Where the two limits normalize and agree, the last rule decides. -/
theorem settle_of_fitting (hop : operation ≠ .delete) (hbounds : new.limit? = some (.ok bounds))
    (hdefaults : new.namespaceLimit? = some (.ok defaults)) (hsame : SameNames bounds defaults)
    (hfits : ¬ ∃ name quantity, Exceeds bounds defaults name quantity) :
    settle [] (ruleResults answers ⟨operation, old, some new, user⟩ all) =
      settle [] [(usedQuotaFits ⟨operation, old, some new, user⟩).result answers] := by
  have hnormal := normal_of_limit? hbounds
  have hnormal' := normal_of_namespaceLimit? hdefaults
  rw [settle_of_quotas answers hop (by simp [hbounds]) (by simp [hdefaults]),
    result_quotaResourcesMatch answers hop hbounds hdefaults,
    compareResources_of_sameNames hnormal hnormal' hsame,
    result_namespaceQuotaFits answers hop hbounds hdefaults,
    result_denyExceeding_of_fits answers _ hnormal hfits]
  rfl

/-! ## The decision is the verdict -/

/-- The rules settle a request to its verdict. -/
theorem settle_of_projectVerdict {result : Except Failure Decision}
    (hwrites : Writes operation old) (h : ProjectVerdict old new result) :
    settle [] (ruleResults answers ⟨operation, old, some new, user⟩ all) = result := by
  have hop := hwrites.ne_delete
  cases h with
  | noQuotas hlimit hnamespace =>
    have hproject := eq_none_of_limit? hlimit
    have hdefault := eq_none_of_namespaceLimit? hnamespace
    simp only [ruleResults, all, List.map_cons, List.map_nil, settle,
      result_systemProjectDelete answers hop, quotaFieldsPresent, quotaResourcesMatch,
      namespaceQuotaFits, Consultation.result_bind, result_quotas answers hop hproject hdefault,
      Except.ok_bind, Consultation.result_pure,
      result_usedQuotaFits_of_noQuota answers hwrites hlimit]
  -- One quota without the other: the rule on the fields denies, and the others are not asked.
  | projectQuotaMissing hlimit hnamespace =>
    obtain ⟨default, hdefault⟩ := Option.ne_none_iff_exists'.mp hnamespace
    obtain ⟨namespaceDefault, hnamespace, -⟩ := eq_normalize_of_namespaceLimit? hdefault
    have hproject := eq_none_of_limit? hlimit
    simp only [ruleResults, all, List.map_cons, List.map_nil, settle,
      result_systemProjectDelete answers hop, quotaFieldsPresent, Consultation.result_bind,
      result_quotas answers hop hproject hnamespace, Except.ok_bind, Consultation.result_pure]
  | namespaceQuotaMissing hlimit hnamespace =>
    obtain ⟨limit, hlimit⟩ := Option.ne_none_iff_exists'.mp hlimit
    obtain ⟨project, hproject, -⟩ := eq_normalize_of_limit? hlimit
    have hnamespace := eq_none_of_namespaceLimit? hnamespace
    simp only [ruleResults, all, List.map_cons, List.map_nil, settle,
      result_systemProjectDelete answers hop, quotaFieldsPresent, Consultation.result_bind,
      result_quotas answers hop hproject hnamespace, Except.ok_bind, Consultation.result_pure]
  -- Both quotas are there, so it is the comparison of their resources that is asked next.
  | limitUnreadable hbounds hnamespace =>
    rw [settle_of_quotas answers hop (by simp [hbounds]) hnamespace,
      result_quotaResourcesMatch_of_error answers hop hbounds hnamespace]
    rfl
  | namespaceLimitUnreadable hbounds hdefaults =>
    rw [settle_of_quotas answers hop (by simp [hbounds]) (by simp [hdefaults]),
      result_quotaResourcesMatch_of_namespace_error answers hop hbounds hdefaults]
    rfl
  | resourcesDiffer hbounds hdefaults hdiffer hmessage =>
    rw [settle_of_quotas answers hop (by simp [hbounds]) (by simp [hdefaults]),
      result_quotaResourcesMatch answers hop hbounds hdefaults,
      compareResources_of_tellsDifference (normal_of_limit? hbounds) hmessage]
    rfl
  -- The same resources on both sides, so the defaults are held against the limit.
  | defaultsExceed hbounds hdefaults hsame hexceeds hlisted =>
    have hnormal := normal_of_limit? hbounds
    have hnormal' := normal_of_namespaceLimit? hdefaults
    rw [settle_of_quotas answers hop (by simp [hbounds]) (by simp [hdefaults]),
      result_quotaResourcesMatch answers hop hbounds hdefaults,
      compareResources_of_sameNames hnormal hnormal' hsame,
      result_namespaceQuotaFits answers hop hbounds hdefaults,
      result_denyExceeding_of_exceeds answers _ hnormal hnormal' hexceeds hlisted]
    rfl
  | noUsage hbounds hdefaults hsame hfits hused =>
    rw [settle_of_fitting answers hop hbounds hdefaults hsame hfits,
      result_usedQuotaFits_of_none answers hwrites hused]
    rfl
  -- From here on there was a quota before, and the last rule compares what it used.
  | usageUnreadable hbounds hdefaults hsame hfits hused =>
    rw [settle_of_fitting answers hop hbounds hdefaults hsame hfits,
      result_usedQuotaFits answers hwrites hbounds hused]
    rfl
  | usageExceeds hbounds hdefaults hsame hfits hused hexceeds hlisted =>
    rw [settle_of_fitting answers hop hbounds hdefaults hsame hfits,
      result_usedQuotaFits answers hwrites hbounds hused]
    simp only []
    rw [result_denyExceeding_of_exceeds answers _ (normal_of_limit? hbounds)
      (normal_of_usedLimit? hused) hexceeds hlisted]
    rfl
  | usageFits hbounds hdefaults hsame hfits hused hfits' =>
    rw [settle_of_fitting answers hop hbounds hdefaults hsame hfits,
      result_usedQuotaFits answers hwrites hbounds hused]
    simp only []
    rw [result_denyExceeding_of_fits answers _ (normal_of_limit? hbounds) hfits']
    rfl

/-- What is above the bounds of normalized limits is listed by some text. -/
theorem exists_listsExceeded {outer inner : Limit} (houter : Normal outer) (hinner : Normal inner) :
    ∃ listed, ListsExceeded outer inner listed := by
  obtain ⟨listed, hlisted⟩ := exists_describe?_exceeding outer hinner
  exact ⟨listed, (describe?_exceeding_iff houter hinner).mp hlisted⟩

theorem exists_projectVerdict_of_limits (old : Option Project)
    (hbounds : new.limit? = some (.ok bounds))
    (hdefaults : new.namespaceLimit? = some (.ok defaults)) :
    ∃ result, ProjectVerdict old new result := by
  have hnormal := normal_of_limit? hbounds
  have hnormal' := normal_of_namespaceLimit? hdefaults
  -- The cases are those of the rules: each ends the evaluation, or leaves it to the next one.
  by_cases hsame : SameNames bounds defaults
  · by_cases hfits : ∃ name quantity, Exceeds bounds defaults name quantity
    · obtain ⟨listed, hlisted⟩ := exists_listsExceeded hnormal hnormal'
      exact ⟨_, .defaultsExceed hbounds hdefaults hsame hfits hlisted⟩
    · cases hused : old.bind Project.usedLimit? with
      | none => exact ⟨_, .noUsage hbounds hdefaults hsame hfits hused⟩
      | some limit =>
        cases limit with
        | error failure => exact ⟨_, .usageUnreadable hbounds hdefaults hsame hfits hused⟩
        | ok used =>
          by_cases hfits' : ∃ name quantity, Exceeds bounds used name quantity
          · obtain ⟨listed, hlisted⟩ := exists_listsExceeded hnormal (normal_of_usedLimit? hused)
            exact ⟨_, .usageExceeds hbounds hdefaults hsame hfits hused hfits' hlisted⟩
          · exact ⟨_, .usageFits hbounds hdefaults hsame hfits hused hfits'⟩
  · obtain ⟨message, hmessage⟩ := exists_tellsDifference hnormal hnormal' hsame
    exact ⟨_, .resourcesDiffer hbounds hdefaults hsame hmessage⟩

/-- Every request that writes a project has a verdict. -/
theorem exists_projectVerdict (old : Option Project) (new : Project) :
    ∃ result, ProjectVerdict old new result := by
  -- First whether the two quotas are there, then whether their limits can be read.
  cases hlimit : new.limit? with
  | none =>
    cases hnamespace : new.namespaceLimit? with
    | none => exact ⟨_, .noQuotas hlimit hnamespace⟩
    | some default => exact ⟨_, .projectQuotaMissing hlimit (by simp [hnamespace])⟩
  | some limit =>
    cases hnamespace : new.namespaceLimit? with
    | none => exact ⟨_, .namespaceQuotaMissing (by simp [hlimit]) hnamespace⟩
    | some default =>
      cases limit with
      | error failure => exact ⟨_, .limitUnreadable hlimit (by simp [hnamespace])⟩
      | ok bounds =>
        cases default with
        | error failure => exact ⟨_, .namespaceLimitUnreadable hlimit hnamespace⟩
        | ok defaults => exact exists_projectVerdict_of_limits old hlimit hnamespace

/-! ## No questions -/

theorem silent_quotas (context : RuleContext Project) : (quotas context).Silent := by
  unfold quotas
  split
  · exact .pure _
  · exact (asksOnly_requireNew context).bind fun _ => .pure _

theorem silent_normalized (limit : StoredLimit) : (normalized limit).Silent := .ofExcept _ _

theorem silent_exceeding (outer inner : StoredLimit) :
    (ProjectRules.exceeding outer inner).Silent :=
  (silent_normalized outer).bind fun _ => (silent_normalized inner).bind fun _ => .pure _

theorem silent_describe (limit : Limit) : (describe limit).Silent := by
  unfold describe
  split
  · exact .pure _
  · exact .fail _

theorem silent_denyExceeding (intro : Text) (exceeded : Limit) :
    (denyExceeding intro exceeded).Silent := by
  unfold denyExceeding
  split
  · exact .pure _
  · exact (silent_describe exceeded).bind fun _ => .pure _

theorem silent_systemProjectDelete (context : RuleContext Project) :
    (systemProjectDelete context).Silent := by
  unfold systemProjectDelete
  split
  · exact .pure _
  · refine (asksOnly_requireOld context).bind fun old => ?_
    split <;> exact .pure _

theorem silent_usedQuotaFits (context : RuleContext Project) :
    (usedQuotaFits context).Silent := by
  unfold usedQuotaFits
  split
  · exact .pure _
  · refine (asksOnly_requireOld context).bind fun old => ?_
    split
    · exact .pure _
    · refine (silent_quotas context).bind fun quotas => ?_
      split
      · exact .pure _
      · exact (silent_exceeding _ _).bind fun _ => silent_denyExceeding _ _

/-- The rules for projects ask no collaborator. -/
theorem silent_check (context : RuleContext Project) :
    ∀ rule ∈ all, (rule.check context).Silent := by
  simp only [all, List.forall_mem_cons]
  -- Nothing a rule of projects reads is asked for.
  refine ⟨silent_systemProjectDelete context, ?_, ?_, ?_, silent_usedQuotaFits context,
    fun _ h => absurd h List.not_mem_nil⟩
  · exact (silent_quotas context).bind fun quotas => by split <;> exact .pure _
  · refine (silent_quotas context).bind fun quotas => ?_
    split
    · exact (silent_normalized _).bind fun _ => (silent_normalized _).bind fun _ => .pure _
    · exact .pure _
  · refine (silent_quotas context).bind fun quotas => ?_
    split
    · exact (silent_exceeding _ _).bind fun _ => silent_denyExceeding _ _
    · exact .pure _

/-! ## The reference specification -/

/-- Where every integer in the limits of both projects has a text, a limit that does not normalize
is refused. -/
theorem ProjectVerdict.ne_unshown {old : Option Project} {new : Project}
    {result : Except Failure Decision} (h : ProjectVerdict old new result)
    (hnew : new.Passes Json.shortIntegers)
    (hold : ∀ project, old = some project → project.Passes Json.shortIntegers) :
    result ≠ .error .unshown := by
  -- Of all verdicts, only those on unreadable limits are failures.
  have hfailure : ∀ {limit : StoredLimit} {failure : QuantityFailure},
      limit.Passes Json.shortIntegers → limit.normalize = .error failure →
      (.error (.ofQuantity failure) : Except Failure Decision) ≠ .error .unshown := by
    intro limit failure hpasses hlimit
    cases failure with
    | refused cause => nofun
    | unshown => exact absurd hlimit (StoredLimit.normalize_ne_unshown hpasses)
  cases h with
  | limitUnreadable hlimit _ =>
    obtain ⟨quota, hquota, hnormalize⟩ := eq_normalize_of_limit? hlimit
    exact hfailure (hnew.limit quota hquota) hnormalize
  | namespaceLimitUnreadable _ hlimit =>
    obtain ⟨quota, hquota, hnormalize⟩ := eq_normalize_of_namespaceLimit? hlimit
    exact hfailure (hnew.namespaceLimit quota hquota) hnormalize
  | usageUnreadable _ _ _ _ hused =>
    obtain ⟨project, hproject, hlimit⟩ := Option.bind_eq_some_iff.mp hused
    obtain ⟨quota, hquota, hnormalize⟩ := Option.map_eq_some_iff.mp hlimit
    exact hfailure ((hold project hproject).usedLimit quota hquota) hnormalize
  | _ => nofun

/-- A request that carries a project comes to its verdict, whoever would answer questions. -/
theorem result_of_projectVerdict {request : AdmissionRequest} (handler : Handler σ) (state : σ)
    {verdict : Except Failure Decision}
    (hcarried : Carried "Project" Project.decode request old (some new))
    (hverdict : ProjectVerdict old new verdict) :
    ((decideRequest .project request).run handler state).result = verdict := by
  have hsilent : (decideRequest .project request).Silent := silent_decideBy all silent_check
  -- Nothing is asked, so the answers of any directory will do.
  rw [(Consultation.run_of_silent ({} : Directory).answers hsilent handler state).1]
  exact (result_decideBy _ all hcarried).trans
    (settle_of_projectVerdict _ hcarried.writes hverdict)

/-- The decision on a request to create or to update a project is its verdict, whatever handler
would answer questions.  It fails without a message only if one of the projects has a limit with an
integer of more than 4300 digits. -/
theorem project_decision_iff_verdict (handler : Handler σ) (state : σ)
    (request : AdmissionRequest) (old : Option Project) (new : Project)
    (result : Except Failure Decision)
    (hcarried : Carried "Project" Project.decode request old (some new)) :
    (((decideRequest .project request).run handler state).result = result ↔
      ProjectVerdict old new result) ∧
    (new.Passes Json.shortIntegers →
      (∀ project, old = some project → project.Passes Json.shortIntegers) →
      ¬ ProjectVerdict old new (.error .unshown)) := by
  refine ⟨⟨?_, result_of_projectVerdict handler state hcarried⟩,
    fun hnew hold hverdict => hverdict.ne_unshown hnew hold rfl⟩
  rintro rfl
  obtain ⟨verdict, hverdict⟩ := exists_projectVerdict old new
  rw [result_of_projectVerdict handler state hcarried hverdict]
  exact hverdict

/-- A project whose default of half a core more than its limit goes by another name of the
resource. -/
def overcommitted : Project where
  spec := {
    resourceQuota := some { limit := [("limitsCpu", .text "2"), ("pods", .int 5)] }
    namespaceDefaultResourceQuota :=
      some { limit := [("pods", .text "5"), ("limits.cpu", .text "2500m")] } }

/-- An update of a project without quotas to `overcommitted`. -/
def overcommittingUpdate : AdmissionRequest where
  operation := .update
  oldObject := some []
  object := some [("spec", overcommitted.spec.toJson)]

/-- A limit is known by what it normalizes to, where this can be decided. -/
theorem eq_some_ok_of_toOption {limit? : Option (Except QuantityFailure Limit)}
    (h : Option.map Except.toOption limit? = some (some bounds)) :
    limit? = some (Except.ok bounds) := by
  obtain ⟨limit, rfl, hlimit⟩ := Option.map_eq_some_iff.mp h
  cases limit with
  | error failure => cases hlimit
  | ok found => rw [Option.some.inj hlimit]

theorem overcommitting_update_forbidden :
    Carried "Project" Project.decode overcommittingUpdate (some {}) (some overcommitted) ∧
    ((decideRequest .project overcommittingUpdate).run ({} : Directory).handler []).result =
      .ok (.deny .forbidden (path namespaceQuotaField ++ ": Forbidden: " ++
        "namespace default quota limit exceeds project limit on fields: " ++
        "limits.cpu=2500m") []) := by
  have hcarried : Carried "Project" Project.decode overcommittingUpdate (some {})
      (some overcommitted) := .update rfl rfl rfl
  have hbounds : overcommitted.limit? = some (.ok [("limits.cpu", 2), ("pods", 5)]) :=
    eq_some_ok_of_toOption (by decide +kernel)
  have hdefaults : overcommitted.namespaceLimit? =
      some (.ok [("pods", 5), ("limits.cpu", mkRat 5 2)]) :=
    eq_some_ok_of_toOption (by decide +kernel)
  have hlisted : (Limit.exceeding [("limits.cpu", 2), ("pods", 5)]
      [("pods", 5), ("limits.cpu", mkRat 5 2)]).describe? = some "limits.cpu=2500m" := by
    decide +kernel
  refine ⟨hcarried, (project_decision_iff_verdict _ _ _ _ _ _ hcarried).1.mpr ?_⟩
  -- The same resources, and one quantity above its bound.
  refine .defaultsExceed hbounds hdefaults ?_ ?_ ?_
  · intro name
    simp [names, or_comm]
  · exact ⟨"limits.cpu", mkRat 5 2, by simp, 2, by simp, by decide +kernel⟩
  · exact (describe?_exceeding_iff (normal_of_limit? hbounds)
      (normal_of_namespaceLimit? hdefaults)).mp hlisted

/-- A project with an integer of 4301 digits in its limit. -/
def tooLongToShowProject : Project where
  spec := {
    resourceQuota := some { limit := [("pods", .int (10 ^ 4300))] }
    namespaceDefaultResourceQuota := some { limit := [("pods", .int 1)] } }

/-- The members of such a project. -/
def tooLongToShowMembers : List (Text × Json) := [
  ("spec", .obj [
    ("resourceQuota", .obj [("limit", .obj Limit.tooLongToShow)]),
    ("namespaceDefaultResourceQuota", .obj [("limit", .obj [("pods", .int 1)])])])]

/-- A request to create it. -/
def tooLongToShowCreation : AdmissionRequest where
  operation := .create
  object := some tooLongToShowMembers

theorem carried_tooLongToShowProject :
    Carried "Project" Project.decode tooLongToShowCreation none (some tooLongToShowProject) :=
  .create rfl rfl

theorem limit?_tooLongToShowProject : tooLongToShowProject.limit? = some (.error .unshown) :=
  congrArg some Limit.normalize_tooLongToShow

/-- Its limit does not normalize, and it is not refused. -/
theorem tooLongToShow_creation_not_refused :
    (∃ failure, tooLongToShowProject.limit? = some (.error failure)) ∧
    ¬ ∃ cause, ((decideRequest .project tooLongToShowCreation).run
      ({} : Directory).handler []).result = .error (.quantity cause) := by
  refine ⟨⟨_, limit?_tooLongToShowProject⟩, ?_⟩
  rintro ⟨cause, hrefused⟩
  have hverdict : ProjectVerdict none tooLongToShowProject (.error (.ofQuantity .unshown)) :=
    .limitUnreadable limit?_tooLongToShowProject nofun
  rw [result_of_projectVerdict _ _ carried_tooLongToShowProject hverdict] at hrefused
  cases hrefused

end ProjectRules

end AdmissionControl
