/-
  AdmissionControl.Proofs.Project.Resubmission

  Admitted projects that are submitted once more without a change.

  A request that writes a project is allowed when the quotas of the new project agree
  (`QuotasAgree`), and when what the old project says to be used fits into the new limit
  (`UsageFits`).  What the new project itself says to be used is looked at by no rule, as only an
  update of it has this usage to protect.  So an admitted project keeps agreeing quotas, and an
  update that leaves it as it is depends on its own usage alone
  (`resubmitted_project_allowed_iff_usage_fits`).
-/

import AdmissionControl.Proofs.Project.Verdict

namespace AdmissionControl

namespace ProjectRules

open Limit

/-! ## Allowed projects -/

/-- A project has no quotas, or both of them with readable limits that declare the same resources
and fit into each other. -/
def QuotasAgree (project : Project) : Prop :=
  (project.limit? = none ∧ project.namespaceLimit? = none) ∨
    ∃ bounds defaults, project.limit? = some (.ok bounds) ∧
      project.namespaceLimit? = some (.ok defaults) ∧ SameNames bounds defaults ∧
      ¬ ∃ name quantity, Exceeds bounds defaults name quantity

/-- What the project before says to be used is readable and within the limit of the new one, as far
as there is a quota on both sides. -/
def UsageFits (old : Option Project) (new : Project) : Prop :=
  ∀ bounds usage, new.limit? = some (.ok bounds) → old.bind Project.usedLimit? = some usage →
    ∃ used, usage = .ok used ∧ ¬ ∃ name quantity, Exceeds bounds used name quantity

variable {old : Option Project} {new : Project}

/-- The verdict on a project allows it when its quotas agree and hold the usage before. -/
theorem allowed_of_fits (hquotas : QuotasAgree new) (husage : UsageFits old new) :
    ProjectVerdict old new (.ok (.allow [])) := by
  rcases hquotas with ⟨hlimit, hnamespace⟩ | ⟨bounds, defaults, hbounds, hdefaults, hsame, hfits⟩
  · exact .noQuotas hlimit hnamespace
  · cases hused : old.bind Project.usedLimit? with
    | none => exact .noUsage hbounds hdefaults hsame hfits hused
    | some usage =>
      obtain ⟨used, rfl, hfits'⟩ := husage bounds usage hbounds hused
      exact .usageFits hbounds hdefaults hsame hfits hused hfits'

/-- No other verdict allows a project. -/
theorem fits_of_allowed {decision : Decision} (h : ProjectVerdict old new (.ok decision))
    (hallowed : decision.allowed = true) : QuotasAgree new ∧ UsageFits old new := by
  cases h with
  | noQuotas hlimit hnamespace =>
    refine ⟨.inl ⟨hlimit, hnamespace⟩, fun bounds usage hbounds => ?_⟩
    rw [hlimit] at hbounds
    cases hbounds
  | noUsage hbounds hdefaults hsame hfits hused =>
    refine ⟨.inr ⟨_, _, hbounds, hdefaults, hsame, hfits⟩, fun bounds usage _ husage => ?_⟩
    rw [hused] at husage
    cases husage
  | usageFits hbounds hdefaults hsame hfits hused hfits' =>
    refine ⟨.inr ⟨_, _, hbounds, hdefaults, hsame, hfits⟩, fun bounds usage hlimit husage => ?_⟩
    rw [hbounds] at hlimit
    rw [hused] at husage
    cases hlimit
    cases husage
    exact ⟨_, rfl, hfits'⟩
  -- The remaining verdicts are denials.
  | projectQuotaMissing | namespaceQuotaMissing | resourcesDiffer | defaultsExceed
  | usageExceeds => cases hallowed

variable {request : AdmissionRequest} (handler : Handler σ) (state : σ)

/-- A project is allowed exactly when its quotas agree and hold the usage before. -/
theorem allowed_iff_fits (hcarried : Carried "Project" Project.decode request old (some new)) :
    (∃ decision, ((decideRequest .project request).run handler state).result = .ok decision ∧
      decision.allowed = true) ↔ QuotasAgree new ∧ UsageFits old new := by
  constructor
  · rintro ⟨decision, hdecision, hallowed⟩
    obtain ⟨verdict, hverdict⟩ := exists_projectVerdict old new
    rw [result_of_projectVerdict handler state hcarried hverdict] at hdecision
    rw [hdecision] at hverdict
    exact fits_of_allowed hverdict hallowed
  · rintro ⟨hquotas, husage⟩
    exact ⟨_, result_of_projectVerdict handler state hcarried (allowed_of_fits hquotas husage), rfl⟩

/-! ## The same project again -/

/-- What an update of a project to itself comes to where its quotas agree but do not hold its own
usage: the usage is not readable, or above the limit on the resources that are listed. -/
theorem verdict_of_unfit (hquotas : QuotasAgree new) (hunfit : ¬ UsageFits (some new) new) :
    (∃ failure, new.usedLimit? = some (.error failure) ∧
      ProjectVerdict (some new) new (.error (.ofQuantity failure))) ∨
    ∃ bounds used listed, new.limit? = some (.ok bounds) ∧ new.usedLimit? = some (.ok used) ∧
      (∃ name quantity, Exceeds bounds used name quantity) ∧ ListsExceeded bounds used listed ∧
      ProjectVerdict (some new) new (.ok (.deny .forbidden (path projectQuotaField ++
        ": Forbidden: " ++ "resourceQuota is below the used limit on fields: " ++ listed) [])) := by
  rcases hquotas with ⟨hlimit, -⟩ | ⟨bounds, defaults, hbounds, hdefaults, hsame, hfits⟩
  · -- Without a quota there is nothing that would not fit.
    refine absurd (fun bounds usage hbounds => ?_) hunfit
    rw [hlimit] at hbounds
    cases hbounds
  · -- No usage fits into any limit; a usage that cannot be read ends the update.
    cases hused : new.usedLimit? with
    | none =>
      refine absurd (fun bounds usage _ husage => ?_) hunfit
      rw [Option.bind_some, hused] at husage
      cases husage
    | some usage =>
      cases usage with
      | error failure =>
        exact .inl ⟨failure, rfl, .usageUnreadable hbounds hdefaults hsame hfits hused⟩
      | ok used =>
        -- What is used is readable, so it does not fit because some of it is above the limit.
        have hexceeds : ∃ name quantity, Exceeds bounds used name quantity := by
          by_contra hfits'
          refine hunfit fun bounds' usage hlimit husage => ?_
          rw [hbounds] at hlimit
          rw [Option.bind_some, hused] at husage
          cases hlimit
          cases husage
          exact ⟨used, rfl, hfits'⟩
        have hbefore : (some new).bind Project.usedLimit? = some (.ok used) := hused
        obtain ⟨listed, hlisted⟩ :=
          exists_listsExceeded (normal_of_limit? hbounds) (normal_of_usedLimit? hbefore)
        exact .inr ⟨bounds, used, listed, hbounds, rfl, hexceeds, hlisted,
          .usageExceeds hbounds hdefaults hsame hfits hused hexceeds hlisted⟩

/-- A project that was admitted is admitted again by an update that leaves it as it is exactly when
what it says to be used fits into its own limit.  Otherwise this update fails, as its usage is not
readable, or is forbidden with the resources of which more is used.  The usage fits after an update
that kept it. -/
theorem resubmitted_project_allowed_iff_usage_fits (handler : Handler σ) (state : σ)
    (handler' : Handler τ) (state' : τ) (request again : AdmissionRequest) (old : Option Project)
    (new : Project) (hcarried : Carried "Project" Project.decode request old (some new))
    (hadmitted : ∃ decision, ((decideRequest .project request).run handler state).result =
      .ok decision ∧ decision.allowed = true)
    (hagain : again.operation = .update ∧ again.oldObject = request.object ∧
      again.object = request.object) :
    let result := ((decideRequest .project again).run handler' state').result
    ((∃ decision, result = .ok decision ∧ decision.allowed = true) ↔
      UsageFits (some new) new) ∧
    (¬ UsageFits (some new) new →
      (∃ failure, new.usedLimit? = some (.error failure) ∧
        result = .error (.ofQuantity failure)) ∨
      ∃ bounds used listed, new.limit? = some (.ok bounds) ∧ new.usedLimit? = some (.ok used) ∧
        ListsExceeded bounds used listed ∧
        result = .ok (.deny .forbidden (path projectQuotaField ++ ": Forbidden: " ++
          "resourceQuota is below the used limit on fields: " ++ listed) [])) ∧
    (∀ previous, old = some previous → previous.usedLimit? = new.usedLimit? →
      ∃ decision, result = .ok decision ∧ decision.allowed = true) := by
  intro result
  obtain ⟨hoperation, hold, hnew⟩ := hagain
  have hobject : decodeObject "Project" Project.decode request.object = .ok (some new) := by
    cases hcarried with
    | create _ hobject => exact hobject
    | update _ _ hobject => exact hobject
  have hcarried' : Carried "Project" Project.decode again (some new) (some new) :=
    .update hoperation (by rw [hold, hobject]) (by rw [hnew, hobject])
  -- The first admission says that the quotas agree, so the second one is up to the usage alone.
  obtain ⟨hquotas, husage⟩ := (allowed_iff_fits handler state hcarried).mp hadmitted
  have hallowed : (∃ decision, result = .ok decision ∧ decision.allowed = true) ↔
      UsageFits (some new) new :=
    (allowed_iff_fits handler' state' hcarried').trans ⟨fun h => h.2, fun h => ⟨hquotas, h⟩⟩
  refine ⟨hallowed, fun hunfit => ?_, fun previous hprevious hkept => ?_⟩
  · rcases verdict_of_unfit hquotas hunfit with
      ⟨failure, hfailure, hverdict⟩ | ⟨bounds, used, listed, hbounds, hused, -, hlisted, hverdict⟩
    · exact .inl ⟨failure, hfailure, result_of_projectVerdict handler' state' hcarried' hverdict⟩
    · exact .inr ⟨bounds, used, listed, hbounds, hused, hlisted,
        result_of_projectVerdict handler' state' hcarried' hverdict⟩
  · -- The usage of the project before was compared with the same limit.
    refine hallowed.mpr fun bounds usage hbounds hused => husage bounds usage hbounds ?_
    rw [hprevious, Option.bind_some, hkept]
    exact hused

/-- A project with quotas for processors, in two spellings. -/
def meteredProject (limit used : Text) : Project where
  spec := {
    resourceQuota := some {
      limit := [("limitsCpu", .text limit)], usedLimit := [("limits.cpu", .text used)] }
    namespaceDefaultResourceQuota := some { limit := [("limits.cpu", .text "500m")] } }

/-- A request for a project over an old one. -/
def submission (operation : Operation) (old : Option Project) (project : Project) :
    AdmissionRequest where
  operation := operation
  oldObject := old.map fun project => [("spec", project.spec.toJson)]
  object := some [("spec", project.spec.toJson)]

theorem metered_project_resubmitted :
    let project := meteredProject "2" "1500m"
    (∃ decision, ((decideRequest .project (submission .create none project)).run
      ({} : Directory).handler []).result = .ok decision ∧ decision.allowed = true) ∧
    ∃ decision, ((decideRequest .project (submission .update (some project) project)).run
      ({} : Directory).handler []).result = .ok decision ∧ decision.allowed = true := by
  intro project
  have hcarried : Carried "Project" Project.decode (submission .create none project) none
      (some project) := .create rfl rfl
  have hcreated : ((decideRequest .project (submission .create none project)).run
      ({} : Directory).handler []).result.toOption.map (·.allowed) = some true := by decide +kernel
  obtain ⟨decision, hdecision, hallowed⟩ := Option.map_eq_some_iff.mp hcreated
  have hadmitted : ∃ decision, ((decideRequest .project (submission .create none project)).run
      ({} : Directory).handler []).result = .ok decision ∧ decision.allowed = true :=
    ⟨decision, Except.eq_ok_of_toOption hdecision, hallowed⟩
  have hbounds : project.limit? = some (.ok [("limits.cpu", 2)]) :=
    eq_some_ok_of_toOption (by decide +kernel)
  have hused : project.usedLimit? = some (.ok [("limits.cpu", mkRat 3 2)]) :=
    eq_some_ok_of_toOption (by decide +kernel)
  obtain ⟨hagain, -, -⟩ := resubmitted_project_allowed_iff_usage_fits ({} : Directory).handler []
    ({} : Directory).handler [] (submission .create none project)
    (submission .update (some project) project) none project hcarried hadmitted ⟨rfl, rfl, rfl⟩
  -- The usage is one and a half processors, the limit is two.
  refine ⟨hadmitted, hagain.mpr fun bounds usage hlimit husage => ?_⟩
  rw [hbounds] at hlimit
  rw [Option.bind_some, hused] at husage
  cases hlimit
  cases husage
  refine ⟨_, rfl, ?_⟩
  rintro ⟨name, quantity, hdeclared, bound, hbound, habove⟩
  obtain ⟨rfl, rfl⟩ := Prod.mk.inj (List.mem_singleton.mp hdeclared)
  obtain ⟨-, rfl⟩ := Prod.mk.inj (List.mem_singleton.mp hbound)
  exact absurd habove (by decide +kernel)

/-- A project may be created with more usage than its limit; then the update that leaves it as it is
is forbidden. -/
theorem overused_project_not_resubmitted :
    let project := meteredProject "2" "2500m"
    (∃ decision, ((decideRequest .project (submission .create none project)).run
      ({} : Directory).handler []).result = .ok decision ∧ decision.allowed = true) ∧
    ∃ decision, ((decideRequest .project (submission .update (some project) project)).run
      ({} : Directory).handler []).result = .ok decision ∧ decision.allowed = false := by
  intro project
  have hcreated : ((decideRequest .project (submission .create none project)).run
      ({} : Directory).handler []).result.toOption.map (·.allowed) = some true := by decide +kernel
  have hagain : ((decideRequest .project (submission .update (some project) project)).run
      ({} : Directory).handler []).result.toOption.map (·.allowed) = some false := by
    decide +kernel
  obtain ⟨first, hfirst, hallowed⟩ := Option.map_eq_some_iff.mp hcreated
  obtain ⟨second, hsecond, hdenied⟩ := Option.map_eq_some_iff.mp hagain
  exact ⟨⟨first, Except.eq_ok_of_toOption hfirst, hallowed⟩,
    ⟨second, Except.eq_ok_of_toOption hsecond, hdenied⟩⟩

end ProjectRules

end AdmissionControl
