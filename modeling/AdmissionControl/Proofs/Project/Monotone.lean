/-
  AdmissionControl.Proofs.Project.Monotone

  Admitted projects whose quotas are eased.

  A request is eased when the limit of the project is raised, and what is held against this limit is
  lowered: the defaults for namespaces and what the project before says to be used.  Each limit
  keeps its resources, and only their quantities change (`AtMost`).  A quantity that exceeds its
  bound after such a change did so before (`exists_exceeds_of_atMost`).  As an allowed request has
  no quantity above its bound, the eased one has none either, and the rules, which see nothing else
  of the quantities, allow it (`project_admission_monotone_in_quotas`).
-/

import AdmissionControl.Proofs.Project.Resubmission

namespace AdmissionControl

/-! ## Limits below others -/

namespace Limit

/-- Two limits declare the same resources, and the first one no more of any than the second. -/
structure AtMost (lower upper : Limit) : Prop where
  same : SameNames lower upper
  le : ∀ name quantity bound, (name, quantity) ∈ lower → (name, bound) ∈ upper → quantity ≤ bound

variable {lower upper outer outer' inner inner' : Limit} {name : Text}

theorem AtMost.exists_above {quantity : Rat} (h : AtMost lower upper)
    (hmem : (name, quantity) ∈ lower) : ∃ bound, (name, bound) ∈ upper ∧ quantity ≤ bound := by
  obtain ⟨bound, hbound⟩ := mem_names.mp ((h.same name).mp (mem_names.mpr ⟨quantity, hmem⟩))
  exact ⟨bound, hbound, h.le name quantity bound hmem hbound⟩

theorem AtMost.exists_below {bound : Rat} (h : AtMost lower upper)
    (hmem : (name, bound) ∈ upper) : ∃ quantity, (name, quantity) ∈ lower ∧ quantity ≤ bound := by
  obtain ⟨quantity, hquantity⟩ := mem_names.mp ((h.same name).mpr (mem_names.mpr ⟨bound, hmem⟩))
  exact ⟨quantity, hquantity, h.le name quantity bound hquantity hmem⟩

theorem atMost_singleton {quantity bound : Rat} (h : quantity ≤ bound) :
    AtMost [(name, quantity)] [(name, bound)] where
  same := fun _ => Iff.rfl
  le := by
    intro other quantity' bound' hquantity hbound
    rw [List.mem_singleton, Prod.mk.injEq] at hquantity hbound
    rw [hquantity.2, hbound.2]
    exact h

/-- What exceeds a raised bound with less exceeded the bound before. -/
theorem exists_exceeds_of_atMost (houter : AtMost outer outer') (hinner : AtMost inner' inner)
    (h : ∃ name quantity, Exceeds outer' inner' name quantity) :
    ∃ name quantity, Exceeds outer inner name quantity := by
  obtain ⟨name, quantity', hquantity', bound', hbound', habove⟩ := h
  obtain ⟨quantity, hquantity, hlowered⟩ := hinner.exists_above hquantity'
  obtain ⟨bound, hbound, hraised⟩ := houter.exists_below hbound'
  refine ⟨name, quantity, hquantity, bound, hbound, ?_⟩
  calc bound ≤ bound' := hraised
    _ < quantity' := habove
    _ ≤ quantity := hlowered

end Limit

namespace ProjectRules

open Limit

variable {old old' : Option Project} {new new' : Project}

/-! ## Eased requests -/

/-- Both quotas are there and readable before and after, the limit of the project raised and the
default for namespaces lowered, each on the resources that it had. -/
structure QuotasEased (new new' : Project) : Prop where
  raised : ∃ bounds bounds', new.limit? = some (.ok bounds) ∧ new'.limit? = some (.ok bounds') ∧
    AtMost bounds bounds'
  lowered : ∃ defaults defaults', new.namespaceLimit? = some (.ok defaults) ∧
    new'.namespaceLimit? = some (.ok defaults') ∧ AtMost defaults' defaults

/-- What the project before says to be used is readable and lowered, as far as there is a quota. -/
def UsageEased (old old' : Option Project) : Prop :=
  ∀ usage', old'.bind Project.usedLimit? = some usage' →
    ∃ used used', old.bind Project.usedLimit? = some (.ok used) ∧ usage' = .ok used' ∧
      AtMost used' used

/-- Quotas that agree do so after they are eased. -/
theorem QuotasAgree.of_eased (h : QuotasAgree new) (heased : QuotasEased new new') :
    QuotasAgree new' := by
  obtain ⟨⟨bounds, bounds', hbounds, hbounds', hraised⟩,
    ⟨defaults, defaults', hdefaults, hdefaults', hlowered⟩⟩ := heased
  rcases h with ⟨hnone, -⟩ | ⟨bounds₀, defaults₀, hlimit, hnamespace, hsame, hfits⟩
  · rw [hbounds] at hnone
    cases hnone
  · -- The limits that agree are those that are eased.
    rw [hbounds] at hlimit
    rw [hdefaults] at hnamespace
    cases hlimit
    cases hnamespace
    have hsame' : SameNames bounds' defaults' := fun name =>
      (hraised.same name).symm.trans ((hsame name).trans (hlowered.same name).symm)
    exact .inr ⟨bounds', defaults', hbounds', hdefaults', hsame',
      mt (exists_exceeds_of_atMost hraised hlowered) hfits⟩

/-- Usage that fits into a limit does so after it is lowered and the limit raised. -/
theorem UsageFits.of_eased (h : UsageFits old new) (hquotas : QuotasEased new new')
    (husage : UsageEased old old') : UsageFits old' new' := by
  obtain ⟨bounds, bounds', hbounds, hbounds', hraised⟩ := hquotas.raised
  intro limit usage hlimit husage'
  rw [hbounds'] at hlimit
  cases hlimit
  obtain ⟨used, used', hused, rfl, hlowered⟩ := husage usage husage'
  obtain ⟨used₀, hread, hfits⟩ := h bounds _ hbounds hused
  cases hread
  exact ⟨used', rfl, mt (exists_exceeds_of_atMost hraised hlowered) hfits⟩

/-- If a request that writes a project with both quotas is allowed, then so is every request that
writes one with a limit at least as great on each resource, with defaults for namespaces at most as
great, and over a project that says at most as much to be used, in whatever spelling. -/
theorem project_admission_monotone_in_quotas (handler : Handler σ) (state : σ)
    (handler' : Handler τ) (state' : τ) (request request' : AdmissionRequest)
    (old old' : Option Project) (new new' : Project)
    (hcarried : Carried "Project" Project.decode request old (some new))
    (hcarried' : Carried "Project" Project.decode request' old' (some new'))
    (hquotas : QuotasEased new new') (husage : UsageEased old old')
    (hallowed : ∃ decision, ((decideRequest .project request).run handler state).result =
      .ok decision ∧ decision.allowed = true) :
    ((decideRequest .project request').run handler' state').result = .ok (.allow []) := by
  obtain ⟨hagree, hfits⟩ := (allowed_iff_fits handler state hcarried).mp hallowed
  exact result_of_projectVerdict handler' state' hcarried'
    (allowed_of_fits (hagree.of_eased hquotas) (hfits.of_eased hquotas husage))

/-- A project with quotas for processors, spelled otherwise than those of `meteredProject`: two and
a half of them, a quarter for a namespace, and one used. -/
def easedProject : Project where
  spec := {
    resourceQuota := some {
      limit := [("limits.cpu", .text "2.5")], usedLimit := [("limitsCpu", .text "1000m")] }
    namespaceDefaultResourceQuota :=
      some { limit := [("pods", .null), ("limitsCpu", .text "250e-3")] } }

theorem eased_update_allowed :
    let project := meteredProject "2" "1500m"
    QuotasEased project easedProject ∧ UsageEased (some project) (some easedProject) ∧
      (∃ decision, ((decideRequest .project (submission .update (some project) project)).run
        ({} : Directory).handler []).result = .ok decision ∧ decision.allowed = true) ∧
      ((decideRequest .project (submission .update (some easedProject) easedProject)).run
        ({} : Directory).handler []).result = .ok (.allow []) := by
  intro project
  have hlimits : project.limit? = some (.ok [("limits.cpu", 2)]) ∧
      project.namespaceLimit? = some (.ok [("limits.cpu", mkRat 1 2)]) ∧
      project.usedLimit? = some (.ok [("limits.cpu", mkRat 3 2)]) := by
    refine ⟨eq_some_ok_of_toOption ?_, eq_some_ok_of_toOption ?_, eq_some_ok_of_toOption ?_⟩ <;>
      decide +kernel
  have hlimits' : easedProject.limit? = some (.ok [("limits.cpu", mkRat 5 2)]) ∧
      easedProject.namespaceLimit? = some (.ok [("limits.cpu", mkRat 1 4)]) ∧
      easedProject.usedLimit? = some (.ok [("limits.cpu", 1)]) := by
    refine ⟨eq_some_ok_of_toOption ?_, eq_some_ok_of_toOption ?_, eq_some_ok_of_toOption ?_⟩ <;>
      decide +kernel
  obtain ⟨hbounds, hdefaults, hused⟩ := hlimits
  obtain ⟨hbounds', hdefaults', hused'⟩ := hlimits'
  -- One resource on each side, so its two quantities are all there is to compare.
  have hquotas : QuotasEased project easedProject :=
    ⟨⟨_, _, hbounds, hbounds', atMost_singleton (by decide +kernel)⟩,
      ⟨_, _, hdefaults, hdefaults', atMost_singleton (by decide +kernel)⟩⟩
  have husage : UsageEased (some project) (some easedProject) := by
    intro usage hread
    rw [Option.bind_some, hused'] at hread
    cases hread
    exact ⟨_, _, hused, rfl, atMost_singleton (by decide +kernel)⟩
  have hdecided : ((decideRequest .project (submission .update (some project) project)).run
      ({} : Directory).handler []).result.toOption.map (·.allowed) = some true := by decide +kernel
  obtain ⟨decision, hdecision, hallowed⟩ := Option.map_eq_some_iff.mp hdecided
  have hadmitted : ∃ decision, ((decideRequest .project (submission .update (some project)
      project)).run ({} : Directory).handler []).result = .ok decision ∧ decision.allowed = true :=
    ⟨decision, Except.eq_ok_of_toOption hdecision, hallowed⟩
  -- The update before is evaluated; the eased one follows from it.
  have heased := project_admission_monotone_in_quotas ({} : Directory).handler []
    ({} : Directory).handler [] (submission .update (some project) project)
    (submission .update (some easedProject) easedProject) (some project) (some easedProject)
    project easedProject (.update rfl rfl rfl) (.update rfl rfl rfl) hquotas husage hadmitted
  exact ⟨hquotas, husage, hadmitted, heased⟩

end ProjectRules

end AdmissionControl
