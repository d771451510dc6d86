/-
  AdmissionControl.Proofs.Project.Spelling

  Projects whose quotas are spelled differently and mean the same.

  A limit may be written in any order, under the names of fields or of resources, with suffixes or
  as numbers, and with entries that declare nothing.  What it means is the map that it normalizes
  to: which quantity stands under which name (`SameMap`).  The rules go over the entries in the
  order in which they were written, but a verdict on a project speaks of that map alone: of the
  names in it, of their number, and of the quantities above their bounds, which are listed by name.
  So what a project comes to is also what another one comes to whose limits are the same maps
  (`ProjectVerdict.of_sameQuantities`).
-/

import AdmissionControl.Proofs.Limit.Alike
import AdmissionControl.Proofs.Project.Resubmission

namespace AdmissionControl

/-! ## Limits with the same meaning -/

namespace Limit

/-- Two limits, as far as there are any, are readable and the same map. -/
inductive SameQuantities :
    Option (Except QuantityFailure Limit) → Option (Except QuantityFailure Limit) → Prop where
  | absent : SameQuantities none none
  | readable {first second : Limit} : SameMap first second →
      SameQuantities (some (.ok first)) (some (.ok second))

variable {limit? limit?' : Option (Except QuantityFailure Limit)}

theorem SameQuantities.eq_none_iff (h : SameQuantities limit? limit?') :
    limit? = none ↔ limit?' = none := by
  cases h with
  | absent => exact Iff.rfl
  | readable _ => exact ⟨nofun, nofun⟩

theorem SameQuantities.ne_error (h : SameQuantities limit? limit?')
    (failure : QuantityFailure) :
    limit? ≠ some (.error failure) := by
  cases h <;> exact nofun

theorem SameQuantities.exists_ok (h : SameQuantities limit? limit?') {limit : Limit}
    (hlimit : limit? = some (.ok limit)) :
    ∃ other, limit?' = some (.ok other) ∧ SameMap limit other := by
  cases h with
  | absent => cases hlimit
  | readable hsame =>
    cases hlimit
    exact ⟨_, rfl, hsame⟩

end Limit

namespace ProjectRules

open Limit

/-! ## Verdicts -/

/-- The same is said about the difference of two limits as about that of two others. -/
theorem TellsDifference.of_alike {bounds bounds' defaults defaults' : Limit} {message : Text}
    (h : TellsDifference bounds defaults message) (hbounds : Alike bounds bounds')
    (hdefaults : Alike defaults defaults') : TellsDifference bounds' defaults' message := by
  -- Alike limits declare the same names, and as many of them.
  have hdeclared := hbounds.sameNames
  have hmissing : ∀ name, name ∉ defaults.names ↔ name ∉ defaults'.names :=
    fun name => not_congr (hdefaults.sameNames name)
  cases h with
  | number hlength =>
    rw [hbounds.length_eq, hdefaults.length_eq] at hlength
    exact .number hlength
  | missing hlength hname habsent hleast =>
    rw [hbounds.length_eq, hdefaults.length_eq] at hlength
    refine .missing hlength ((hdeclared _).mp hname) ((hmissing _).mp habsent) ?_
    intro other hother hother'
    exact hleast other ((hdeclared other).mpr hother) ((hmissing other).mpr hother')

variable {old old' : Option Project} {new new' : Project} {bounds defaults used : Limit}

/-- The two quotas of a project have counterparts that are the same maps. -/
theorem exists_alike_of_quotas (hlimit : SameQuantities new.limit? new'.limit?)
    (hnamespace : SameQuantities new.namespaceLimit? new'.namespaceLimit?)
    (hbounds : new.limit? = some (.ok bounds))
    (hdefaults : new.namespaceLimit? = some (.ok defaults)) :
    ∃ bounds' defaults', new'.limit? = some (.ok bounds') ∧
      new'.namespaceLimit? = some (.ok defaults') ∧ Alike bounds bounds' ∧
      Alike defaults defaults' := by
  obtain ⟨bounds', hbounds', hsame⟩ := hlimit.exists_ok hbounds
  obtain ⟨defaults', hdefaults', hsame'⟩ := hnamespace.exists_ok hdefaults
  exact ⟨bounds', defaults', hbounds', hdefaults',
    ⟨normal_of_limit? hbounds, normal_of_limit? hbounds', hsame⟩,
    ⟨normal_of_namespaceLimit? hdefaults, normal_of_namespaceLimit? hdefaults', hsame'⟩⟩

theorem exists_alike_of_usedLimit?
    (h : SameQuantities (old.bind Project.usedLimit?) (old'.bind Project.usedLimit?))
    (hused : old.bind Project.usedLimit? = some (.ok used)) :
    ∃ used', old'.bind Project.usedLimit? = some (.ok used') ∧ Alike used used' := by
  obtain ⟨used', hused', hsame⟩ := h.exists_ok hused
  exact ⟨used', hused', normal_of_usedLimit? hused, normal_of_usedLimit? hused', hsame⟩

/-- Projects whose limits are the same maps come to the same, and this is a decision. -/
theorem ProjectVerdict.of_sameQuantities {result : Except Failure Decision}
    (h : ProjectVerdict old new result) (hlimit : SameQuantities new.limit? new'.limit?)
    (hnamespace : SameQuantities new.namespaceLimit? new'.namespaceLimit?)
    (husage : SameQuantities (old.bind Project.usedLimit?) (old'.bind Project.usedLimit?)) :
    ProjectVerdict old' new' result ∧ ∃ decision, result = .ok decision := by
  cases h with
  | noQuotas hnone hnone' =>
    exact ⟨.noQuotas (hlimit.eq_none_iff.mp hnone) (hnamespace.eq_none_iff.mp hnone'), _, rfl⟩
  | projectQuotaMissing hnone hdefaults =>
    exact ⟨.projectQuotaMissing (hlimit.eq_none_iff.mp hnone)
      (mt hnamespace.eq_none_iff.mpr hdefaults), _, rfl⟩
  | namespaceQuotaMissing hbounds hnone =>
    exact ⟨.namespaceQuotaMissing (mt hlimit.eq_none_iff.mpr hbounds)
      (hnamespace.eq_none_iff.mp hnone), _, rfl⟩
  -- Limits of the same quantities can be read, so no verdict on one that cannot is in question.
  | limitUnreadable hbounds _ => exact absurd hbounds (hlimit.ne_error _)
  | namespaceLimitUnreadable _ hdefaults => exact absurd hdefaults (hnamespace.ne_error _)
  -- The other project has limits alike, and each condition reads these as maps.
  | resourcesDiffer hbounds hdefaults hdiffer hmessage =>
    obtain ⟨bounds', defaults', hbounds', hdefaults', hbound, hdefault⟩ :=
      exists_alike_of_quotas hlimit hnamespace hbounds hdefaults
    exact ⟨.resourcesDiffer hbounds' hdefaults' (mt (hbound.sameNames_iff hdefault).mpr hdiffer)
      (hmessage.of_alike hbound hdefault), _, rfl⟩
  | defaultsExceed hbounds hdefaults hsame hexceeds hlisted =>
    obtain ⟨bounds', defaults', hbounds', hdefaults', hbound, hdefault⟩ :=
      exists_alike_of_quotas hlimit hnamespace hbounds hdefaults
    exact ⟨.defaultsExceed hbounds' hdefaults' ((hbound.sameNames_iff hdefault).mp hsame)
      ((hbound.exists_exceeds_iff hdefault).mp hexceeds) (hlisted.of_alike hbound hdefault), _, rfl⟩
  | noUsage hbounds hdefaults hsame hfits hused =>
    obtain ⟨bounds', defaults', hbounds', hdefaults', hbound, hdefault⟩ :=
      exists_alike_of_quotas hlimit hnamespace hbounds hdefaults
    exact ⟨.noUsage hbounds' hdefaults' ((hbound.sameNames_iff hdefault).mp hsame)
      (mt (hbound.exists_exceeds_iff hdefault).mpr hfits) (husage.eq_none_iff.mp hused), _, rfl⟩
  | usageUnreadable _ _ _ _ hused => exact absurd hused (husage.ne_error _)
  | usageExceeds hbounds hdefaults hsame hfits hused hexceeds hlisted =>
    obtain ⟨bounds', defaults', hbounds', hdefaults', hbound, hdefault⟩ :=
      exists_alike_of_quotas hlimit hnamespace hbounds hdefaults
    obtain ⟨used', hused', husage'⟩ := exists_alike_of_usedLimit? husage hused
    exact ⟨.usageExceeds hbounds' hdefaults' ((hbound.sameNames_iff hdefault).mp hsame)
      (mt (hbound.exists_exceeds_iff hdefault).mpr hfits) hused'
      ((hbound.exists_exceeds_iff husage').mp hexceeds) (hlisted.of_alike hbound husage'), _, rfl⟩
  | usageFits hbounds hdefaults hsame hfits hused hfits' =>
    obtain ⟨bounds', defaults', hbounds', hdefaults', hbound, hdefault⟩ :=
      exists_alike_of_quotas hlimit hnamespace hbounds hdefaults
    obtain ⟨used', hused', husage'⟩ := exists_alike_of_usedLimit? husage hused
    exact ⟨.usageFits hbounds' hdefaults' ((hbound.sameNames_iff hdefault).mp hsame)
      (mt (hbound.exists_exceeds_iff hdefault).mpr hfits) hused'
      (mt (hbound.exists_exceeds_iff husage').mpr hfits'), _, rfl⟩

/-- Two requests for projects are decided alike when their limits, as far as the rules read them,
are the same maps: the limit of the new project, the one for its namespaces, and what the project
before says to be used, each of them there in both requests or in neither.  How they are spelled is
to be seen in no part of the decision. -/
theorem project_decision_independent_of_spelling (handler : Handler σ) (state : σ)
    (handler' : Handler τ) (state' : τ) (request request' : AdmissionRequest)
    (old old' : Option Project) (new new' : Project)
    (hcarried : Carried "Project" Project.decode request old (some new))
    (hcarried' : Carried "Project" Project.decode request' old' (some new'))
    (hlimit : SameQuantities new.limit? new'.limit?)
    (hnamespace : SameQuantities new.namespaceLimit? new'.namespaceLimit?)
    (husage : SameQuantities (old.bind Project.usedLimit?) (old'.bind Project.usedLimit?)) :
    ∃ decision, ((decideRequest .project request).run handler state).result = .ok decision ∧
      ((decideRequest .project request').run handler' state').result = .ok decision := by
  obtain ⟨result, hverdict⟩ := exists_projectVerdict old new
  obtain ⟨hverdict', decision, rfl⟩ := hverdict.of_sameQuantities hlimit hnamespace husage
  exact ⟨decision, result_of_projectVerdict handler state hcarried hverdict,
    result_of_projectVerdict handler' state' hcarried' hverdict'⟩

/-- A project of two processors and five pods, of which a namespace may get half a processor and all
pods. -/
def projectByFields : Project where
  spec := {
    resourceQuota := some { limit := [("limitsCpu", .text "2"), ("pods", .int 5)] }
    namespaceDefaultResourceQuota :=
      some { limit := [("limitsCpu", .text "500m"), ("pods", .text "5")] } }

/-- Its quotas in another spelling. -/
def projectByResources : Project where
  spec := {
    resourceQuota :=
      some { limit := [("pods", .text "5"), ("services", .null), ("limits.cpu", .text "2000m")] }
    namespaceDefaultResourceQuota :=
      some { limit := [("pods", .text "5e0"), ("limits.cpu", .text "0.5")] } }

/-- A project of which more pods and processors are used. -/
def usedByFields : Project where
  spec := { resourceQuota := some { usedLimit := [("pods", .int 6), ("limitsCpu", .text "2.5")] } }

/-- Its usage in another spelling. -/
def usedByResources : Project where
  spec := {
    resourceQuota := some { usedLimit := [("limits.cpu", .text "2500m"), ("pods", .text "6")] } }

theorem limits_byFields :
    projectByFields.limit? = some (.ok [("limits.cpu", 2), ("pods", 5)]) ∧
    projectByFields.namespaceLimit? = some (.ok [("limits.cpu", mkRat 1 2), ("pods", 5)]) ∧
    (some usedByFields).bind Project.usedLimit? =
      some (.ok [("pods", 6), ("limits.cpu", mkRat 5 2)]) := by
  refine ⟨eq_some_ok_of_toOption ?_, eq_some_ok_of_toOption ?_, eq_some_ok_of_toOption ?_⟩ <;>
    decide +kernel

theorem limits_byResources :
    projectByResources.limit? = some (.ok [("pods", 5), ("limits.cpu", 2)]) ∧
    projectByResources.namespaceLimit? = some (.ok [("pods", 5), ("limits.cpu", mkRat 1 2)]) ∧
    (some usedByResources).bind Project.usedLimit? =
      some (.ok [("limits.cpu", mkRat 5 2), ("pods", 6)]) := by
  refine ⟨eq_some_ok_of_toOption ?_, eq_some_ok_of_toOption ?_, eq_some_ok_of_toOption ?_⟩ <;>
    decide +kernel

/-- The denial of the update between the two, in either spelling. -/
def overuseDenial : Decision :=
  .deny .forbidden (path projectQuotaField ++ ": Forbidden: " ++
    "resourceQuota is below the used limit on fields: " ++
    ("limits.cpu=2500m, pods=6" : Text)) []

theorem verdict_byFields :
    ProjectVerdict (some usedByFields) projectByFields (.ok overuseDenial) := by
  obtain ⟨hbounds, hdefaults, hused⟩ := limits_byFields
  have hnormal := normal_of_limit? hbounds
  have hsame : SameNames [("limits.cpu", 2), ("pods", 5)]
      [("limits.cpu", mkRat 1 2), ("pods", 5)] := fun name => by simp [names]
  have hfits : (Limit.exceeding [("limits.cpu", 2), ("pods", 5)]
      [("limits.cpu", mkRat 1 2), ("pods", 5)]).isEmpty = true := by decide +kernel
  have hexceeding : Limit.exceeding [("limits.cpu", 2), ("pods", 5)]
      [("pods", 6), ("limits.cpu", mkRat 5 2)] =
      ([("pods", 6), ("limits.cpu", mkRat 5 2)] : Limit) := by decide +kernel
  -- What is used was written in another order than that in which it is listed.
  have hlisted : ListsExceeded [("limits.cpu", 2), ("pods", 5)]
      [("pods", 6), ("limits.cpu", mkRat 5 2)] ("limits.cpu=2500m, pods=6" : Text) := by
    refine ⟨[("limits.cpu", mkRat 5 2), ("pods", 6)], ?_, fun name quantity => ?_,
      ["limits.cpu=2500m", "pods=6"], ?_, ?_⟩
    · show List.Pairwise _ _
      decide +kernel
    · rw [← mem_exceeding hnormal, hexceeding]
      simp [or_comm]
    · decide +kernel
    · decide +kernel
  refine .usageExceeds hbounds hdefaults hsame ((exceeding_isEmpty hnormal).mp hfits) hused ?_
    hlisted
  exact ⟨"pods", 6, by simp, 5, by simp, by decide +kernel⟩

theorem respelled_update_denied_alike :
    let request := submission .update (some usedByFields) projectByFields
    let request' := submission .update (some usedByResources) projectByResources
    ((decideRequest .project request).run ({} : Directory).handler []).result =
        .ok overuseDenial ∧
      ((decideRequest .project request').run ({} : Directory).handler []).result =
        .ok overuseDenial := by
  intro request request'
  obtain ⟨hbounds, hdefaults, hused⟩ := limits_byFields
  obtain ⟨hbounds', hdefaults', hused'⟩ := limits_byResources
  -- In each pair of limits the entries come in another order.
  have hlimit : SameQuantities projectByFields.limit? projectByResources.limit? := by
    have hsame := sameMap_of_perm (.swap _ _ _) (normal_of_limit? hbounds)
    rw [hbounds, hbounds']
    exact .readable hsame
  have hnamespace :
      SameQuantities projectByFields.namespaceLimit? projectByResources.namespaceLimit? := by
    have hsame := sameMap_of_perm (.swap _ _ _) (normal_of_namespaceLimit? hdefaults)
    rw [hdefaults, hdefaults']
    exact .readable hsame
  have husage : SameQuantities ((some usedByFields).bind Project.usedLimit?)
      ((some usedByResources).bind Project.usedLimit?) := by
    have hsame := sameMap_of_perm (.swap _ _ _) (normal_of_usedLimit? hused)
    rw [hused, hused']
    exact .readable hsame
  have hcarried : Carried "Project" Project.decode request (some usedByFields)
      (some projectByFields) := .update rfl rfl rfl
  have hdenied := result_of_projectVerdict ({} : Directory).handler [] hcarried verdict_byFields
  obtain ⟨decision, hfirst, hsecond⟩ := project_decision_independent_of_spelling
    ({} : Directory).handler [] ({} : Directory).handler [] request request'
    (some usedByFields) (some usedByResources) projectByFields projectByResources
    hcarried (.update rfl rfl rfl) hlimit hnamespace husage
  obtain rfl : overuseDenial = decision := Except.ok.inj (hdenied.symm.trans hfirst)
  exact ⟨hdenied, hsecond⟩

end ProjectRules

end AdmissionControl
