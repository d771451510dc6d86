/-
  The rules for projects.

  A system project cannot be deleted.  The two quotas of a project come together, declare the
  same resources, and fit into each other; and a project's quota cannot fall below what is used
  of the quota before.
-/

import AdmissionControl.Model.Project
import AdmissionControl.Rules.Basic

namespace AdmissionControl.ProjectRules

/-- The label of a system project. -/
def systemProject : Text := "authz.management.cattle.io/system-project"

def projectQuotaField : Text := "resourceQuota"

def namespaceQuotaField : Text := "namespaceDefaultResourceQuota"

def path (field : Text) : Text := "project.spec." ++ field

/-- The two quotas that a request brings; on deletion there are none. -/
def quotas (context : RuleContext Project) :
    Consultation (Option ProjectQuota × Option NamespaceQuota) := do
  if context.operation = .delete then return (none, none)
  let new ← context.requireNew
  return (new.spec.resourceQuota, new.spec.namespaceDefaultResourceQuota)

def normalized (limit : StoredLimit) : Consultation Limit :=
  .ofExcept .ofQuantity limit.normalize

/-- The entries of one limit above the bounds of another. -/
def exceeding (outer inner : StoredLimit) : Consultation Limit := do
  let outer ← normalized outer
  let inner ← normalized inner
  return Limit.exceeding outer inner

/-- The entries of a limit as they are listed in messages. -/
def describe (limit : Limit) : Consultation Text :=
  match limit.describe? with
  | some text => pure text
  | none => .fail .unwritable

/-! ## Rules -/

/-- A system project cannot be deleted. -/
def systemProjectDelete (context : RuleContext Project) : Consultation RuleResult := do
  if context.operation ≠ .delete then return .allow
  let old ← context.requireOld
  if old.label? systemProject == some "true" then
    return .deny .forbidden "System Project cannot be deleted"
  return .allow

/-- Either quota requires the other. -/
def quotaFieldsPresent (context : RuleContext Project) : Consultation RuleResult := do
  match ← quotas context with
  | (none, some _) =>
    return .deny .badRequest (path projectQuotaField ++ ": Required value: required when " ++
      namespaceQuotaField ++ " is set")
  | (some _, none) =>
    return .deny .badRequest (path namespaceQuotaField ++ ": Required value: required when " ++
      projectQuotaField ++ " is set")
  | _ => return .allow

/-- The first resource by name that one limit declares and another does not. -/
def firstMissing (declared other : Limit) : Option Text :=
  (declared.sorted.map Prod.fst).find? fun name => (other.lookup name).isNone

/-- What is said about the resources that the two quotas declare. -/
def compareResources (project namespaceDefault : Limit) : RuleResult :=
  if project.length ≠ namespaceDefault.length then
    .deny .badRequest (path projectQuotaField ++ ": Invalid value: " ++
      "resource quota and namespace default quota do not have the same resources defined")
  else match firstMissing project namespaceDefault with
    | some name =>
      .deny .badRequest (path namespaceQuotaField ++ ": Invalid value: " ++
        "missing namespace default for resource " ++ name ++ " defined on " ++ projectQuotaField)
    | none => .allow

/-- The two quotas declare the same resources. -/
def quotaResourcesMatch (context : RuleContext Project) : Consultation RuleResult := do
  match ← quotas context with
  | (some project, some namespaceDefault) =>
    let projectLimit ← normalized project.limit
    let namespaceLimit ← normalized namespaceDefault.limit
    return compareResources projectLimit namespaceLimit
  | _ => return .allow

/-- What is said about entries above their bounds. -/
def denyExceeding (intro : Text) (exceeded : Limit) : Consultation RuleResult := do
  if exceeded.isEmpty then return .allow
  let listed ← describe exceeded
  return .deny .forbidden (intro ++ listed)

/-- The quota for a namespace fits into the project's. -/
def namespaceQuotaFits (context : RuleContext Project) : Consultation RuleResult := do
  match ← quotas context with
  | (some project, some namespaceDefault) =>
    let exceeded ← exceeding project.limit namespaceDefault.limit
    denyExceeding (path namespaceQuotaField ++ ": Forbidden: " ++
      "namespace default quota limit exceeds project limit on fields: ") exceeded
  | _ => return .allow

/-- A project's quota does not fall below what was used of the quota before. -/
def usedQuotaFits (context : RuleContext Project) : Consultation RuleResult := do
  if context.operation ≠ .update then return .allow
  let old ← context.requireOld
  match old.spec.resourceQuota with
  | none => return .allow
  | some oldQuota =>
    match ← quotas context with
    | (none, _) => return .allow
    | (some project, _) =>
      let exceeded ← exceeding project.limit oldQuota.usedLimit
      denyExceeding (path projectQuotaField ++ ": Forbidden: " ++
        "resourceQuota is below the used limit on fields: ") exceeded

def all : List (Rule Project) := [
  ⟨"system-project-delete", systemProjectDelete⟩,
  ⟨"quota-fields-present", quotaFieldsPresent⟩,
  ⟨"quota-resources-match", quotaResourcesMatch⟩,
  ⟨"namespace-quota-fits", namespaceQuotaFits⟩,
  ⟨"used-quota-fits", usedQuotaFits⟩]

end AdmissionControl.ProjectRules
