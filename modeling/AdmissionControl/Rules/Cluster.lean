/-
  The rules for clusters.

  They keep a cluster in its fleet workspace unless the user may add clusters to the new one,
  hold the annotations about its creator fixed, check those annotations when the cluster is
  created, and watch over the annotation that turns version management on or off.
-/

import AdmissionControl.Model.Cluster
import AdmissionControl.Rules.Basic

namespace AdmissionControl.ClusterRules

/-! ## Names -/

/-- The annotation that names the user who created a cluster. -/
def creatorId : Text := "field.cattle.io/creatorId"

/-- The annotation that names the principal under which the creator was logged in. -/
def creatorPrincipalName : Text := "field.cattle.io/creator-principal-name"

/-- The annotation that keeps the creator from becoming owner. -/
def noCreatorRbac : Text := "field.cattle.io/no-creator-rbac"

/-- The annotation that says who manages the version of an imported cluster. -/
def versionManagement : Text := "rancher.io/imported-cluster-version-management"

def versionManagementSetting : Text := "imported-cluster-version-management"

/-- The values of the annotation on version management. -/
def versionManagementValues : List Text := ["true", "false", "system-default"]

/-- The values of the annotation on version management as they are listed in messages. -/
def versionManagementChoices : Text := Text.intercalate ", " versionManagementValues

/-- The drivers of clusters whose version the platform manages. -/
def managedDrivers : List Text := ["rke2", "k3s"]

/-- The verb that is needed on a fleet workspace to add clusters to it. -/
def addClusterVerb : Text := "fleetaddcluster"

/-- A fleet workspace as the resource of an access check. -/
def workspaceResource (workspace : Text) : ResourceAttributes where
  group := "management.cattle.io"
  version := "v3"
  resource := "fleetworkspaces"
  name := workspace

/-! ## Version management -/

/-- Whether the version of a cluster is managed: as its annotation says, or as the global setting
says when the annotation defers to it. -/
def versionManagementEnabled (cluster : Option Cluster) : Consultation Bool :=
  match cluster with
  | none => .fail (.versionManagement .clusterMissing)
  | some cluster =>
    match cluster.annotationValue? versionManagement with
    | none => .fail (.versionManagement (.annotationMissing versionManagement))
    | some value =>
      if value == "true" then pure true
      else if value == "false" then pure false
      else if value == "system-default" then do
        let setting ← Consultation.setting versionManagementSetting
        return setting.value == "true"
      else
        .fail (.versionManagement (.unknownValue versionManagement value versionManagementValues))

/-! ## Rules -/

/-- A fleet workspace cannot be unset. -/
def fleetWorkspaceUnset (context : RuleContext Cluster) : Consultation RuleResult := do
  if context.operation ≠ .update then return .allow
  let old ← context.requireOld
  if old.workspace == "" then return .allow
  let new ← context.requireNew
  if new.workspace ≠ "" then return .allow
  return .deny .invalid
    "cluster.spec.fleetWorkspaceName: Invalid value: \"\": field cannot be unset once set"

/-- To move a cluster into a fleet workspace one must be allowed to add clusters to it. -/
def fleetWorkspacePermission (context : RuleContext Cluster) : Consultation RuleResult := do
  if context.operation ≠ .create && context.operation ≠ .update then return .allow
  let new ← context.requireNew
  let workspace := new.workspace
  if workspace == "" then return .allow
  if (context.old.map Cluster.workspace) == some workspace then return .allow
  if ← Consultation.granted ⟨context.user, addClusterVerb, workspaceResource workspace⟩ then
    return .allow
  return .deny .forbidden
    ("user " ++ context.user.username.quoted ++
      " is not allowed to add clusters to fleet workspace " ++ workspace.quoted)

/-- Whether an annotation of the new cluster is absent or as it was. -/
def annotationKept (old new : Cluster) (key : Text) : Bool :=
  match new.annotationValue? key with
  | none => true
  | some value => old.annotationValue? key == some value

/-- The annotations about the creator cannot be set or changed later; they may be removed. -/
def creatorAnnotationsImmutable (context : RuleContext Cluster) : Consultation RuleResult := do
  if context.operation ≠ .update then return .allow
  let old ← context.requireOld
  let new ← context.requireNew
  let annotations := [creatorId, creatorPrincipalName]
  match annotations.find? fun annotation => !annotationKept old new annotation with
  | some annotation =>
    return .deny .badRequest ("metadata.annotations: Forbidden: " ++ annotation ++ " is immutable")
  | none => return .allow

/-- A new cluster names an existing user as its creator, and one of that user's principals, or
neither. -/
def creatorReference (context : RuleContext Cluster) : Consultation RuleResult := do
  if context.operation ≠ .create then return .allow
  let new ← context.requireNew
  let principal := (new.annotationValue? creatorPrincipalName).getD ""
  let creator := (new.annotationValue? creatorId).getD ""
  if principal ≠ "" && creator == "" then
    return .deny .badRequest
      ("metadata.annotations." ++ creatorPrincipalName ++ ": Invalid value: " ++
        principal.quoted ++ ": creator principal name requires " ++ creatorId)
  if creator == "" then return .allow
  match ← Consultation.user? creator with
  | none =>
    return .deny .badRequest
      ("metadata.annotations." ++ creatorId ++ ": Invalid value: " ++ creator.quoted ++
        ": creator user doesn't exist")
  | some user =>
    if principal ≠ "" && !user.principalIds.contains principal then
      return .deny .badRequest
        ("metadata.annotations." ++ creatorPrincipalName ++ ": Invalid value: " ++
          principal.quoted ++ ": creator user " ++ creator.quoted ++
          " doesn't have this principal")
    return .allow

/-- Whether the creator becomes owner cannot be changed; an absent annotation counts as empty. -/
def noCreatorRbacImmutable (context : RuleContext Cluster) : Consultation RuleResult := do
  if context.operation ≠ .update then return .allow
  let old ← context.requireOld
  let new ← context.requireNew
  let written (cluster : Cluster) : Text := (cluster.annotationValue? noCreatorRbac).getD ""
  if written old == written new then return .allow
  return .deny .badRequest
    ("metadata.annotations: Forbidden: " ++ noCreatorRbac ++ " is immutable")

/-- A new cluster whose creator does not become owner names no creator. -/
def noCreatorRbacWithCreator (context : RuleContext Cluster) : Consultation RuleResult := do
  if context.operation ≠ .create then return .allow
  let new ← context.requireNew
  let creator := new.annotationValue? creatorId
  if new.annotationValue? noCreatorRbac == some "true" && creator.isSome then
    return .deny .badRequest
      ("metadata.annotations: Forbidden: " ++ creatorId ++ " can't be set together with " ++
        noCreatorRbac)
  return .allow

/-- Whether the global setting turns the checks on version management on. -/
def versionManagementChecked : Consultation Bool := do
  match ← Consultation.setting? versionManagementSetting with
  | some setting => return setting.value == "true"
  | none =>
    Consultation.record .debug ("Setting " ++ versionManagementSetting ++
      " not found, skipping version management checks")
    return false

/-- What is said about the annotation on a cluster whose version is not managed. -/
def unmanagedVersion (driver : Text) (value : Option Text) : RuleResult :=
  match value with
  | none => .allow
  | some value =>
    if versionManagementValues.contains value then
      .warn ("The annotation " ++ versionManagement ++ " takes effect only on imported " ++
        "RKE2/K3s clusters, it is ignored for cluster driver " ++ driver.quoted)
    else
      .warn ("The value " ++ value.quoted ++ " of the annotation " ++ versionManagement ++
        " is invalid (supported values: " ++ versionManagementChoices ++
        "); it is ignored for cluster driver " ++ driver.quoted)

/-- What is said about the annotation on a cluster whose version is managed. -/
def managedVersion (operation : Operation) (driver : Text) (old new : Option Text) :
    RuleResult :=
  match new with
  | none =>
    if operation = .create then
      .deny .badRequest ("metadata.annotations: Required value: the annotation " ++
        versionManagement ++ " is required for " ++ driver ++ " clusters")
    else if old.isSome then
      .deny .badRequest ("metadata.annotations: Forbidden: the annotation " ++
        versionManagement ++ " can not be removed")
    else .allow
  | some value =>
    if operation = .update && old == some value then .allow
    else if versionManagementValues.contains value then .allow
    else
      .deny .badRequest ("metadata.annotations." ++ versionManagement ++
        ": Unsupported value: " ++ value.quoted ++ ": supported values: " ++
        versionManagementChoices)

/-- The driver that counts for a cluster: its own, or else that of the cluster before. -/
def effectiveDriver (old : Option Cluster) (new : Cluster) : Text :=
  if new.driver == "" then (old.map Cluster.driver).getD "" else new.driver

/-- The annotation on version management is valid, and present where it is needed. -/
def versionManagementRule (context : RuleContext Cluster) : Consultation RuleResult := do
  if context.operation ≠ .create && context.operation ≠ .update then return .allow
  if !(← versionManagementChecked) then return .allow
  let new ← context.requireNew
  let driver := effectiveDriver context.old new
  let value := new.annotationValue? versionManagement
  if managedDrivers.contains driver then
    return managedVersion context.operation driver
      (context.old.bind (·.annotationValue? versionManagement)) value
  return unmanagedVersion driver value

def all : List (Rule Cluster) := [
  ⟨"fleet-workspace-unset", fleetWorkspaceUnset⟩,
  ⟨"fleet-workspace-permission", fleetWorkspacePermission⟩,
  ⟨"creator-annotations-immutable", creatorAnnotationsImmutable⟩,
  ⟨"creator-reference", creatorReference⟩,
  ⟨"no-creator-rbac-immutable", noCreatorRbacImmutable⟩,
  ⟨"no-creator-rbac-creator-id", noCreatorRbacWithCreator⟩,
  ⟨"version-management", versionManagementRule⟩]

end AdmissionControl.ClusterRules
