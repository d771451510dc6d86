/-
  Projects and their quotas.

  The limits of a quota are kept as they were written, apart from truth values, which count as
  the integers zero and one.
-/

import AdmissionControl.Limit
import AdmissionControl.Model.ObjectMeta

namespace AdmissionControl

/-- The value of an entry of a quota's limit. -/
inductive LimitValue where
  | null
  | text (s : Text)
  | int (n : Int)
  | float (x : Binary64)
  deriving DecidableEq

namespace LimitValue

/-- Decodes a value; any other kind of value fails as text, as an integer and as a float. -/
def decode : Decoder LimitValue
  | .null => .value .null
  | .str s => .value (.text s)
  | .int n => .value (.int n)
  | .float x => .value (.float x)
  | .bool b => .value (.int (if b then 1 else 0))
  | _ => .errors ⟨[.name "str"], .stringType⟩
      [⟨[.name "int"], .intType⟩, ⟨[.name "float"], .floatType⟩]

def toJson : LimitValue → Json
  | .null => .null
  | .text s => .str s
  | .int n => .int n
  | .float x => .float x

end LimitValue

/-- The limit of a quota as it is stored. -/
abbrev StoredLimit := List (Text × LimitValue)

namespace StoredLimit

/-- Decodes a limit; a trivial one counts as empty. -/
def decode : Decoder StoredLimit := .orTrivial [] (.object LimitValue.decode)

/-- The entries of a limit with their values as JSON. -/
def toRaw (limit : StoredLimit) : RawLimit := limit.map fun entry => (entry.1, entry.2.toJson)

def normalize (limit : StoredLimit) : Except QuantityFailure Limit := Limit.normalize limit.toRaw

end StoredLimit

/-- The quota of a project as a whole, and how much of it its namespaces use. -/
structure ProjectQuota where
  limit : StoredLimit := []
  usedLimit : StoredLimit := []
  deriving DecidableEq

/-- The quota that each new namespace of a project gets. -/
structure NamespaceQuota where
  limit : StoredLimit := []
  deriving DecidableEq

structure ProjectSpec where
  displayName : Text := ""
  clusterName : Text := ""
  resourceQuota : Option ProjectQuota := none
  namespaceDefaultResourceQuota : Option NamespaceQuota := none
  deriving DecidableEq

structure Project where
  metadata : ObjectMeta := {}
  spec : ProjectSpec := {}
  deriving DecidableEq

namespace ProjectQuota

def decode : Decoder ProjectQuota := .model fun members =>
  ProjectQuota.mk
    <$> FieldName.decode ⟨"limit", none⟩ [] StoredLimit.decode members
    <*> FieldName.decode ⟨"usedLimit", some "used_limit"⟩ [] StoredLimit.decode members

def toJson (quota : ProjectQuota) : Json := .obj [
  ("limit", .obj quota.limit.toRaw),
  ("usedLimit", .obj quota.usedLimit.toRaw)]

end ProjectQuota

namespace NamespaceQuota

def decode : Decoder NamespaceQuota := .model fun members =>
  NamespaceQuota.mk <$> FieldName.decode ⟨"limit", none⟩ [] StoredLimit.decode members

def toJson (quota : NamespaceQuota) : Json := .obj [("limit", .obj quota.limit.toRaw)]

end NamespaceQuota

namespace ProjectSpec

/-- Decodes a specification; each quota may be null. -/
def decode : Decoder ProjectSpec := .model fun members =>
  ProjectSpec.mk
    <$> FieldName.decode ⟨"displayName", some "display_name"⟩ "" .text members
    <*> FieldName.decode ⟨"clusterName", some "cluster_name"⟩ "" .text members
    <*> FieldName.decode ⟨"resourceQuota", some "resource_quota"⟩ none
      (.optional ProjectQuota.decode) members
    <*> FieldName.decode
      ⟨"namespaceDefaultResourceQuota", some "namespace_default_resource_quota"⟩ none
      (.optional NamespaceQuota.decode) members

/-- A specification under its wire names; an absent quota is null. -/
def toJson (spec : ProjectSpec) : Json := .obj [
  ("displayName", .str spec.displayName),
  ("clusterName", .str spec.clusterName),
  ("resourceQuota", (spec.resourceQuota.map ProjectQuota.toJson).getD .null),
  ("namespaceDefaultResourceQuota",
    (spec.namespaceDefaultResourceQuota.map NamespaceQuota.toJson).getD .null)]

end ProjectSpec

namespace Project

def decode : Decoder Project := .model fun members =>
  Project.mk
    <$> FieldName.decode ⟨"metadata", none⟩ {} ObjectMeta.decode members
    <*> FieldName.decode ⟨"spec", none⟩ {} ProjectSpec.decode members

def toJson (project : Project) : Json := .obj [
  ("metadata", project.metadata.toJson),
  ("spec", project.spec.toJson)]

def label? (project : Project) (key : Text) : Option Text :=
  project.metadata.labels.lookup key

end Project

end AdmissionControl
