/-
  Clusters.
-/

import AdmissionControl.Model.ObjectMeta

namespace AdmissionControl

structure ClusterSpec where
  displayName : Text := ""
  fleetWorkspaceName : Text := ""
  deriving DecidableEq

structure ClusterStatus where
  driver : Text := ""
  deriving DecidableEq

structure Cluster where
  metadata : ObjectMeta := {}
  spec : ClusterSpec := {}
  status : ClusterStatus := {}
  deriving DecidableEq

namespace ClusterSpec

/-- Decodes a specification; a trivial workspace counts as none. -/
def decode : Decoder ClusterSpec := .model fun members =>
  ClusterSpec.mk
    <$> FieldName.decode ⟨"displayName", some "display_name"⟩ "" .text members
    <*> FieldName.decode ⟨"fleetWorkspaceName", some "fleet_workspace_name"⟩ ""
      (.orTrivial "" .text) members

def toJson (spec : ClusterSpec) : Json := .obj [
  ("displayName", .str spec.displayName),
  ("fleetWorkspaceName", .str spec.fleetWorkspaceName)]

end ClusterSpec

namespace ClusterStatus

/-- Decodes a status; a trivial driver counts as none. -/
def decode : Decoder ClusterStatus := .model fun members =>
  ClusterStatus.mk <$> FieldName.decode ⟨"driver", none⟩ "" (.orTrivial "" .text) members

def toJson (status : ClusterStatus) : Json := .obj [("driver", .str status.driver)]

end ClusterStatus

namespace Cluster

def decode : Decoder Cluster := .model fun members =>
  Cluster.mk
    <$> FieldName.decode ⟨"metadata", none⟩ {} ObjectMeta.decode members
    <*> FieldName.decode ⟨"spec", none⟩ {} ClusterSpec.decode members
    <*> FieldName.decode ⟨"status", none⟩ {} ClusterStatus.decode members

def toJson (cluster : Cluster) : Json := .obj [
  ("metadata", cluster.metadata.toJson),
  ("spec", cluster.spec.toJson),
  ("status", cluster.status.toJson)]

def annotationValue? (cluster : Cluster) (key : Text) : Option Text :=
  cluster.metadata.annotations.lookup key

/-- The fleet workspace that a cluster is in, empty for none. -/
def workspace (cluster : Cluster) : Text := cluster.spec.fleetWorkspaceName

/-- The driver of a cluster, empty when it is not known. -/
def driver (cluster : Cluster) : Text := cluster.status.driver

end Cluster

end AdmissionControl
