/-
  AdmissionControl.Proofs.Model.Shape

  The shapes that the models ask of JSON values.

  A `Shape` says which values are accepted, and for a model which fields it has: under which names
  each may stand, whether it must be there, and what its value is to be.  The table
  `ModelName.fields` lists them for every model.  The names of a model's fields are all different
  (`ModelName.nodup_names`).

  `Decoder.Follows` relates each way to build a decoder to the shape that it asks for, so what is
  said about decoders of a shape is proved once, by induction on it.  Every model follows its shape
  (`Cluster.follows`, `Project.follows`, `AdmissionRequest.follows`, `UserInfo.follows`).
-/

import AdmissionControl.Review
import Mathlib.Data.List.Nodup
import Mathlib.Data.List.Pairwise

namespace AdmissionControl

/-! ## Where fields are found -/

namespace FieldName

variable {field : FieldName} {members others : Entries Json} {name : Text} {j : Json}

/-- The names under which a field may stand. -/
def names (field : FieldName) : List Text := field.wire :: field.other.toList

/-- Where a field is found depends on nothing but what stands under its names. -/
theorem find?_congr (h : ∀ name ∈ field.names, members.lookup name = others.lookup name) :
    field.find? members = field.find? others := by
  obtain ⟨wire, other⟩ := field
  rw [names, List.forall_mem_cons] at h
  obtain ⟨hwire, hother⟩ := h
  rw [find?, find?, hwire]
  cases other with
  | none => rfl
  | some second =>
    have hsecond := hother second (List.mem_singleton_self second)
    simp only [Option.bind_some, hsecond]

/-- What is found is a member with a name of the field. -/
theorem mem_names_of_find? (h : field.find? members = some (name, j)) :
    name ∈ field.names ∧ members.lookup name = some j := by
  unfold find? at h
  split at h
  next found hwire =>
    cases h
    exact ⟨List.mem_cons_self, hwire⟩
  next =>
    obtain ⟨second, hsecond, hfound⟩ := Option.bind_eq_some_iff.mp h
    obtain ⟨found, hlookup, hsame⟩ := Option.map_eq_some_iff.mp hfound
    cases hsame
    exact ⟨List.mem_cons_of_mem _ (Option.mem_toList.mpr hsecond), hlookup⟩

/-- The value under the wire name goes before that under the other. -/
theorem map_snd_find? (field : FieldName) (members : Entries Json) :
    (field.find? members).map Prod.snd =
      (members.lookup field.wire).or (field.other.bind fun name => members.lookup name) := by
  unfold find?
  cases members.lookup field.wire with
  | some j => rfl
  | none =>
    cases field.other with
    | none => rfl
    | some second => simp [Function.comp_def]

end FieldName

/-! ## Shapes -/

/-- The models that are read from objects.  A request carries objects of any content, or those of a
kind. -/
inductive ModelName where
  | objectMeta
  | clusterSpec
  | clusterStatus
  | cluster
  | projectQuota
  | namespaceQuota
  | projectSpec
  | project
  | groupVersionKind
  | groupVersionResource
  | userInfo
  | request (carried : Option ResourceKind)
  deriving DecidableEq

/-- What is asked of a value. -/
inductive Shape where
  | text
  | oneOf (names : List Text)
  | limitValue
  | anything
  | list (item : Shape)
  | object (value : Shape)
  | orNull (shape : Shape)
  | model (name : ModelName)
  deriving DecidableEq

/-- Whether a field must be there.  For some fields a trivial value is as good as none. -/
inductive Presence where
  | required
  | optional
  | orTrivial
  deriving DecidableEq

/-- A field of a model. -/
structure Field where
  name : FieldName
  presence : Presence
  shape : Shape

/-- The shape of the objects that a request carries. -/
def Shape.ofCarried : Option ResourceKind → Shape
  | none => .object .anything
  | some .cluster => .model .cluster
  | some .project => .model .project

/-- The fields of each model, in the order in which they are decoded. -/
def ModelName.fields : ModelName → List Field
  | .objectMeta => [
    ⟨⟨"name", none⟩, .optional, .text⟩,
    ⟨⟨"namespace", none⟩, .optional, .text⟩,
    ⟨⟨"labels", none⟩, .orTrivial, .object .text⟩,
    ⟨⟨"annotations", none⟩, .orTrivial, .object .text⟩]
  | .clusterSpec => [
    ⟨⟨"displayName", some "display_name"⟩, .optional, .text⟩,
    ⟨⟨"fleetWorkspaceName", some "fleet_workspace_name"⟩, .orTrivial, .text⟩]
  | .clusterStatus => [⟨⟨"driver", none⟩, .orTrivial, .text⟩]
  | .cluster => [
    ⟨⟨"metadata", none⟩, .optional, .model .objectMeta⟩,
    ⟨⟨"spec", none⟩, .optional, .model .clusterSpec⟩,
    ⟨⟨"status", none⟩, .optional, .model .clusterStatus⟩]
  | .projectQuota => [
    ⟨⟨"limit", none⟩, .orTrivial, .object .limitValue⟩,
    ⟨⟨"usedLimit", some "used_limit"⟩, .orTrivial, .object .limitValue⟩]
  | .namespaceQuota => [⟨⟨"limit", none⟩, .orTrivial, .object .limitValue⟩]
  | .projectSpec => [
    ⟨⟨"displayName", some "display_name"⟩, .optional, .text⟩,
    ⟨⟨"clusterName", some "cluster_name"⟩, .optional, .text⟩,
    ⟨⟨"resourceQuota", some "resource_quota"⟩, .optional, .orNull (.model .projectQuota)⟩,
    ⟨⟨"namespaceDefaultResourceQuota", some "namespace_default_resource_quota"⟩, .optional,
      .orNull (.model .namespaceQuota)⟩]
  | .project => [
    ⟨⟨"metadata", none⟩, .optional, .model .objectMeta⟩,
    ⟨⟨"spec", none⟩, .optional, .model .projectSpec⟩]
  | .groupVersionKind => [
    ⟨⟨"group", none⟩, .optional, .text⟩,
    ⟨⟨"version", none⟩, .optional, .text⟩,
    ⟨⟨"kind", none⟩, .optional, .text⟩]
  | .groupVersionResource => [
    ⟨⟨"group", none⟩, .optional, .text⟩,
    ⟨⟨"version", none⟩, .optional, .text⟩,
    ⟨⟨"resource", none⟩, .optional, .text⟩]
  | .userInfo => [
    ⟨⟨"username", none⟩, .optional, .text⟩,
    ⟨⟨"uid", none⟩, .optional, .text⟩,
    ⟨⟨"groups", none⟩, .optional, .orNull (.list .text)⟩,
    ⟨⟨"extra", none⟩, .optional, .orNull (.object (.list .text))⟩]
  | .request carried => [
    ⟨⟨"uid", none⟩, .optional, .text⟩,
    ⟨⟨"kind", none⟩, .optional, .model .groupVersionKind⟩,
    ⟨⟨"resource", none⟩, .optional, .model .groupVersionResource⟩,
    ⟨⟨"name", none⟩, .optional, .text⟩,
    ⟨⟨"namespace", none⟩, .optional, .text⟩,
    -- The one field that must be there.
    ⟨⟨"operation", none⟩, .required, .oneOf (Operation.all.map Operation.name)⟩,
    ⟨⟨"userInfo", some "user_info"⟩, .optional, .model .userInfo⟩,
    ⟨⟨"object", none⟩, .optional, .orNull (.ofCarried carried)⟩,
    ⟨⟨"oldObject", some "old_object"⟩, .optional, .orNull (.ofCarried carried)⟩,
    ⟨⟨"dryRun", some "dry_run"⟩, .optional, .anything⟩]

namespace ModelName

/-- The names of a model's fields are all different. -/
theorem nodup_names (model : ModelName) :
    (model.fields.flatMap fun field => field.name.names).Nodup := by
  -- The fields of a request have the same names whatever it carries.
  cases model with
  | request carried => cases carried with
    | none => decide
    | some kind => cases kind <;> decide
  | _ => decide

theorem pairwise_names_disjoint (model : ModelName) :
    model.fields.Pairwise fun first second => first.name.names.Disjoint second.name.names :=
  (List.nodup_flatMap.mp model.nodup_names).2

/-- No name is that of two fields of a model. -/
theorem field_unique {model : ModelName} {first second : Field} {name : Text}
    (hfirst : first ∈ model.fields) (hsecond : second ∈ model.fields)
    (hname : name ∈ first.name.names) (hother : name ∈ second.name.names) : first = second := by
  by_contra hdifferent
  have : Std.Symm fun first second : Field => first.name.names.Disjoint second.name.names :=
    ⟨fun _ _ => List.disjoint_symm⟩
  exact model.pairwise_names_disjoint.forall hfirst hsecond hdifferent hname hother

theorem wire_ne_other {model : ModelName} {field : Field} {name : Text} (h : field ∈ model.fields)
    (hother : field.name.other = some name) : field.name.wire ≠ name := by
  have hnodup := (List.nodup_flatMap.mp model.nodup_names).1 field h
  rw [FieldName.names, hother] at hnodup
  exact List.ne_of_not_mem_cons (List.nodup_cons.mp hnodup).1

end ModelName

namespace Field

/-- The value that counts for a field, and its name: a trivial one does not count if it is as good
as none. -/
def read? (field : Field) (members : List (Text × Json)) : Option (Text × Json) :=
  (field.name.find? members).filter fun found =>
    !(decide (field.presence = .orTrivial) && found.2.isTrivial)

/-- What is decoded from the value of a field, if one counts. -/
def outcome (field : Field) (decoder : Decoder α) (absent : Decoded α)
    (members : List (Text × Json)) : Decoded α :=
  match field.read? members with
  | some (name, j) => (decoder j).under (.name name)
  | none => absent

/-- What is wrong where no value counts for a field. -/
def absence (field : Field) : List Detail :=
  if field.presence = .required then [⟨[.name field.name.wire], .missing⟩] else []

theorem read?_eq_find? {field : Field} (h : field.presence ≠ .orTrivial)
    (members : List (Text × Json)) : field.read? members = field.name.find? members := by
  rw [read?]
  cases field.name.find? members with
  | none => rfl
  | some found => simp [Option.filter_some, h]

end Field

/-! ## Decoders of a shape -/

namespace Decoder

mutual

/-- The decoder is built to ask for the shape. -/
inductive Follows : {α : Type} → Decoder α → Shape → Prop where
  | text : Follows .text .text
  | name {α : Type} {ofName? : Text → Option α} {names : List Text} :
      (∀ s, (ofName? s).isSome = true ↔ s ∈ names) → Follows (.name ofName?) (.oneOf names)
  | limitValue : Follows LimitValue.decode .limitValue
  | anything {α : Type} (f : Json → α) : Follows (fun j => .value (f j)) .anything
  | list {α : Type} {item : Decoder α} {shape : Shape} :
      Follows item shape → Follows (.list item) (.list shape)
  | object {α : Type} {value : Decoder α} {shape : Shape} :
      Follows value shape → Follows (.object value) (.object shape)
  | orNull {α : Type} {default : α} {decoder : Decoder α} {shape : Shape} :
      Follows decoder shape → Follows (.orNull default decoder) (.orNull shape)
  | optional {α : Type} {decoder : Decoder α} {shape : Shape} :
      Follows decoder shape → Follows (.optional decoder) (.orNull shape)
  | model {α : Type} {outcome : List (Text × Json) → Decoded α} {name : ModelName} :
      FieldsFollow outcome name.fields.reverse → Follows (.model outcome) (.model name)

/-- What is decoded from the members of a model comes from its fields, the last of them first. -/
inductive FieldsFollow : {α : Type} → (List (Text × Json) → Decoded α) → List Field → Prop where
  | map {α β : Type} (f : α → β) {outcome : List (Text × Json) → Decoded α} {field : Field} :
      FieldFollows outcome field → FieldsFollow (fun members => f <$> outcome members) [field]
  | ap {α β : Type} {function : List (Text × Json) → Decoded (α → β)}
      {outcome : List (Text × Json) → Decoded α} {fields : List Field} {field : Field} :
      FieldsFollow function fields → FieldFollows outcome field →
      FieldsFollow (fun members => function members <*> outcome members) (field :: fields)

/-- What is decoded from the members of a model comes from one field. -/
inductive FieldFollows : {α : Type} → (List (Text × Json) → Decoded α) → Field → Prop where
  | read {α : Type} {field : Field} {decoder : Decoder α} {absent : Decoded α} :
      Follows decoder field.shape → absent.details = field.absence →
      FieldFollows (field.outcome decoder absent) field

end

namespace FieldFollows

variable {α : Type} {name : FieldName} {default : α} {decoder : Decoder α} {shape : Shape}

theorem required (h : Follows decoder shape) :
    FieldFollows (name.require decoder) ⟨name, .required, shape⟩ := by
  have houtcome : name.require decoder = Field.outcome ⟨name, .required, shape⟩ decoder
      (.errors ⟨[.name name.wire], .missing⟩ []) := by
    funext members
    rw [Field.outcome, Field.read?_eq_find? (by rintro ⟨⟩)]
    rfl
  rw [houtcome]
  exact .read h rfl

theorem optional (h : Follows decoder shape) :
    FieldFollows (name.decode default decoder) ⟨name, .optional, shape⟩ := by
  have houtcome : name.decode default decoder =
      Field.outcome ⟨name, .optional, shape⟩ decoder (.value default) := by
    funext members
    rw [Field.outcome, Field.read?_eq_find? (by rintro ⟨⟩)]
    rfl
  rw [houtcome]
  exact .read h rfl

/-- A trivial value gives the same as none. -/
theorem orTrivial (h : Follows decoder shape) :
    FieldFollows (name.decode default (.orTrivial default decoder)) ⟨name, .orTrivial, shape⟩ := by
  have houtcome : name.decode default (.orTrivial default decoder) =
      Field.outcome ⟨name, .orTrivial, shape⟩ decoder (.value default) := by
    funext members
    rw [Field.outcome, Field.read?, FieldName.decode]
    cases name.find? members with
    | none => rfl
    | some found =>
      -- A trivial value is found, and the decoder makes the default of it.
      by_cases htrivial : found.2.isTrivial = true
      · simp [Decoder.orTrivial, htrivial, Option.filter_some, Decoded.under]
      · simp [Decoder.orTrivial, htrivial, Option.filter_some]
  rw [houtcome]
  exact .read h rfl

end FieldFollows

end Decoder

/-! ## The models -/

open Decoder

theorem ObjectMeta.follows : ObjectMeta.decode.Follows (.model .objectMeta) :=
  .model (.ap (.ap (.ap (.map _ (.optional .text)) (.optional .text))
    (.orTrivial (.object .text))) (.orTrivial (.object .text)))

theorem ClusterSpec.follows : ClusterSpec.decode.Follows (.model .clusterSpec) :=
  .model (.ap (.map _ (.optional .text)) (.orTrivial .text))

theorem ClusterStatus.follows : ClusterStatus.decode.Follows (.model .clusterStatus) :=
  .model (.map _ (.orTrivial .text))

theorem Cluster.follows : Cluster.decode.Follows (.model .cluster) :=
  .model (.ap (.ap (.map _ (.optional ObjectMeta.follows)) (.optional ClusterSpec.follows))
    (.optional ClusterStatus.follows))

theorem ProjectQuota.follows : ProjectQuota.decode.Follows (.model .projectQuota) :=
  .model (.ap (.map _ (.orTrivial (.object .limitValue))) (.orTrivial (.object .limitValue)))

theorem NamespaceQuota.follows : NamespaceQuota.decode.Follows (.model .namespaceQuota) :=
  .model (.map _ (.orTrivial (.object .limitValue)))

theorem ProjectSpec.follows : ProjectSpec.decode.Follows (.model .projectSpec) :=
  .model (.ap (.ap (.ap (.map _ (.optional .text)) (.optional .text))
    (.optional (.optional ProjectQuota.follows))) (.optional (.optional NamespaceQuota.follows)))

theorem Project.follows : Project.decode.Follows (.model .project) :=
  .model (.ap (.map _ (.optional ObjectMeta.follows)) (.optional ProjectSpec.follows))

theorem GroupVersionKind.follows : GroupVersionKind.decode.Follows (.model .groupVersionKind) :=
  .model (.ap (.ap (.map _ (.optional .text)) (.optional .text)) (.optional .text))

theorem GroupVersionResource.follows :
    GroupVersionResource.decode.Follows (.model .groupVersionResource) :=
  .model (.ap (.ap (.map _ (.optional .text)) (.optional .text)) (.optional .text))

theorem UserInfo.follows : UserInfo.decode.Follows (.model .userInfo) :=
  .model (.ap (.ap (.ap (.map _ (.optional .text)) (.optional .text))
    (.optional (.orNull (.list .text)))) (.optional (.orNull (.object (.list .text)))))

/-- The names of the operations are those that are accepted. -/
theorem Operation.isSome_ofName? (name : Text) :
    (ofName? name).isSome = true ↔ name ∈ Operation.all.map Operation.name := by
  rw [ofName?, List.find?_isSome, List.mem_map]
  simp only [beq_iff_eq]

/-- The objects that a request carries may have any content. -/
theorem AdmissionRequest.follows : AdmissionRequest.decode.Follows (.model (.request none)) := by
  have hobject : (Decoder.optional (Decoder.object Decoder.any)).Follows
      (.orNull (.object .anything)) := .optional (.object (.anything id))
  exact .model (.ap (.ap (.ap (.ap (.ap (.ap (.ap (.ap (.ap (.map _ (.optional .text))
    (.optional GroupVersionKind.follows)) (.optional GroupVersionResource.follows))
    (.optional .text)) (.optional .text)) (.required (.name Operation.isSome_ofName?)))
    (.optional UserInfo.follows)) (.optional hobject)) (.optional hobject))
    (.optional (.anything _)))

end AdmissionControl
