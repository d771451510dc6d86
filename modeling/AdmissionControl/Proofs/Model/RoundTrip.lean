/-
  AdmissionControl.Proofs.Model.RoundTrip

  Values of the models, written under their wire names and decoded again.

  A decoder undoes an encoding if it reads from what is written for a value that value
  (`Decoder.Undoes`).  Lists, maps and optional values inherit this from their parts; a default for
  null or trivial values does no harm as long as nothing else is written that way.  A model undoes
  its encoding field by field: under its wire name each field finds what was written for it
  (`FieldName.decode_eq_value`).

  So every value of a model comes back from its JSON form with all its parts
  (`models_undo_encoding`).
-/

import AdmissionControl.Model.Cluster
import AdmissionControl.Model.Directory
import AdmissionControl.Model.Project

namespace AdmissionControl

/-! ## Outcomes that are values -/

namespace Decoded

variable {α β : Type}

theorem map_eq_value {f : α → β} {outcome : Decoded α} {a : α} (h : outcome = .value a) :
    f <$> outcome = .value (f a) := by
  rw [h]
  rfl

theorem ap_eq_value {function : Decoded (α → β)} {f : α → β} {outcome : Decoded α} {a : α}
    (hf : function = .value f) (ha : outcome = .value a) :
    function <*> outcome = .value (f a) := by
  rw [hf, ha]
  rfl

theorem under_eq_value_iff {outcome : Decoded α} {a : α} {step : PathStep} :
    outcome.under step = .value a ↔ outcome = .value a := by
  cases outcome <;> simp [under]

theorem under_eq_value {outcome : Decoded α} {a : α} (h : outcome = .value a) (step : PathStep) :
    outcome.under step = .value a := under_eq_value_iff.mpr h

theorem map_eq_value_iff {f : α → β} {outcome : Decoded α} {b : β} :
    f <$> outcome = .value b ↔ ∃ a, outcome = .value a ∧ f a = b := by
  constructor
  · intro h
    cases outcome with
    | value a => exact ⟨a, rfl, value.inj h⟩
    | errors first more => cases h
  · rintro ⟨a, hvalue, rfl⟩
    exact map_eq_value hvalue

/-- Two outcomes together are a value only where both of them are. -/
theorem ap_eq_value_iff {function : Decoded (α → β)} {outcome : Decoded α} {b : β} :
    function <*> outcome = .value b ↔
      ∃ f a, function = .value f ∧ outcome = .value a ∧ f a = b := by
  constructor
  · intro h
    cases function with
    | errors first more => cases h
    | value f =>
      cases outcome with
      | value a => exact ⟨f, a, rfl, rfl, value.inj h⟩
      | errors first more => cases h
  · rintro ⟨f, a, hfunction, hvalue, rfl⟩
    exact ap_eq_value hfunction hvalue

theorem report_eq_ok {decoded : Decoded α} {model : String} {a : α} :
    decoded.report model = .ok a ↔ decoded = .value a := by
  cases decoded <;> simp [report]

end Decoded

/-! ## Decoders that undo an encoding -/

/-- From what is written for a value the decoder reads that value. -/
def Decoder.Undoes (decoder : Decoder α) (encode : α → Json) : Prop :=
  ∀ a, decoder (encode a) = .value a

namespace Decoder

variable {α : Type} {decoder : Decoder α} {encode : α → Json}

theorem undoes_text : text.Undoes .str := fun _ => rfl

theorem items_map (h : decoder.Undoes encode) (values : List α) (n : Nat) :
    items decoder n (values.map encode) = .value values := by
  induction values generalizing n with
  | nil => rfl
  | cons a rest ih =>
    have hfirst := Decoded.under_eq_value (h a) (.index n)
    exact Decoded.ap_eq_value (Decoded.map_eq_value hfirst) (ih (n + 1))

/-- A list comes back with all its items in order. -/
theorem undoes_list (h : decoder.Undoes encode) :
    (list decoder).Undoes fun values => .arr (values.map encode) :=
  fun values => items_map h values 0

theorem entries_map (h : decoder.Undoes encode) (values : List (Text × α)) :
    entries decoder (values.map fun entry => (entry.1, encode entry.2)) = .value values := by
  induction values with
  | nil => rfl
  | cons entry rest ih =>
    have hfirst := Decoded.under_eq_value (h entry.2) (.name entry.1.replaced)
    exact Decoded.ap_eq_value (Decoded.map_eq_value hfirst) ih

/-- A map comes back with all its entries in order. -/
theorem undoes_object (h : decoder.Undoes encode) :
    (object decoder).Undoes fun values =>
      .obj (values.map fun entry => (entry.1, encode entry.2)) :=
  entries_map h

/-- Members of any content come back as they are. -/
theorem undoes_members : (object any).Undoes .obj := by
  intro members
  have hany : any.Undoes id := fun _ => rfl
  have hmembers := entries_map hany members
  rw [show (members.map fun entry => (entry.1, id entry.2)) = members from List.map_id members]
    at hmembers
  exact hmembers

/-- A default for trivial values does no harm if only the default is written as one. -/
theorem undoes_orTrivial (h : decoder.Undoes encode) {default : α}
    (htrivial : ∀ a, (encode a).isTrivial = true → a = default) :
    (orTrivial default decoder).Undoes encode := by
  intro a
  rw [orTrivial]
  split
  · next ha => rw [htrivial a ha]
  · exact h a

/-- A default for null does no harm if nothing is written as null. -/
theorem undoes_orNull (h : decoder.Undoes encode) {default : α} (hnull : ∀ a, encode a ≠ .null) :
    (orNull default decoder).Undoes encode := by
  intro a
  rw [orNull]
  · exact h a
  · exact hnull a

/-- A value that is not there is told from all others if none of these is written as null. -/
theorem undoes_optional (h : decoder.Undoes encode) (hnull : ∀ a, encode a ≠ .null) :
    (optional decoder).Undoes fun value => (value.map encode).getD .null := by
  intro value
  cases value with
  | none => rfl
  | some a =>
    show optional decoder (encode a) = .value (some a)
    rw [optional]
    · exact Decoded.map_eq_value (h a)
    · exact hnull a

theorem undoes_name {name : α → Text} {ofName? : Text → Option α}
    (h : ∀ a, ofName? (name a) = some a) :
    (Decoder.name ofName?).Undoes fun a => .str (name a) := by
  intro a
  rw [Decoder.name, h a]

end Decoder

namespace FieldName

variable {α : Type} {field : FieldName} {decoder : Decoder α} {encode : α → Json}
  {members : List (Text × Json)} {a : α}

/-- A field that was written under its wire name is read from there. -/
theorem find?_of_written {j : Json} (h : members.lookup field.wire = some j) :
    field.find? members = some (field.wire, j) := by
  rw [find?, h]

theorem decode_eq_value {default : α} (hdecoder : decoder.Undoes encode)
    (hwritten : members.lookup field.wire = some (encode a)) :
    field.decode default decoder members = .value a := by
  rw [FieldName.decode, find?_of_written hwritten]
  exact Decoded.under_eq_value (hdecoder a) _

theorem require_eq_value (hdecoder : decoder.Undoes encode)
    (hwritten : members.lookup field.wire = some (encode a)) :
    field.require decoder members = .value a := by
  rw [FieldName.require, find?_of_written hwritten]
  exact Decoded.under_eq_value (hdecoder a) _

end FieldName

/-! ## Trivial values -/

/-- Only the empty text is written as a trivial value. -/
theorem Text.eq_empty_of_isTrivial (s : Text) (h : (Json.str s).isTrivial = true) : s = "" :=
  Text.isEmpty_iff.mp h

/-- Only the empty map is written as a trivial value. -/
theorem Entries.eq_nil_of_isTrivial {entry : α → Text × Json} (values : List α)
    (h : (Json.obj (values.map entry)).isTrivial = true) : values = [] := by
  cases values with
  | nil => rfl
  | cons first rest => cases h

/-! ## Objects of both kinds -/

open Decoder FieldName Decoded

theorem ObjectMeta.undoes_toJson : ObjectMeta.decode.Undoes ObjectMeta.toJson := by
  intro metadata
  have htexts : (orTrivial [] (object text)).Undoes TextMap.toJson :=
    undoes_orTrivial (undoes_object undoes_text) Entries.eq_nil_of_isTrivial
  refine ap_eq_value (ap_eq_value (ap_eq_value (map_eq_value ?name) ?namespaceName) ?labels)
    ?annotations
  case name => exact decode_eq_value undoes_text rfl
  case namespaceName => exact decode_eq_value undoes_text rfl
  case labels => exact decode_eq_value htexts rfl
  case annotations => exact decode_eq_value htexts rfl

/-! ## Clusters -/

theorem ClusterSpec.undoes_toJson : ClusterSpec.decode.Undoes ClusterSpec.toJson := by
  intro spec
  refine ap_eq_value (map_eq_value ?displayName) ?fleetWorkspaceName
  case displayName => exact decode_eq_value undoes_text rfl
  case fleetWorkspaceName =>
    exact decode_eq_value (undoes_orTrivial undoes_text Text.eq_empty_of_isTrivial) rfl

theorem ClusterStatus.undoes_toJson : ClusterStatus.decode.Undoes ClusterStatus.toJson := by
  intro status
  refine map_eq_value ?driver
  case driver =>
    exact decode_eq_value (undoes_orTrivial undoes_text Text.eq_empty_of_isTrivial) rfl

theorem Cluster.undoes_toJson : Cluster.decode.Undoes Cluster.toJson := by
  intro cluster
  refine ap_eq_value (ap_eq_value (map_eq_value ?metadata) ?spec) ?status
  case metadata => exact decode_eq_value ObjectMeta.undoes_toJson rfl
  case spec => exact decode_eq_value ClusterSpec.undoes_toJson rfl
  case status => exact decode_eq_value ClusterStatus.undoes_toJson rfl

/-! ## Projects -/

/-- Null, a text, an integer and a float are each written as what they are. -/
theorem LimitValue.undoes_toJson : LimitValue.decode.Undoes LimitValue.toJson := by
  intro value
  cases value <;> rfl

/-- A limit comes back with all its entries in order, each with a value of its own type. -/
theorem StoredLimit.undoes_toRaw : StoredLimit.decode.Undoes fun limit => .obj limit.toRaw :=
  undoes_orTrivial (undoes_object LimitValue.undoes_toJson) Entries.eq_nil_of_isTrivial

theorem ProjectQuota.undoes_toJson : ProjectQuota.decode.Undoes ProjectQuota.toJson := by
  intro quota
  refine ap_eq_value (map_eq_value ?limit) ?usedLimit
  case limit => exact decode_eq_value StoredLimit.undoes_toRaw rfl
  case usedLimit => exact decode_eq_value StoredLimit.undoes_toRaw rfl

theorem NamespaceQuota.undoes_toJson : NamespaceQuota.decode.Undoes NamespaceQuota.toJson := by
  intro quota
  refine map_eq_value ?limit
  case limit => exact decode_eq_value StoredLimit.undoes_toRaw rfl

theorem ProjectSpec.undoes_toJson : ProjectSpec.decode.Undoes ProjectSpec.toJson := by
  intro spec
  -- A quota is written as an object, so null is left for one that is absent.
  have hquota : (optional ProjectQuota.decode).Undoes
      fun quota => (quota.map ProjectQuota.toJson).getD .null :=
    undoes_optional ProjectQuota.undoes_toJson nofun
  have hnamespace : (optional NamespaceQuota.decode).Undoes
      fun quota => (quota.map NamespaceQuota.toJson).getD .null :=
    undoes_optional NamespaceQuota.undoes_toJson nofun
  refine ap_eq_value (ap_eq_value (ap_eq_value (map_eq_value ?displayName) ?clusterName)
    ?resourceQuota) ?namespaceDefaultResourceQuota
  case displayName => exact decode_eq_value undoes_text rfl
  case clusterName => exact decode_eq_value undoes_text rfl
  case resourceQuota => exact decode_eq_value hquota rfl
  case namespaceDefaultResourceQuota => exact decode_eq_value hnamespace rfl

theorem Project.undoes_toJson : Project.decode.Undoes Project.toJson := by
  intro project
  refine ap_eq_value (map_eq_value ?metadata) ?spec
  case metadata => exact decode_eq_value ObjectMeta.undoes_toJson rfl
  case spec => exact decode_eq_value ProjectSpec.undoes_toJson rfl

/-! ## Requests -/

theorem GroupVersionKind.undoes_toJson :
    GroupVersionKind.decode.Undoes GroupVersionKind.toJson := by
  intro gvk
  refine ap_eq_value (ap_eq_value (map_eq_value ?group) ?version) ?kind
  case group => exact decode_eq_value undoes_text rfl
  case version => exact decode_eq_value undoes_text rfl
  case kind => exact decode_eq_value undoes_text rfl

theorem GroupVersionResource.undoes_toJson :
    GroupVersionResource.decode.Undoes GroupVersionResource.toJson := by
  intro gvr
  refine ap_eq_value (ap_eq_value (map_eq_value ?group) ?version) ?resource
  case group => exact decode_eq_value undoes_text rfl
  case version => exact decode_eq_value undoes_text rfl
  case resource => exact decode_eq_value undoes_text rfl

theorem UserInfo.undoes_toJson : UserInfo.decode.Undoes UserInfo.toJson := by
  intro user
  have htexts : (list text).Undoes UserInfo.texts := undoes_list undoes_text
  have hgroups : (orNull [] (list text)).Undoes UserInfo.texts := undoes_orNull htexts nofun
  have hextra : (orNull [] (object (list text))).Undoes fun extra =>
      .obj (extra.map fun entry => (entry.1, UserInfo.texts entry.2)) :=
    undoes_orNull (undoes_object htexts) nofun
  refine ap_eq_value (ap_eq_value (ap_eq_value (map_eq_value ?username) ?uid) ?groups) ?extra
  case username => exact decode_eq_value undoes_text rfl
  case uid => exact decode_eq_value undoes_text rfl
  case groups => exact decode_eq_value hgroups rfl
  case extra => exact decode_eq_value hextra rfl

/-- A truth value is the only value that is written as itself and read for its truth. -/
theorem AdmissionRequest.undoes_truth : AdmissionRequest.truth.Undoes .bool := by
  intro b
  cases b <;> rfl

/-- An object is written as one whatever it holds, so null is left for one that is absent. -/
theorem AdmissionRequest.undoes_object : (optional (Decoder.object any)).Undoes
    fun object => (object.map Json.obj).getD .null :=
  undoes_optional undoes_members nofun

theorem AdmissionRequest.undoes_toJson :
    AdmissionRequest.decode.Undoes AdmissionRequest.toJson := by
  intro request
  have hoperation : (Decoder.name Operation.ofName?).Undoes fun operation => .str operation.name :=
    undoes_name Operation.ofName?_name
  refine ap_eq_value (ap_eq_value (ap_eq_value (ap_eq_value (ap_eq_value (ap_eq_value (ap_eq_value
    (ap_eq_value (ap_eq_value (map_eq_value ?uid) ?kind) ?resource) ?name) ?namespaceName)
    ?operation) ?userInfo) ?object) ?oldObject) ?dryRun
  case uid => exact decode_eq_value undoes_text rfl
  case kind => exact decode_eq_value GroupVersionKind.undoes_toJson rfl
  case resource => exact decode_eq_value GroupVersionResource.undoes_toJson rfl
  case name => exact decode_eq_value undoes_text rfl
  case namespaceName => exact decode_eq_value undoes_text rfl
  case operation => exact require_eq_value hoperation rfl
  case userInfo => exact decode_eq_value UserInfo.undoes_toJson rfl
  case object => exact decode_eq_value undoes_object rfl
  case oldObject => exact decode_eq_value undoes_object rfl
  case dryRun => exact decode_eq_value AdmissionRequest.undoes_truth rfl

/-- A request decodes field by field. -/
theorem AdmissionRequest.decode_eq_value_iff {request : AdmissionRequest}
    {members : List (Text × Json)} : decode (.obj members) = .value request ↔
    FieldName.decode ⟨"uid", none⟩ ("" : Text) .text members = .value request.uid ∧
    FieldName.decode ⟨"kind", none⟩ {} GroupVersionKind.decode members = .value request.kind ∧
    FieldName.decode ⟨"resource", none⟩ {} GroupVersionResource.decode members =
      .value request.resource ∧
    FieldName.decode ⟨"name", none⟩ ("" : Text) .text members = .value request.name ∧
    FieldName.decode ⟨"namespace", none⟩ ("" : Text) .text members = .value request.namespaceName ∧
    FieldName.require ⟨"operation", none⟩ (.name Operation.ofName?) members =
      .value request.operation ∧
    FieldName.decode ⟨"userInfo", some "user_info"⟩ {} UserInfo.decode members =
      .value request.userInfo ∧
    FieldName.decode ⟨"object", none⟩ none (.optional (.object .any)) members =
      .value request.object ∧
    FieldName.decode ⟨"oldObject", some "old_object"⟩ none (.optional (.object .any)) members =
      .value request.oldObject ∧
    FieldName.decode ⟨"dryRun", some "dry_run"⟩ false truth members = .value request.dryRun := by
  simp only [decode, Decoder.model]
  constructor
  · intro hall
    -- From the last field to the first: both sides of each application are values.
    obtain ⟨_, _, hnine, hdryRun, rfl⟩ := Decoded.ap_eq_value_iff.mp hall
    obtain ⟨_, _, height, holdObject, rfl⟩ := Decoded.ap_eq_value_iff.mp hnine
    obtain ⟨_, _, hseven, hobject, rfl⟩ := Decoded.ap_eq_value_iff.mp height
    obtain ⟨_, _, hsix, huserInfo, rfl⟩ := Decoded.ap_eq_value_iff.mp hseven
    obtain ⟨_, _, hfive, hoperation, rfl⟩ := Decoded.ap_eq_value_iff.mp hsix
    obtain ⟨_, _, hfour, hnamespaceName, rfl⟩ := Decoded.ap_eq_value_iff.mp hfive
    obtain ⟨_, _, hthree, hname, rfl⟩ := Decoded.ap_eq_value_iff.mp hfour
    obtain ⟨_, _, htwo, hresource, rfl⟩ := Decoded.ap_eq_value_iff.mp hthree
    obtain ⟨_, _, hone, hkind, rfl⟩ := Decoded.ap_eq_value_iff.mp htwo
    obtain ⟨_, huid, rfl⟩ := Decoded.map_eq_value_iff.mp hone
    exact ⟨huid, hkind, hresource, hname, hnamespaceName, hoperation, huserInfo, hobject,
      holdObject, hdryRun⟩
  · rintro ⟨huid, hkind, hresource, hname, hnamespaceName, hoperation, huserInfo, hobject,
      holdObject, hdryRun⟩
    rw [huid, hkind, hresource, hname, hnamespaceName, hoperation, huserInfo, hobject, holdObject,
      hdryRun]
    rfl

/-! ## What is looked up -/

theorem ResourceAttributes.undoes_toJson :
    ResourceAttributes.decode.Undoes ResourceAttributes.toJson := by
  intro attributes
  refine ap_eq_value (ap_eq_value (ap_eq_value (ap_eq_value (map_eq_value ?group) ?version)
    ?resource) ?name) ?namespaceName
  case group => exact decode_eq_value undoes_text rfl
  case version => exact decode_eq_value undoes_text rfl
  case resource => exact decode_eq_value undoes_text rfl
  case name => exact decode_eq_value undoes_text rfl
  case namespaceName => exact decode_eq_value undoes_text rfl

theorem User.undoes_toJson : User.decode.Undoes User.toJson := by
  intro user
  refine ap_eq_value (map_eq_value ?name) ?principalIds
  case name => exact decode_eq_value undoes_text rfl
  case principalIds => exact decode_eq_value (undoes_list undoes_text) rfl

theorem Setting.undoes_toJson : Setting.decode.Undoes Setting.toJson := by
  intro setting
  refine ap_eq_value (map_eq_value ?name) ?value
  case name => exact decode_eq_value undoes_text rfl
  case value => exact decode_eq_value undoes_text rfl

/-! ## All models -/

/-- Each model undoes its own encoding: whatever the input from which a value was decoded, the value
written under its wire names decodes to itself.  Nothing is lost or changes its type on the way:
neither an entry of a limit or a map, nor the order of entries, nor that a quota or an object is
absent, nor what an object holds. -/
theorem models_undo_encoding :
    Cluster.decode.Undoes Cluster.toJson ∧ Project.decode.Undoes Project.toJson ∧
    AdmissionRequest.decode.Undoes AdmissionRequest.toJson ∧
    UserInfo.decode.Undoes UserInfo.toJson ∧
    ResourceAttributes.decode.Undoes ResourceAttributes.toJson ∧
    User.decode.Undoes User.toJson ∧ Setting.decode.Undoes Setting.toJson :=
  ⟨Cluster.undoes_toJson, Project.undoes_toJson, AdmissionRequest.undoes_toJson,
    UserInfo.undoes_toJson, ResourceAttributes.undoes_toJson, User.undoes_toJson,
    Setting.undoes_toJson⟩

end AdmissionControl
