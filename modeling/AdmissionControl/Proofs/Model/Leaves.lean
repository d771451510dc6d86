/-
  AdmissionControl.Proofs.Model.Leaves

  What decoding keeps of the texts and numbers of a value.

  Decoding takes texts and numbers as they are, and truth values in a limit as zero and one.  So
  what is decoded from a value whose leaves pass a test is made of leaves that pass it
  (`Decoder.FromLeaves`): the annotations of a cluster, the entries of the limits in the quotas of a
  project, and the objects that a request carries.
-/

import AdmissionControl.Proofs.Json.Leaves
import AdmissionControl.Proofs.Model.RoundTrip

namespace AdmissionControl

namespace Decoder

variable {α : Type} {test : Json.LeafTest} {P : α → Prop} {decoder : Decoder α} {default : α}

/-- From a value whose leaves pass the test the decoder reads something that has `P`. -/
def FromLeaves (test : Json.LeafTest) (P : α → Prop) (decoder : Decoder α) : Prop :=
  ∀ j a, j.allLeaves test = true → decoder j = .value a → P a

theorem FromLeaves.text : FromLeaves test (fun t => test.onText t = true) text := by
  intro j t hj hvalue
  cases j with
  | str s =>
    cases hvalue
    exact hj
  | _ => cases hvalue

theorem FromLeaves.any : FromLeaves test (·.allLeaves test = true) any := by
  rintro j _ hj ⟨⟩
  exact hj

theorem FromLeaves.entries (h : FromLeaves test P decoder) {members : List (Text × Json)}
    {found : List (Text × α)} (hmembers : (Json.obj members).allLeaves test = true)
    (hvalue : entries decoder members = .value found) :
    ∀ entry ∈ found, test.onText entry.1 = true ∧ P entry.2 := by
  induction members generalizing found with
  | nil =>
    cases hvalue
    nofun
  | cons member rest ih =>
    rw [Json.allLeaves_obj, List.forall_mem_cons, ← Json.allLeaves_obj] at hmembers
    obtain ⟨_, more, hfirst, hmore, rfl⟩ := Decoded.ap_eq_value_iff.mp hvalue
    obtain ⟨a, ha, rfl⟩ := Decoded.map_eq_value_iff.mp hfirst
    rw [List.forall_mem_cons]
    exact ⟨⟨hmembers.1.1, h _ _ hmembers.1.2 (Decoded.under_eq_value_iff.mp ha)⟩,
      ih hmembers.2 hmore⟩

theorem FromLeaves.object (h : FromLeaves test P decoder) :
    FromLeaves test (fun found => ∀ entry ∈ found, test.onText entry.1 = true ∧ P entry.2)
      (object decoder) := by
  intro j found hj hvalue
  cases j with
  | obj members => exact h.entries hj hvalue
  | _ => cases hvalue

theorem FromLeaves.optional (h : FromLeaves test P decoder) :
    FromLeaves test (fun found => ∀ a, found = some a → P a) (optional decoder) := by
  rintro j found hj hvalue a rfl
  unfold Decoder.optional at hvalue
  split at hvalue
  · cases hvalue
  · obtain ⟨_, ha, hsome⟩ := Decoded.map_eq_value_iff.mp hvalue
    cases hsome
    exact h _ _ hj ha

theorem FromLeaves.orTrivial (h : FromLeaves test P decoder) (hdefault : P default) :
    FromLeaves test P (orTrivial default decoder) := by
  intro j a hj hvalue
  unfold Decoder.orTrivial at hvalue
  split at hvalue
  · cases hvalue
    exact hdefault
  · exact h _ _ hj hvalue

theorem FromLeaves.model {fields : List (Text × Json) → Decoded α}
    (h : ∀ members a, (Json.obj members).allLeaves test = true → fields members = .value a → P a) :
    FromLeaves test P (model fields) := by
  intro j a hj hvalue
  cases j with
  | obj members => exact h members a hj hvalue
  | _ => cases hvalue

theorem FromLeaves.field (h : FromLeaves test P decoder) (hdefault : P default) {field : FieldName}
    {members : List (Text × Json)} {a : α} (hmembers : (Json.obj members).allLeaves test = true)
    (hvalue : field.decode default decoder members = .value a) : P a := by
  unfold FieldName.decode at hvalue
  split at hvalue
  next name j hfind =>
    refine h _ _ ?_ (Decoded.under_eq_value_iff.mp hvalue)
    -- Under whichever name the value was found, it is a member of the object.
    unfold FieldName.find? at hfind
    split at hfind
    next written hwire =>
      cases hfind
      exact Json.allLeaves_of_lookup hmembers hwire
    next =>
      obtain ⟨other, -, hother⟩ := Option.bind_eq_some_iff.mp hfind
      obtain ⟨written, hlookup, hsame⟩ := Option.map_eq_some_iff.mp hother
      cases hsame
      exact Json.allLeaves_of_lookup hmembers hlookup
  next =>
    cases hvalue
    exact hdefault

theorem FromLeaves.optionalField (h : FromLeaves test P decoder) {field : FieldName}
    {members : List (Text × Json)} {found : Option α}
    (hmembers : (Json.obj members).allLeaves test = true)
    (hvalue : field.decode none (.optional decoder) members = .value found) :
    ∀ a, found = some a → P a :=
  h.optional.field (by rintro _ ⟨⟩) hmembers hvalue

end Decoder

/-! ## What is decoded -/

open Decoder

variable {test : Json.LeafTest}

/-- The annotations of a cluster pass the test. -/
def Cluster.Passes (test : Json.LeafTest) (cluster : Cluster) : Prop :=
  ∀ entry ∈ cluster.metadata.annotations, test.onText entry.2 = true

/-- The entries of a stored limit pass the test. -/
def StoredLimit.Passes (test : Json.LeafTest) (limit : StoredLimit) : Prop :=
  ∀ entry ∈ limit, test.onText entry.1 = true ∧ entry.2.toJson.allLeaves test = true

/-- The limits in the quotas of a project have `P`. -/
structure Project.EachLimit (P : StoredLimit → Prop) (project : Project) : Prop where
  limit : ∀ quota, project.spec.resourceQuota = some quota → P quota.limit
  usedLimit : ∀ quota, project.spec.resourceQuota = some quota → P quota.usedLimit
  namespaceLimit : ∀ quota, project.spec.namespaceDefaultResourceQuota = some quota → P quota.limit

theorem Project.EachLimit.mono {P Q : StoredLimit → Prop} {project : Project}
    (h : project.EachLimit P) (hwider : ∀ limit, P limit → Q limit) : project.EachLimit Q where
  limit quota hquota := hwider _ (h.limit quota hquota)
  usedLimit quota hquota := hwider _ (h.usedLimit quota hquota)
  namespaceLimit quota hquota := hwider _ (h.namespaceLimit quota hquota)

/-- The limits in the quotas of a project pass the test. -/
def Project.Passes (test : Json.LeafTest) (project : Project) : Prop :=
  project.EachLimit (StoredLimit.Passes test)

/-- The uid of a request and the objects that it carries pass the test. -/
structure AdmissionRequest.Passes (test : Json.LeafTest) (request : AdmissionRequest) : Prop where
  uid : test.onText request.uid = true
  object : ∀ members, request.object = some members → (Json.obj members).allLeaves test = true
  oldObject : ∀ members, request.oldObject = some members →
    (Json.obj members).allLeaves test = true

theorem ObjectMeta.fromLeaves_decode :
    FromLeaves test (fun metadata => ∀ entry ∈ metadata.annotations, test.onText entry.2 = true)
      ObjectMeta.decode := by
  refine .model fun members metadata hmembers hvalue => ?_
  obtain ⟨_, _, hthree, hannotations, rfl⟩ := Decoded.ap_eq_value_iff.mp hvalue
  obtain ⟨_, _, htwo, -, rfl⟩ := Decoded.ap_eq_value_iff.mp hthree
  obtain ⟨_, _, hone, -, rfl⟩ := Decoded.ap_eq_value_iff.mp htwo
  obtain ⟨_, -, rfl⟩ := Decoded.map_eq_value_iff.mp hone
  have hentries := (FromLeaves.text.object.orTrivial (List.forall_mem_nil _)).field
    (List.forall_mem_nil _) hmembers hannotations
  exact fun entry hentry => (hentries entry hentry).2

theorem Cluster.fromLeaves_decode : FromLeaves test (Cluster.Passes test) Cluster.decode := by
  refine .model fun members cluster hmembers hvalue => ?_
  obtain ⟨_, _, htwo, -, rfl⟩ := Decoded.ap_eq_value_iff.mp hvalue
  obtain ⟨_, _, hone, -, rfl⟩ := Decoded.ap_eq_value_iff.mp htwo
  obtain ⟨_, hmetadata, rfl⟩ := Decoded.map_eq_value_iff.mp hone
  exact ObjectMeta.fromLeaves_decode.field (List.forall_mem_nil _) hmembers hmetadata

section Limits

/- Truth values are read as the integers zero and one, which have to pass as well. -/
variable (hflags : ∀ b : Bool, test.onInt (if b then 1 else 0) = true)

include hflags

theorem LimitValue.fromLeaves_decode :
    FromLeaves test (fun value => value.toJson.allLeaves test = true) LimitValue.decode := by
  intro j value hj hvalue
  cases j with
  | bool b =>
    cases hvalue
    exact hflags b
  | null | int | float | str =>
    cases hvalue
    exact hj
  | arr | obj => cases hvalue

theorem StoredLimit.fromLeaves_decode :
    FromLeaves test (StoredLimit.Passes test) StoredLimit.decode :=
  (LimitValue.fromLeaves_decode hflags).object.orTrivial (List.forall_mem_nil _)

theorem ProjectQuota.fromLeaves_decode :
    FromLeaves test (fun quota => quota.limit.Passes test ∧ quota.usedLimit.Passes test)
      ProjectQuota.decode := by
  have hstored := StoredLimit.fromLeaves_decode hflags
  refine .model fun members quota hmembers hvalue => ?_
  obtain ⟨_, _, hone, hused, rfl⟩ := Decoded.ap_eq_value_iff.mp hvalue
  obtain ⟨_, hlimit, rfl⟩ := Decoded.map_eq_value_iff.mp hone
  exact ⟨hstored.field (List.forall_mem_nil _) hmembers hlimit,
    hstored.field (List.forall_mem_nil _) hmembers hused⟩

theorem NamespaceQuota.fromLeaves_decode :
    FromLeaves test (fun quota => quota.limit.Passes test) NamespaceQuota.decode := by
  refine .model fun members quota hmembers hvalue => ?_
  obtain ⟨_, hlimit, rfl⟩ := Decoded.map_eq_value_iff.mp hvalue
  exact (StoredLimit.fromLeaves_decode hflags).field (List.forall_mem_nil _) hmembers hlimit

theorem ProjectSpec.fromLeaves_decode :
    FromLeaves test (fun spec => Project.Passes test { spec }) ProjectSpec.decode := by
  refine .model fun members spec hmembers hvalue => ?_
  obtain ⟨_, _, hthree, hnamespace, rfl⟩ := Decoded.ap_eq_value_iff.mp hvalue
  obtain ⟨_, _, htwo, hproject, rfl⟩ := Decoded.ap_eq_value_iff.mp hthree
  obtain ⟨_, _, hone, -, rfl⟩ := Decoded.ap_eq_value_iff.mp htwo
  obtain ⟨_, -, rfl⟩ := Decoded.map_eq_value_iff.mp hone
  have hquota := (ProjectQuota.fromLeaves_decode hflags).optionalField hmembers hproject
  exact ⟨fun quota h => (hquota quota h).1, fun quota h => (hquota quota h).2,
    (NamespaceQuota.fromLeaves_decode hflags).optionalField hmembers hnamespace⟩

theorem Project.fromLeaves_decode : FromLeaves test (Project.Passes test) Project.decode := by
  refine .model fun members project hmembers hvalue => ?_
  obtain ⟨_, _, hone, hspec, rfl⟩ := Decoded.ap_eq_value_iff.mp hvalue
  obtain ⟨_, -, rfl⟩ := Decoded.map_eq_value_iff.mp hone
  have hempty : Project.Passes test { spec := {} } := by
    constructor <;> rintro _ ⟨⟩
  have hpasses := (ProjectSpec.fromLeaves_decode hflags).field hempty hmembers hspec
  exact ⟨hpasses.limit, hpasses.usedLimit, hpasses.namespaceLimit⟩

end Limits

theorem AdmissionRequest.fromLeaves_decode (hempty : test.onText "" = true) :
    FromLeaves test (AdmissionRequest.Passes test) AdmissionRequest.decode := by
  refine .model fun members request hmembers hvalue => ?_
  obtain ⟨huid, -, -, -, -, -, -, hobject, holdObject, -⟩ := decode_eq_value_iff.mp hvalue
  have hmembersOf : FromLeaves test (fun found => (Json.obj found).allLeaves test = true)
      (Decoder.object Decoder.any) :=
    fun j found hj hfound => Json.allLeaves_obj.mpr (FromLeaves.any.object j found hj hfound)
  exact ⟨FromLeaves.text.field hempty hmembers huid,
    hmembersOf.optionalField hmembers hobject, hmembersOf.optionalField hmembers holdObject⟩

end AdmissionControl
