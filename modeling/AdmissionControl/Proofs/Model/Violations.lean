/-
  AdmissionControl.Proofs.Model.Violations

  What decoding reports, and where.

  A shape asks something of a value, and of its parts: `Shape.faults` says what is wrong with a
  value itself, and `Shape.Governs` which part, at which path, has to be of which shape.  What is to
  be reported are the faults of all parts, each located from the whole (`Shape.Reports`).  Each is
  in a place that is the path of a part, with at most one name behind it (`Shape.Reports.placed`).

  Decoding shows these places with the halves of surrogate pairs replaced (`PathStep.shown`).
  `Decoded.Tells P` says of an outcome that its errors are those with `P`, as they are shown, and
  that before this no two are in one place.  Decoders of a shape tell just what is to be reported
  where the members of each object have different names, by induction on how they are built
  (`Decoder.Follows.tells`).  So no error hides another.
-/

import AdmissionControl.Proofs.Json.Distinct
import AdmissionControl.Proofs.Model.Shape
import AdmissionControl.Proofs.Model.Whole

namespace AdmissionControl

/-! ## Paths into values -/

namespace Json

/-- The part of a value at a path. -/
def at? : Json → List PathStep → Option Json
  | j, [] => some j
  | .arr items, .index n :: path => items[n]?.bind fun item => item.at? path
  | .obj members, .name name :: path => (members.lookup name).bind fun member => member.at? path
  | _, _ :: _ => none

end Json

/-! ## Paths as errors show them -/

/-- A step as an error shows it: the halves of surrogate pairs in a name are replaced. -/
def PathStep.shown : PathStep → PathStep
  | .name s => .name s.replaced
  | .index n => .index n

/-- An error as it is shown. -/
def Detail.shown (detail : Detail) : Detail := ⟨detail.loc.map .shown, detail.defect⟩

/-- The paths of all parts of the value are shown as they are. -/
def Json.ShowsPaths (j : Json) : Prop :=
  ∀ path part, j.at? path = some part → path.map .shown = path

/-- Where no text holds half of a surrogate pair, nothing is replaced. -/
theorem Json.showsPaths_of_isEncodable {j : Json} (h : j.isEncodable = true) : j.ShowsPaths := by
  intro path
  -- By induction on the path, along the parts that it leads through.
  induction path generalizing j with
  | nil => exact fun _ _ => rfl
  | cons step rest ih =>
    intro part hat
    cases j with
    | arr items =>
      cases step with
      | index n =>
        obtain ⟨item, hitem, hrest⟩ := Option.bind_eq_some_iff.mp hat
        have hencodable := isEncodable_arr.mp h item (List.mem_of_getElem? hitem)
        rw [List.map_cons, ih hencodable part hrest, PathStep.shown]
      | name _ => cases hat
    | obj members =>
      cases step with
      | name name =>
        obtain ⟨member, hlookup, hrest⟩ := Option.bind_eq_some_iff.mp hat
        obtain ⟨before, after, rfl, -⟩ := List.lookup_eq_some_iff.mp hlookup
        obtain ⟨hname, hencodable⟩ := isEncodable_obj.mp h (name, member) (by simp)
        rw [List.map_cons, ih hencodable part hrest, PathStep.shown, hname.replaced_eq]
      | index _ => cases hat
    | _ => simp [at?] at hat

/-! ## What is wrong, and where -/

/-- What is wrong with a part, located from the whole. -/
def Detail.within (path : List PathStep) (own : Detail) : Detail := ⟨path ++ own.loc, own.defect⟩

@[simp] theorem Detail.within_nil (own : Detail) : own.within [] = own := rfl

theorem Detail.within_append (path rest : List PathStep) (own : Detail) :
    own.within (path ++ rest) = (own.within rest).within path := by
  simp [within]

theorem Detail.shown_within (path : List PathStep) (own : Detail) :
    (own.within path).shown = own.shown.within (path.map .shown) := by
  simp [shown, within]

namespace Shape

/-- What is wrong with a value itself, its parts aside.  A limit's value that is neither null nor a
text nor a number is none of three things; a model lacks the fields that must be there. -/
def faults : Shape → Json → List Detail
  | .text, .str _ => []
  | .text, _ => [⟨[], .stringType⟩]
  | .oneOf names, .str s => if s ∈ names then [] else [⟨[], .enumValue⟩]
  | .oneOf _, _ => [⟨[], .enumValue⟩]
  | .limitValue, .arr _ | .limitValue, .obj _ =>
    [⟨[.name "str"], .stringType⟩, ⟨[.name "int"], .intType⟩, ⟨[.name "float"], .floatType⟩]
  | .limitValue, _ => []
  | .anything, _ => []
  | .list _, .arr _ => []
  | .list _, _ => [⟨[], .listType⟩]
  | .object _, .obj _ => []
  | .object _, _ => [⟨[], .objectType⟩]
  | .orNull _, _ => []
  | .model name, .obj members =>
    name.fields.flatMap fun field => if (field.read? members).isNone then field.absence else []
  | .model _, _ => [⟨[], .modelType⟩]

/-- The parts of a value, each with its path and the shape it must have. -/
inductive Part : Shape → Json → List PathStep → Shape → Json → Prop where
  | item {shape : Shape} {items : List Json} {n : Nat} {j : Json} : items[n]? = some j →
      Part (.list shape) (.arr items) [.index n] shape j
  | entry {shape : Shape} {members : List (Text × Json)} {name : Text} {j : Json} :
      (name, j) ∈ members → Part (.object shape) (.obj members) [.name name] shape j
  | field {model : ModelName} {members : List (Text × Json)} {field : Field} {name : Text}
      {j : Json} : field ∈ model.fields → field.read? members = some (name, j) →
      Part (.model model) (.obj members) [.name name] field.shape j
  | given {shape : Shape} {j : Json} : j ≠ .null → Part (.orNull shape) j [] shape j

/-- The part of a value at a path must be of a shape. -/
inductive Governs : Shape → Json → List PathStep → Shape → Json → Prop where
  | here {shape : Shape} {j : Json} : Governs shape j [] shape j
  | inside {shape inner innermost : Shape} {j part found : Json} {path rest : List PathStep} :
      Part shape j path inner part → Governs inner part rest innermost found →
      Governs shape j (path ++ rest) innermost found

/-- The detail says what is wrong with a part, located from the value. -/
def Reports (shape : Shape) (j : Json) (detail : Detail) : Prop :=
  ∃ path inner part own, shape.Governs j path inner part ∧ own ∈ inner.faults part ∧
    detail = own.within path

variable {shape : Shape} {j : Json} {detail : Detail}

/-- A value is to be reported for itself or for one of its parts. -/
theorem reports_iff : shape.Reports j detail ↔ detail ∈ shape.faults j ∨
    ∃ path inner part own, shape.Part j path inner part ∧ inner.Reports part own ∧
      detail = own.within path := by
  constructor
  · rintro ⟨path, inner, part, own, hgoverns, hfault, rfl⟩
    -- Either nothing leads further, or a first part does, and the rest of the path from there.
    cases hgoverns with
    | here => exact .inl hfault
    | @inside _ between _ _ middle _ path rest hpart hrest =>
      exact .inr ⟨path, between, middle, own.within rest, hpart,
        ⟨rest, inner, part, own, hrest, hfault, rfl⟩, own.within_append path rest⟩
  · rintro (hfault | ⟨path, inner, part, own, hpart, ⟨rest, innermost, found, fault, hrest, hfault,
      rfl⟩, rfl⟩)
    · exact ⟨[], shape, j, detail, .here, hfault, rfl⟩
    · exact ⟨path ++ rest, innermost, found, fault, .inside hpart hrest, hfault,
        (fault.within_append path rest).symm⟩

/-- A value without parts is to be reported for itself. -/
theorem reports_iff_of_leaf (h : ∀ path inner part, ¬ shape.Part j path inner part) :
    shape.Reports j detail ↔ detail ∈ shape.faults j := by
  rw [reports_iff]
  refine or_iff_left ?_
  rintro ⟨path, inner, part, own, hpart, -⟩
  exact h path inner part hpart

/-- A value that has nothing wrong with itself is to be reported for its parts. -/
theorem reports_iff_of_faultless (h : shape.faults j = []) : shape.Reports j detail ↔
    ∃ path inner part own, shape.Part j path inner part ∧ inner.Reports part own ∧
      detail = own.within path := by
  rw [reports_iff, h]
  simp

end Shape

/-- What is to be reported for a field: what is wrong with its value, or that there is none. -/
def Field.Reports (field : Field) (members : List (Text × Json)) (detail : Detail) : Prop :=
  match field.read? members with
  | some (name, j) => ∃ own, field.shape.Reports j own ∧ detail = own.within [.name name]
  | none => detail ∈ field.absence

/-- A model is to be reported for its fields. -/
theorem Shape.reports_model {model : ModelName} {members : List (Text × Json)} {detail : Detail} :
    (Shape.model model).Reports (.obj members) detail ↔
      ∃ field ∈ model.fields, field.Reports members detail := by
  rw [reports_iff]
  constructor
  · rintro (hfault | ⟨_, _, _, own, ⟨⟩, hreports, rfl⟩)
    · -- What is wrong with the model itself is the absence of a field.
      obtain ⟨field, hfield, habsence⟩ := List.mem_flatMap.mp hfault
      refine ⟨field, hfield, ?_⟩
      rw [Field.Reports]
      -- A field that is not read can only be absent; one that is read reports from its own value.
      cases hread : field.read? members with
      | none => simpa [hread] using habsence
      | some found => simp [hread] at habsence
    case field field name hfield hread =>
      refine ⟨field, hfield, ?_⟩
      rw [Field.Reports, hread]
      exact ⟨own, hreports, rfl⟩
  · rintro ⟨field, hfield, hreports⟩
    rw [Field.Reports] at hreports
    cases hread : field.read? members with
    | none =>
      rw [hread] at hreports
      exact .inl (List.mem_flatMap.mpr ⟨field, hfield, by simpa [hread] using hreports⟩)
    | some found =>
      rw [hread] at hreports
      obtain ⟨own, hown, rfl⟩ := hreports
      exact .inr ⟨_, _, _, own, .field hfield hread, hown, rfl⟩

/-- A value that may be null is to be reported as it is without that, and null not at all. -/
theorem Shape.reports_orNull {shape : Shape} {j : Json} {detail : Detail} :
    shape.orNull.Reports j detail ↔ j ≠ .null ∧ shape.Reports j detail := by
  rw [Shape.reports_iff_of_faultless rfl]
  constructor
  · rintro ⟨_, _, _, own, hpart, hreports, rfl⟩
    cases hpart with
    | given hnull => exact ⟨hnull, hreports⟩
  · rintro ⟨hnull, hreports⟩
    exact ⟨_, _, _, detail, .given hnull, hreports, rfl⟩

/-! ## Where errors are -/

/-- The value that counts for a field is that of a member with one of its names. -/
theorem Field.mem_of_read? {field : Field} {members : List (Text × Json)} {name : Text} {j : Json}
    (h : field.read? members = some (name, j)) : name ∈ field.name.names ∧ (name, j) ∈ members := by
  obtain ⟨hfind, -⟩ := Option.filter_eq_some_iff.mp h
  obtain ⟨hname, hlookup⟩ := FieldName.mem_names_of_find? hfind
  obtain ⟨before, after, rfl, -⟩ := List.lookup_eq_some_iff.mp hlookup
  exact ⟨hname, by simp⟩

/-- What is reported for a field is under one of its names. -/
theorem Field.Reports.loc_eq {field : Field} {members : List (Text × Json)} {detail : Detail}
    (h : field.Reports members detail) :
    ∃ name ∈ field.name.names, ∃ rest, detail.loc = .name name :: rest := by
  rw [Field.Reports] at h
  cases hread : field.read? members with
  | some found =>
    rw [hread] at h
    obtain ⟨own, -, rfl⟩ := h
    exact ⟨found.1, (Field.mem_of_read? hread).1, own.loc, rfl⟩
  | none =>
    rw [hread] at h
    -- Only a field that is required reports its absence.
    by_cases hrequired : field.presence = .required
    · have hdetail : detail = ⟨[.name field.name.wire], .missing⟩ := by
        simpa [Field.absence, hrequired] using h
      exact ⟨field.name.wire, List.mem_cons_self, [], by rw [hdetail]⟩
    · simp [Field.absence, hrequired] at h

/-- The names of fields hold no halves of surrogate pairs. -/
theorem ModelName.whole_names (model : ModelName) :
    ∀ field ∈ model.fields, ∀ name ∈ field.name.names, name.Whole := by
  -- The fields of a request have the same names whatever it carries.
  cases model with
  | request carried => cases carried with
    | none => decide
    | some kind => cases kind <;> decide
  | _ => decide

namespace Shape

variable {shape inner : Shape} {j part : Json} {path : List PathStep} {own : Detail}

/-- A part stands at its path. -/
theorem Part.at? (h : shape.Part j path inner part) (hdistinct : j.Distinct) :
    part.Distinct ∧ ∀ rest, j.at? (path ++ rest) = part.at? rest := by
  cases h with
  | item hitem =>
    refine ⟨hdistinct.item (List.mem_of_getElem? hitem), fun rest => ?_⟩
    rw [List.singleton_append, Json.at?, hitem, Option.bind_some]
  -- The names are different, so the part is what is found under its name.
  | entry hmember =>
    refine ⟨hdistinct.member hmember, fun rest => ?_⟩
    have hlookup := (Entries.lookup_eq_some hdistinct.nodup_names).mpr hmember
    rw [List.singleton_append, Json.at?, hlookup, Option.bind_some]
  | field hfield hread =>
    have hmember := (Field.mem_of_read? hread).2
    refine ⟨hdistinct.member hmember, fun rest => ?_⟩
    have hlookup := (Entries.lookup_eq_some hdistinct.nodup_names).mpr hmember
    rw [List.singleton_append, Json.at?, hlookup, Option.bind_some]
  | given _ => exact ⟨hdistinct, fun _ => rfl⟩

theorem Governs.at? (h : shape.Governs j path inner part) (hdistinct : j.Distinct) :
    j.at? path = some part := by
  induction h with
  | here => rw [Json.at?]
  | inside hpart _ ih =>
    obtain ⟨hinner, hat⟩ := hpart.at? hdistinct
    rw [hat]
    exact ih hinner

/-- An error is where a part of the value is.  Behind the path of a limit's value stands for which
of three things it was taken; behind that of a model may stand a name that no member of it has. -/
inductive Places (shape : Shape) (j : Json) : Detail → Prop where
  | itself {path : List PathStep} {part : Json} {defect : Defect} : j.at? path = some part →
      Places shape j ⟨path, defect⟩
  | ofLimit {path : List PathStep} {part : Json} {kind : Text} {defect : Defect} :
      shape.Governs j path .limitValue part → j.at? path = some part →
      kind ∈ (["str", "int", "float"] : List Text) →
      Places shape j ⟨path ++ [.name kind], defect⟩
  | missing {path : List PathStep} {members : List (Text × Json)} {name : Text} :
      j.at? path = some (.obj members) → members.lookup name = none →
      Places shape j ⟨path ++ [.name name], .missing⟩

/-- What is wrong with a model itself is that members are missing. -/
theorem missing_of_mem_faults {model : ModelName} {members : List (Text × Json)}
    (h : own ∈ (Shape.model model).faults (.obj members)) :
    ∃ field ∈ model.fields, members.lookup field.name.wire = none ∧
      own = ⟨[.name field.name.wire], .missing⟩ := by
  obtain ⟨field, hfield, habsence⟩ := List.mem_flatMap.mp h
  by_cases hrequired : field.presence = .required
  · cases hread : field.read? members with
    | some found => simp [hread] at habsence
    | none =>
      have hown : own = ⟨[.name field.name.wire], .missing⟩ := by
        simpa [hread, Field.absence, hrequired] using habsence
      refine ⟨field, hfield, ?_, hown⟩
      -- Nothing is found for the field, so there is nothing under its wire name.
      rw [Field.read?_eq_find? (by simp [hrequired]), FieldName.find?] at hread
      cases hwire : members.lookup field.name.wire with
      | none => rfl
      | some j => simp [hwire] at hread
  · simp [Field.absence, hrequired] at habsence

/-- What is wrong with a value itself is at the value, or it has one name behind: which of three
things a limit's value is not, or what is missing in a model. -/
theorem loc_of_mem_faults (h : own ∈ shape.faults j) : own.loc = [] ∨
    (shape = .limitValue ∧
      ∃ kind ∈ (["str", "int", "float"] : List Text), own.loc = [.name kind]) ∨
    ∃ members name, j = .obj members ∧ members.lookup name = none ∧ name.Whole ∧
      own = ⟨[.name name], .missing⟩ := by
  cases shape with
  | limitValue =>
    -- A value of a limit is tried as each of the three kinds, and fails as all of them.
    have hkinds : own ∈ ([⟨[.name "str"], .stringType⟩, ⟨[.name "int"], .intType⟩,
        ⟨[.name "float"], .floatType⟩] : List Detail) := by
      cases j <;> first | exact h | cases h
    simp only [List.mem_cons, List.not_mem_nil, or_false] at hkinds
    refine .inr (.inl ⟨rfl, ?_⟩)
    rcases hkinds with rfl | rfl | rfl
    all_goals exact ⟨_, by decide, rfl⟩
  | model name =>
    cases j with
    | obj members =>
      -- A model itself is only at fault for a field that is missing, by its wire name.
      obtain ⟨field, hfield, habsent, rfl⟩ := missing_of_mem_faults h
      exact .inr (.inr ⟨members, _, rfl, habsent,
        name.whole_names field hfield _ List.mem_cons_self, rfl⟩)
    | _ => exact .inl (by rw [List.mem_singleton.mp h])
  | oneOf names =>
    refine .inl ?_
    cases j with
    | str s =>
      simp only [faults] at h
      split at h
      · cases h
      · rw [List.mem_singleton.mp h]
    | _ => rw [List.mem_singleton.mp h]
  | _ =>
    refine .inl ?_
    cases j <;> first | exact absurd h List.not_mem_nil | rw [List.mem_singleton.mp h]

/-- What is reported is where a part of the value is. -/
theorem Reports.placed {detail : Detail} (h : shape.Reports j detail) (hdistinct : j.Distinct) :
    shape.Places j detail := by
  obtain ⟨path, inner, part, own, hgoverns, hfault, rfl⟩ := h
  have hat := hgoverns.at? hdistinct
  rcases loc_of_mem_faults hfault with hloc | ⟨rfl, kind, hkind, hloc⟩ |
    ⟨members, name, rfl, habsent, -, rfl⟩
  · rw [Detail.within, hloc, List.append_nil]
    exact .itself hat
  · rw [Detail.within, hloc]
    exact .ofLimit hgoverns hat hkind
  · exact .missing hat habsent

/-- The names that stand behind a path are shown as they are. -/
theorem shown_of_mem_faults (h : own ∈ shape.faults j) : own.shown = own := by
  have hshown : own.loc.map .shown = own.loc := by
    rcases loc_of_mem_faults h with hloc | ⟨-, kind, hkind, hloc⟩ | ⟨_, name, -, -, hwhole, rfl⟩
    · rw [hloc, List.map_nil]
    · have hwhole : ∀ kind ∈ (["str", "int", "float"] : List Text), kind.Whole := by decide
      rw [hloc, List.map_singleton, PathStep.shown, (hwhole kind hkind).replaced_eq]
    · rw [List.map_singleton, PathStep.shown, hwhole.replaced_eq]
  rw [Detail.shown, hshown]

/-- So what is reported is shown as it is where the paths are. -/
theorem Reports.shown_eq {detail : Detail} (h : shape.Reports j detail) (hdistinct : j.Distinct)
    (hshows : j.ShowsPaths) : detail.shown = detail := by
  obtain ⟨path, inner, part, own, hgoverns, hfault, rfl⟩ := h
  rw [Detail.shown_within, shown_of_mem_faults hfault, hshows path part (hgoverns.at? hdistinct)]

end Shape

/-! ## What decoders report -/

namespace Decoded

variable {α β : Type}

theorem details_seq (f : Decoded (α → β)) (x : Decoded α) :
    (f <*> x).details = f.details ++ x.details := details_ap f x

theorem details_functorMap (f : α → β) (x : Decoded α) : (f <$> x).details = x.details :=
  details_map f x

/-- The errors are those that have `P`, as they are shown, and each has a place of its own. -/
def Tells (x : Decoded α) (P : Detail → Prop) : Prop :=
  ∃ errors : List Detail, x.details = errors.map .shown ∧ (errors.map Detail.loc).Nodup ∧
    ∀ detail, detail ∈ errors ↔ P detail

variable {x : Decoded α} {P Q : Detail → Prop}

theorem Tells.congr (h : x.Tells P) (hiff : ∀ detail, Q detail ↔ P detail) : x.Tells Q := by
  obtain ⟨errors, hdetails, hnodup, hmem⟩ := h
  exact ⟨errors, hdetails, hnodup, fun detail => (hmem detail).trans (hiff detail).symm⟩

theorem tells_of_details_eq_nil (h : x.details = []) (hnone : ∀ detail, ¬ P detail) : x.Tells P :=
  ⟨[], h, List.nodup_nil, fun detail => by simp [hnone detail]⟩

theorem Tells.map (h : x.Tells P) (f : α → β) : (f <$> x).Tells P := by
  obtain ⟨errors, hdetails, hnodup, hmem⟩ := h
  exact ⟨errors, by rw [details_functorMap, hdetails], hnodup, hmem⟩

/-- The outcome for a part has the errors of the part, located from the whole. -/
theorem Tells.under (h : x.Tells P) (step : PathStep) :
    (x.under step.shown).Tells fun detail => ∃ own, P own ∧ detail = own.within [step] := by
  obtain ⟨errors, hdetails, hnodup, hmem⟩ := h
  refine ⟨errors.map (·.within [step]), ?_, ?_, fun detail => ?_⟩
  · rw [details_under, hdetails, List.map_map, List.map_map]
    exact List.map_congr_left fun own _ => rfl
  · have hlocs : (errors.map (·.within [step])).map Detail.loc =
        (errors.map Detail.loc).map (step :: ·) := by
      rw [List.map_map, List.map_map]
      rfl
    rw [hlocs]
    exact hnodup.map List.cons_injective
  · simp only [List.mem_map, hmem, eq_comm]

/-- Two outcomes together have the errors of both, if these are in different places. -/
theorem Tells.seq {f : Decoded (α → β)} (hf : f.Tells P) (hx : x.Tells Q)
    (hapart : ∀ first second, P first → Q second → first.loc ≠ second.loc) :
    (f <*> x).Tells fun detail => P detail ∨ Q detail := by
  obtain ⟨before, hbefore, hnodup, hmem⟩ := hf
  obtain ⟨after, hafter, hnodup', hmem'⟩ := hx
  refine ⟨before ++ after, ?_, ?_, fun detail => by rw [List.mem_append, hmem, hmem']⟩
  · rw [details_seq, hbefore, hafter, List.map_append]
  · rw [List.map_append, List.nodup_append]
    refine ⟨hnodup, hnodup', ?_⟩
    intro loc hloc other hother
    obtain ⟨first, hfirst, rfl⟩ := List.mem_map.mp hloc
    obtain ⟨second, hsecond, rfl⟩ := List.mem_map.mp hother
    exact hapart first second ((hmem first).mp hfirst) ((hmem' second).mp hsecond)

end Decoded

/-- A value without parts is reported for what is wrong with it. -/
theorem Shape.tells_faults {α : Type} {shape : Shape} {j : Json} {x : Decoded α}
    (hleaf : ∀ path inner part, ¬ shape.Part j path inner part)
    (hdetails : x.details = shape.faults j) (hnodup : ((shape.faults j).map Detail.loc).Nodup) :
    x.Tells (shape.Reports j) := by
  refine ⟨shape.faults j, ?_, hnodup, fun _ => (Shape.reports_iff_of_leaf hleaf).symm⟩
  rw [hdetails, List.map_congr_left fun own h => Shape.shown_of_mem_faults h, List.map_id']

namespace Decoder

section

variable {α : Type} {decoder : Decoder α} {shape : Shape}

theorem tells_items {items : List Json}
    (hitems : ∀ item ∈ items, (decoder item).Tells (shape.Reports item)) (n : Nat) :
    (Decoder.items decoder n items).Tells fun detail => ∃ k j own, items[k]? = some j ∧
      shape.Reports j own ∧ detail = own.within [.index (n + k)] := by
  induction items generalizing n with
  | nil => exact Decoded.tells_of_details_eq_nil rfl (by simp)
  | cons item rest ih =>
    rw [List.forall_mem_cons] at hitems
    have hfirst := (hitems.1.under (.index n)).map (β := List α → List α) List.cons
    refine (hfirst.seq (ih hitems.2 (n + 1)) ?_).congr fun detail => ?_
    · -- The places begin with the indices of the items.
      rintro _ _ ⟨own, -, rfl⟩ ⟨k, j, other, -, -, rfl⟩ hsame
      have hindex : n = n + 1 + k := by
        simpa [Detail.within] using List.head_eq_of_cons_eq hsame
      omega
    · constructor
      · rintro ⟨k, j, own, hitem, hreports, rfl⟩
        -- The first item stands at the index itself, the others behind it.
        cases k with
        | zero =>
          cases hitem
          exact .inl ⟨own, hreports, rfl⟩
        | succ k =>
          exact .inr ⟨k, j, own, hitem, hreports, by rw [Nat.add_right_comm, Nat.add_assoc]⟩
      · rintro (⟨own, hreports, rfl⟩ | ⟨k, j, own, hitem, hreports, rfl⟩)
        · exact ⟨0, item, own, rfl, hreports, rfl⟩
        · exact ⟨k + 1, j, own, hitem, hreports, by rw [Nat.add_right_comm, Nat.add_assoc]⟩

theorem tells_entries {members : List (Text × Json)} (hnames : (members.map Prod.fst).Nodup)
    (hmembers : ∀ member ∈ members, (decoder member.2).Tells (shape.Reports member.2)) :
    (Decoder.entries decoder members).Tells fun detail => ∃ name j own, (name, j) ∈ members ∧
      shape.Reports j own ∧ detail = own.within [.name name] := by
  induction members with
  | nil => exact Decoded.tells_of_details_eq_nil rfl (by simp)
  | cons member rest ih =>
    obtain ⟨name, value⟩ := member
    rw [List.forall_mem_cons] at hmembers
    rw [List.map_cons, List.nodup_cons] at hnames
    have hfirst := (hmembers.1.under (.name name)).map fun a more => (name, a) :: more
    refine (hfirst.seq (ih hnames.2 hmembers.2) ?_).congr fun detail => ?_
    · -- The places begin with the names of the members, which are different before they are shown.
      rintro _ _ ⟨own, -, rfl⟩ ⟨name', j, other, hmember, -, rfl⟩ hsame
      have hname : name = name' := by
        simpa [Detail.within] using List.head_eq_of_cons_eq hsame
      subst hname
      exact hnames.1 (List.mem_map.mpr ⟨_, hmember, rfl⟩)
    · constructor
      · rintro ⟨other, j, own, hmember, hreports, rfl⟩
        -- The first member, or one of the others.
        rcases List.mem_cons.mp hmember with hhere | hlater
        · obtain ⟨rfl, rfl⟩ := Prod.mk.inj hhere
          exact .inl ⟨own, hreports, rfl⟩
        · exact .inr ⟨other, j, own, hlater, hreports, rfl⟩
      · rintro (⟨own, hreports, rfl⟩ | ⟨other, j, own, hmember, hreports, rfl⟩)
        · exact ⟨name, value, own, List.mem_cons_self, hreports, rfl⟩
        · exact ⟨other, j, own, List.mem_cons_of_mem _ hmember, hreports, rfl⟩

end

mutual

/-- Decoders of a shape tell what is to be reported. -/
theorem Follows.tells : ∀ {α : Type} {decoder : Decoder α} {shape : Shape} {j : Json},
    decoder.Follows shape → j.Distinct → (decoder j).Tells (shape.Reports j)
  | _, _, _, j, .text, _ => by
    apply Shape.tells_faults (by rintro _ _ _ ⟨⟩)
    · cases j <;> rfl
    · cases j <;> simp [Shape.faults]
  | _, _, _, j, @Follows.name _ ofName? names hnames, _ => by
    cases j with
    | str s =>
      -- A text must be one of the names, and no other value will do.
      have hname := hnames s
      by_cases hknown : s ∈ names
      · obtain ⟨a, hfound⟩ := Option.isSome_iff_exists.mp (hname.mpr hknown)
        apply Shape.tells_faults (by rintro _ _ _ ⟨⟩)
        · simp [Decoder.name, hfound, Shape.faults, hknown, Decoded.details]
        · simp [Shape.faults, hknown]
      · have hfound : ofName? s = none := by simpa [hknown] using hname
        apply Shape.tells_faults (by rintro _ _ _ ⟨⟩)
        · simp [Decoder.name, hfound, Shape.faults, hknown, Decoded.fail, Decoded.details]
        · simp [Shape.faults, hknown]
    | _ => exact Shape.tells_faults (by rintro _ _ _ ⟨⟩) rfl (List.nodup_singleton _)
  | _, _, _, j, .limitValue, _ => by
    have hkinds : ([[.name "str"], [.name "int"], [.name "float"]] :
        List (List PathStep)).Nodup := by decide
    apply Shape.tells_faults (by rintro _ _ _ ⟨⟩)
    · cases j <;> rfl
    · cases j <;> first | exact hkinds | exact List.nodup_nil
  | _, _, _, _, .anything f, _ => Shape.tells_faults (by rintro _ _ _ ⟨⟩) rfl List.nodup_nil
  | _, _, _, j, .list h, hdistinct => by
    cases j with
    | arr items =>
      -- The items report in turn; the array has no faults of its own.
      have hitems := tells_items
        (fun item hitem => Follows.tells h (hdistinct.item hitem)) 0
      refine hitems.congr fun detail => ?_
      rw [Shape.reports_iff_of_faultless rfl]
      constructor
      · rintro ⟨_, _, j, own, hpart, hreports, rfl⟩
        cases hpart with
        | item hitem => exact ⟨_, j, own, hitem, hreports, by rw [Nat.zero_add]⟩
      · rintro ⟨k, j, own, hitem, hreports, rfl⟩
        exact ⟨_, _, j, own, .item hitem, hreports, by rw [Nat.zero_add]⟩
    | _ => exact Shape.tells_faults (by rintro _ _ _ ⟨⟩) rfl (List.nodup_singleton _)
  | _, _, _, j, .object h, hdistinct => by
    cases j with
    | obj members =>
      -- The members report in turn, each under a name of its own.
      have hentries := tells_entries hdistinct.nodup_names
        fun member hmember => Follows.tells h (hdistinct.member hmember)
      refine hentries.congr fun detail => ?_
      rw [Shape.reports_iff_of_faultless rfl]
      constructor
      · rintro ⟨_, _, j, own, hpart, hreports, rfl⟩
        cases hpart with
        | entry hmember => exact ⟨_, j, own, hmember, hreports, rfl⟩
      · rintro ⟨name, j, own, hmember, hreports, rfl⟩
        exact ⟨_, _, j, own, .entry hmember, hreports, rfl⟩
    | _ => exact Shape.tells_faults (by rintro _ _ _ ⟨⟩) rfl (List.nodup_singleton _)
  | _, _, _, j, .orNull h, hdistinct => by
    have hvalue := Follows.tells h hdistinct
    cases j with
    | null => exact Decoded.tells_of_details_eq_nil rfl (by simp [Shape.reports_orNull])
    | _ => exact hvalue.congr fun _ => by simp [Shape.reports_orNull]
  | _, _, _, j, .optional h, hdistinct => by
    have hvalue := Follows.tells h hdistinct
    cases j with
    | null => exact Decoded.tells_of_details_eq_nil rfl (by simp [Shape.reports_orNull])
    | _ => exact (hvalue.map some).congr fun _ => by simp [Shape.reports_orNull]
  | _, _, _, j, @Follows.model _ _ name h, hdistinct => by
    cases j with
    | obj members =>
      -- The fields of a model decode from the last to the first.
      have hfields := FieldsFollow.tells h
        (List.pairwise_reverse.mpr name.pairwise_names_disjoint)
        (fun field hfield => name.whole_names field (List.mem_reverse.mp hfield)) hdistinct
      refine hfields.congr fun detail => ?_
      simp only [Shape.reports_model, List.mem_reverse]
    | _ => exact Shape.tells_faults (by rintro _ _ _ ⟨⟩) rfl (List.nodup_singleton _)

theorem FieldsFollow.tells : ∀ {α : Type} {outcome : List (Text × Json) → Decoded α}
    {fields : List Field} {members : List (Text × Json)}, FieldsFollow outcome fields →
    (fields.Pairwise fun first second => second.name.names.Disjoint first.name.names) →
    (∀ field ∈ fields, ∀ name ∈ field.name.names, name.Whole) → (Json.obj members).Distinct →
    (outcome members).Tells fun detail => ∃ field ∈ fields, field.Reports members detail
  | _, _, _, _, .map f h, _, hwhole, hdistinct => by
    rw [List.forall_mem_singleton] at hwhole
    refine ((FieldFollows.tells h hwhole hdistinct).map f).congr fun detail => ?_
    simp
  | _, _, _, _, .ap h hlast, hapart, hwhole, hdistinct => by
    rw [List.pairwise_cons] at hapart
    rw [List.forall_mem_cons] at hwhole
    have hfields := FieldsFollow.tells h hapart.2 hwhole.2 hdistinct
    refine (hfields.seq (FieldFollows.tells hlast hwhole.1 hdistinct) ?_).congr fun detail => ?_
    · -- Each error is under a name of its field, and no name is that of two fields.
      rintro first second ⟨field, hfield, hreports⟩ hreports'
      obtain ⟨name, hname, rest, hloc⟩ := hreports.loc_eq
      obtain ⟨other, hother, rest', hloc'⟩ := hreports'.loc_eq
      rw [hloc, hloc']
      intro hsame
      have hnames : name = other := by
        simpa using List.head_eq_of_cons_eq hsame
      exact hapart.1 field hfield hname (hnames ▸ hother)
    · simp [or_comm]

theorem FieldFollows.tells : ∀ {α : Type} {outcome : List (Text × Json) → Decoded α}
    {field : Field} {members : List (Text × Json)}, FieldFollows outcome field →
    (∀ name ∈ field.name.names, name.Whole) → (Json.obj members).Distinct →
    (outcome members).Tells (field.Reports members)
  | _, _, field, members, .read h habsent, hwhole, hdistinct => by
    unfold Field.outcome Field.Reports
    cases hread : field.read? members with
    | some found =>
      obtain ⟨hname, hmember⟩ := Field.mem_of_read? hread
      have hunder := (Follows.tells h (hdistinct.member hmember)).under (.name found.1)
      -- The name of a field is shown as it is.
      rw [PathStep.shown, (hwhole _ hname).replaced_eq] at hunder
      exact hunder
    | none =>
      have hwire := (hwhole _ List.mem_cons_self).replaced_eq
      refine ⟨field.absence, ?_, ?_, fun _ => Iff.rfl⟩
      · rw [habsent, Field.absence]
        split <;> simp [Detail.shown, PathStep.shown, hwire]
      · rw [Field.absence]
        split <;> simp

end

/-- What a decoder of a shape reports for a value is complete and well placed. -/
structure Thorough (decoder : Decoder α) (shape : Shape) (j : Json) : Prop where
  /-- Decoding fails just if there are errors to list. -/
  fails_iff : (∀ a, decoder j ≠ .value a) ↔ (decoder j).details ≠ []
  /-- A report lists them all, and its message says how many there are. -/
  reported : ∀ model report, (decoder j).report model = .error report →
    report.details = (decoder j).details ∧
    report.message = toString (decoder j).details.length ++ " validation error" ++
      (if (decoder j).details.length = 1 then "" else "s") ++ " for " ++ model
  /-- Each error is where a part of the value is, in a place of its own, which it shows with halves
  of surrogate pairs replaced. -/
  located : ∃ errors : List Detail, (decoder j).details = errors.map .shown ∧
    (errors.map Detail.loc).Nodup ∧ ∀ detail ∈ errors, shape.Places j detail
  /-- If no path has anything to replace, the errors as listed are in these places. -/
  exact : j.ShowsPaths → ((decoder j).details.map Detail.loc).Nodup ∧
    ∀ detail ∈ (decoder j).details, shape.Places j detail
  /-- Decoding fails just if something is wrong with a part. -/
  fails_iff_faulty : (∀ a, decoder j ≠ .value a) ↔
    ∃ path inner part, shape.Governs j path inner part ∧ inner.faults part ≠ []
  /-- Whatever is wrong with a part is listed. -/
  complete : ∀ path inner part, shape.Governs j path inner part →
    ∀ own ∈ inner.faults part, (own.within path).shown ∈ (decoder j).details

theorem forall_ne_value_iff {α : Type} (x : Decoded α) :
    (∀ a, x ≠ .value a) ↔ x.details ≠ [] := by
  cases x <;> simp [Decoded.details]

theorem Follows.thorough {α : Type} {decoder : Decoder α} {shape : Shape} {j : Json}
    (h : decoder.Follows shape) (hdistinct : j.Distinct) : decoder.Thorough shape j := by
  obtain ⟨errors, hdetails, hnodup, hmem⟩ := h.tells hdistinct
  have hplaced : ∀ detail ∈ errors, shape.Places j detail :=
    fun detail hdetail => ((hmem detail).mp hdetail).placed hdistinct
  -- What is wrong anywhere is reported, whatever else is.
  have hcomplete : ∀ path inner part, shape.Governs j path inner part →
      ∀ own ∈ inner.faults part, (own.within path).shown ∈ (decoder j).details := by
    intro path inner part hgoverns own hown
    rw [hdetails]
    exact List.mem_map_of_mem ((hmem _).mpr ⟨path, inner, part, own, hgoverns, hown, rfl⟩)
  constructor
  case fails_iff => exact forall_ne_value_iff _
  case reported =>
    intro model report hreport
    cases hdecoded : decoder j with
    | value a =>
      rw [hdecoded] at hreport
      cases hreport
    | errors first more =>
      rw [hdecoded] at hreport
      cases hreport
      exact ⟨rfl, rfl⟩
  case located => exact ⟨errors, hdetails, hnodup, hplaced⟩
  case exact =>
    intro hshows
    -- Where paths are shown as they are, no place is changed, so none fall together.
    have hsame : (decoder j).details = errors := by
      rw [hdetails, List.map_congr_left fun detail hdetail =>
        ((hmem detail).mp hdetail).shown_eq hdistinct hshows, List.map_id']
    rw [hsame]
    exact ⟨hnodup, hplaced⟩
  case fails_iff_faulty =>
    rw [forall_ne_value_iff]
    constructor
    · intro hfails
      -- An error that is listed comes from a part that is at fault.
      obtain ⟨detail, hdetail⟩ := List.exists_mem_of_ne_nil _ (hdetails ▸ hfails)
      obtain ⟨error, herror, -⟩ := List.mem_map.mp hdetail
      obtain ⟨path, inner, part, own, hgoverns, hfault, -⟩ := (hmem error).mp herror
      exact ⟨path, inner, part, hgoverns, List.ne_nil_of_mem hfault⟩
    · rintro ⟨path, inner, part, hgoverns, hfaults⟩
      obtain ⟨own, hown⟩ := List.exists_mem_of_ne_nil _ hfaults
      exact List.ne_nil_of_mem (hcomplete path inner part hgoverns own hown)
  case complete => exact hcomplete

end Decoder

end AdmissionControl
