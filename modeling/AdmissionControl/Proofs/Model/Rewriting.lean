/-
  AdmissionControl.Proofs.Model.Rewriting

  Objects that are written otherwise, and decode alike.

  One step of `Shape.Rewrites` changes one model somewhere in a value: a member goes from one name
  of its field to the other, a member that no field reads comes or goes, a trivial value that is as
  good as none is replaced or deleted, or the members change their order.  What counts for each
  field is then the same (`Field.value?_of_reshapes`), or it is itself rewritten
  (`Shape.Rewrites.field`).

  Decoders of a shape cannot tell the two apart, by induction on how they are built
  (`Decoder.Follows.alike`): either both values are the same, or there are as many errors.  This is
  an equivalence, so it holds of any number of steps (`Decoder.Follows.alike_of_eqvGen`).
-/

import AdmissionControl.Proofs.Model.Shape
import Mathlib.Logic.Relation

namespace AdmissionControl

/-! ## Entries written otherwise -/

namespace Entries

variable {α : Type} {entries other : Entries α} {old new : Text}

/-- Entries with another name in the place of one. -/
def rename (old new : Text) (entries : Entries α) : Entries α :=
  entries.map fun entry => if entry.1 = old then (new, entry.2) else entry

/-- What stands under a name after one was replaced by another that was not there. -/
theorem lookup_rename (hdifferent : old ≠ new) (habsent : entries.lookup new = none) (key : Text) :
    (rename old new entries).lookup key =
      if key = new then entries.lookup old else if key = old then none else entries.lookup key := by
  induction entries with
  | nil => simp [rename]
  | cons entry rest ih =>
    obtain ⟨name, value⟩ := entry
    rw [lookup_cons] at habsent
    -- The new name is nowhere among the entries.
    by_cases hname : new = name
    · rw [if_pos hname] at habsent
      cases habsent
    · rw [if_neg hname] at habsent
      have hrest := ih habsent
      by_cases hold : name = old
      · -- The entry is found under its new name; another with the old one goes the same way.
        subst hold
        have hcons : rename name new ((name, value) :: rest) =
            (new, value) :: rename name new rest := by simp [rename]
        simp only [hcons, lookup_cons, hrest, if_true]
        by_cases hkey : key = new
        · simp only [hkey, if_true]
        · simp only [hkey, if_false]
          split <;> rfl
      · have hcons : rename old new ((name, value) :: rest) =
            (name, value) :: rename old new rest := by simp [rename, hold]
        simp only [hcons, lookup_cons, hrest, Ne.symm hold, if_false]
        by_cases hkey : key = name
        · subst hkey
          simp only [Ne.symm hname, hold, if_true, if_false]
        · simp only [hkey, if_false]

/-- The order of entries with different names does not matter. -/
theorem lookup_perm (hnames : (entries.map Prod.fst).Nodup) (h : entries.Perm other) (key : Text) :
    entries.lookup key = other.lookup key := by
  have hother : (other.map Prod.fst).Nodup := (h.map Prod.fst).nodup_iff.mp hnames
  refine Option.ext fun value => ?_
  rw [lookup_eq_some hnames, lookup_eq_some hother, h.mem_iff]

end Entries

/-! ## Models written otherwise -/

namespace Field

variable {field : Field} {members others : Entries Json} {name : Text} {j : Json}

/-- The value that counts for a field. -/
def value? (field : Field) (members : List (Text × Json)) : Option Json :=
  (field.read? members).map Prod.snd

theorem value?_of_trivial (hfind : field.name.find? members = some (name, j))
    (hpresence : field.presence = .orTrivial) (htrivial : j.isTrivial = true) :
    field.value? members = none := by
  simp [value?, read?, hfind, Option.filter_some, hpresence, htrivial]

/-- What counts depends on the value found alone. -/
theorem value?_congr
    (h : (field.name.find? members).map Prod.snd = (field.name.find? others).map Prod.snd) :
    field.value? members = field.value? others := by
  have hvalue : ∀ members, field.value? members =
      ((field.name.find? members).map Prod.snd).filter fun j =>
        !(decide (field.presence = .orTrivial) && j.isTrivial) := by
    intro members
    rw [value?, read?, Option.filter_map]
    rfl
  rw [hvalue, hvalue, h]

theorem value?_of_lookup (h : ∀ name ∈ field.name.names, members.lookup name = others.lookup name) :
    field.value? members = field.value? others :=
  value?_congr (congrArg _ (FieldName.find?_congr h))

end Field

/-- One way to write the members of a model otherwise.  Names that no field has may come with any
value and go; so may the other name of a field whose wire name is there.  Where a trivial value is
as good as none it may be replaced, and it may be deleted if this uncovers no value that counts. -/
inductive ModelName.Reshapes (model : ModelName) : Entries Json → Entries Json → Prop where
  | rename {members : Entries Json} {field : Field} {old new : Text} : field ∈ model.fields →
      old ∈ field.name.names → new ∈ field.name.names → old ≠ new → members.lookup new = none →
      Reshapes model members (Entries.rename old new members)
  | add {members : Entries Json} {name : Text} (value : Json) :
      (∀ field ∈ model.fields, name ∉ field.name.names) →
      Reshapes model members (Entries.put name value members)
  | remove {members : Entries Json} {name : Text} :
      (∀ field ∈ model.fields, name ∉ field.name.names) →
      Reshapes model members (Entries.remove name members)
  | addOther {members : Entries Json} {field : Field} {name : Text} {j : Json} (value : Json) :
      field ∈ model.fields → field.name.other = some name →
      members.lookup field.name.wire = some j →
      Reshapes model members (Entries.put name value members)
  | replace {members : Entries Json} {field : Field} {name : Text} {j value : Json} :
      field ∈ model.fields → field.presence = .orTrivial →
      field.name.find? members = some (name, j) → j.isTrivial = true → value.isTrivial = true →
      Reshapes model members (Entries.put name value members)
  | delete {members : Entries Json} {field : Field} {name : Text} {j : Json} :
      field ∈ model.fields → field.presence = .orTrivial →
      field.name.find? members = some (name, j) → j.isTrivial = true →
      field.value? (Entries.remove name members) = none →
      Reshapes model members (Entries.remove name members)
  | permute {members others : Entries Json} : (members.map Prod.fst).Nodup → members.Perm others →
      Reshapes model members others

/-- What is put under a name at which a field was found is found there. -/
theorem FieldName.find?_put_found {field : FieldName} {members : Entries Json} {name : Text}
    {j : Json} (h : field.find? members = some (name, j)) (value : Json) :
    field.find? (Entries.put name value members) = some (name, value) := by
  unfold find? at h ⊢
  split at h
  next found hwire =>
    cases h
    rw [Entries.lookup_put, if_pos rfl]
  next hwire =>
    obtain ⟨second, hsecond, hfound⟩ := Option.bind_eq_some_iff.mp h
    obtain ⟨found, hlookup, hsame⟩ := Option.map_eq_some_iff.mp hfound
    cases hsame
    -- The value was found under the other name, so there is none under that of the wire.
    have hdifferent : field.wire ≠ name := by
      rintro rfl
      rw [hwire] at hlookup
      cases hlookup
    simp [Entries.lookup_put, hdifferent, hwire, hsecond]

/-- Every way to write the members otherwise leaves for each field the value that counts. -/
theorem Field.value?_of_reshapes {model : ModelName} {field : Field} {members others : Entries Json}
    (h : model.Reshapes members others) (hfield : field ∈ model.fields) :
    field.value? members = field.value? others := by
  -- A name of one field is no name of another.
  have hapart : ∀ {changed : Field} {name : Text}, changed ∈ model.fields →
      name ∈ changed.name.names → field ≠ changed → ∀ own ∈ field.name.names, own ≠ name := by
    rintro changed name hchanged hname hother own hown rfl
    exact hother (ModelName.field_unique hfield hchanged hown hname)
  cases h with
  | @rename changed old new hchanged hold hnew hdifferent habsent =>
    -- Of the other fields no name is touched; the changed one finds its value under either name.
    have hlookup := Entries.lookup_rename hdifferent habsent
    by_cases hsame : field = changed
    · subst hsame
      apply value?_congr
      rw [FieldName.map_snd_find?, FieldName.map_snd_find?]
      simp only [hlookup]
      rw [FieldName.names, List.mem_cons, Option.mem_toList] at hold hnew
      -- One of the names is the wire name, and the other is the other.
      rcases hold with rfl | hold <;> rcases hnew with rfl | hnew
      · exact absurd rfl hdifferent
      · simp [hnew, habsent, hdifferent]
      · simp [hold, habsent, hdifferent]
      · exact absurd (Option.mem_unique hold hnew) hdifferent
    · refine value?_of_lookup fun own hown => ?_
      rw [hlookup, if_neg (hapart hchanged hnew hsame own hown),
        if_neg (hapart hchanged hold hsame own hown)]
  | @add name value hunread =>
    refine value?_of_lookup fun own hown => ?_
    rw [Entries.lookup_put, if_neg]
    rintro rfl
    exact hunread field hfield hown
  | @remove name hunread =>
    refine value?_of_lookup fun own hown => ?_
    rw [Entries.lookup_remove, if_neg]
    rintro rfl
    exact hunread field hfield hown
  | @addOther changed name j value hchanged hname hwire =>
    -- The wire name goes first, so what is put under the other is not looked at.
    have hmem : name ∈ changed.name.names :=
      List.mem_cons_of_mem _ (Option.mem_toList.mpr hname)
    by_cases hsame : field = changed
    · subst hsame
      apply value?_congr
      have hkept : (Entries.put name value members).lookup field.name.wire = some j := by
        rw [Entries.lookup_put, if_neg (ModelName.wire_ne_other hchanged hname), hwire]
      rw [FieldName.map_snd_find?, FieldName.map_snd_find?, hwire, hkept]
      rfl
    · refine value?_of_lookup fun own hown => ?_
      rw [Entries.lookup_put, if_neg (hapart hchanged hmem hsame own hown)]
  | @replace changed name j value hchanged hpresence hfind htrivial hvalue =>
    by_cases hsame : field = changed
    · subst hsame
      rw [value?_of_trivial hfind hpresence htrivial,
        value?_of_trivial (FieldName.find?_put_found hfind value) hpresence hvalue]
    · refine value?_of_lookup fun own hown => ?_
      have hmem := (FieldName.mem_names_of_find? hfind).1
      rw [Entries.lookup_put, if_neg (hapart hchanged hmem hsame own hown)]
  | @delete changed name j hchanged hpresence hfind htrivial huncovered =>
    -- Nothing counted before, and nothing is uncovered.
    by_cases hsame : field = changed
    · subst hsame
      rw [value?_of_trivial hfind hpresence htrivial, huncovered]
    · refine value?_of_lookup fun own hown => ?_
      have hmem := (FieldName.mem_names_of_find? hfind).1
      rw [Entries.lookup_remove, if_neg (hapart hchanged hmem hsame own hown)]
  | permute hnames hperm =>
    exact value?_of_lookup fun own _ => Entries.lookup_perm hnames hperm own

/-! ## Values written otherwise -/

/-- One step of writing a value of some shape otherwise: one of the models in it is. -/
inductive Shape.Rewrites : Shape → Json → Json → Prop where
  | reshape {model : ModelName} {members others : Entries Json} : model.Reshapes members others →
      Rewrites (.model model) (.obj members) (.obj others)
  | inside {model : ModelName} {members : Entries Json} {field : Field} {name : Text}
      {j other : Json} : field ∈ model.fields → field.name.find? members = some (name, j) →
      Rewrites field.shape j other →
      Rewrites (.model model) (.obj members) (.obj (Entries.put name other members))
  | orNull {shape : Shape} {j other : Json} : Rewrites shape j other →
      Rewrites (.orNull shape) j other

namespace Shape

/-- The values of the shape are objects of a model. -/
def isModel : Shape → Bool
  | .model _ => true
  | .orNull shape => shape.isModel
  | _ => false

variable {shape : Shape} {j other : Json}

theorem Rewrites.isModel (h : shape.Rewrites j other) : shape.isModel = true := by
  induction h with
  | reshape _ => rfl
  | inside _ _ _ _ => rfl
  | orNull _ ih => exact ih

theorem Rewrites.exists_members (h : shape.Rewrites j other) :
    ∃ members others, j = .obj members ∧ other = .obj others := by
  induction h with
  | reshape _ => exact ⟨_, _, rfl, rfl⟩
  | inside _ _ _ _ => exact ⟨_, _, rfl, rfl⟩
  | orNull _ ih => exact ih

end Shape

/-- Where a trivial value is as good as none, there is no model. -/
theorem ModelName.isModel_of_orTrivial {model : ModelName} {field : Field}
    (hfield : field ∈ model.fields) (hpresence : field.presence = .orTrivial) :
    field.shape.isModel = false := by
  have hall : ∀ field ∈ model.fields, field.presence = .orTrivial →
      field.shape.isModel = false := by
    cases model with
    | request carried => cases carried with
      | none => decide
      | some kind => cases kind <;> decide
    | _ => decide
  exact hall field hfield hpresence

/-- What counts for the field is the same, or it is found under the same name and written
otherwise. -/
inductive Field.Rewritten (field : Field) (members others : Entries Json) : Prop where
  | same : field.value? members = field.value? others → Rewritten field members others
  | inside {name : Text} {j other : Json} : field.read? members = some (name, j) →
      field.read? others = some (name, other) → field.shape.Rewrites j other →
      Rewritten field members others

/-- A step in a model, seen from one of its fields. -/
theorem Shape.Rewrites.field {model : ModelName} {field : Field} {members others : Entries Json}
    (h : (Shape.model model).Rewrites (.obj members) (.obj others))
    (hfield : field ∈ model.fields) : field.Rewritten members others := by
  cases h with
  | reshape hreshapes => exact .same (Field.value?_of_reshapes hreshapes hfield)
  | @inside _ _ changed name j other hchanged hfind hrewrites =>
    by_cases hsame : field = changed
    · subst hsame
      -- A field that holds a model counts whatever its value, so it is read where it is found.
      have hpresence : field.presence ≠ .orTrivial := by
        intro htrivial
        have hno := ModelName.isModel_of_orTrivial hfield htrivial
        rw [hrewrites.isModel] at hno
        cases hno
      rw [← Field.read?_eq_find? hpresence] at hfind
      refine .inside hfind ?_ hrewrites
      rw [Field.read?_eq_find? hpresence] at hfind ⊢
      exact FieldName.find?_put_found hfind other
    · refine .same (Field.value?_of_lookup fun own hown => ?_)
      rw [Entries.lookup_put, if_neg]
      rintro rfl
      exact hsame (ModelName.field_unique hfield hchanged hown
        (FieldName.mem_names_of_find? hfind).1)

/-! ## Outcomes that are alike -/

namespace Decoded

variable {α β : Type}

/-- Both are values that are related, or there are as many errors. -/
inductive Alike (R : α → α → Prop) : Decoded α → Decoded α → Prop where
  | value {a b : α} : R a b → Alike R (.value a) (.value b)
  | errors {first first' : Detail} {more more' : List Detail} : more.length = more'.length →
      Alike R (.errors first more) (.errors first' more')

variable {R : α → α → Prop} {S : β → β → Prop} {x y z : Decoded α}

theorem Alike.refl (hR : ∀ a, R a a) (x : Decoded α) : x.Alike R x := by
  cases x with
  | value a => exact .value (hR a)
  | errors first more => exact .errors rfl

theorem Alike.symm (hR : ∀ a b, R a b → R b a) (h : x.Alike R y) : y.Alike R x := by
  cases h with
  | value hvalue => exact .value (hR _ _ hvalue)
  | errors hcount => exact .errors hcount.symm

theorem Alike.trans (hR : ∀ a b c, R a b → R b c → R a c) (h : x.Alike R y) (h' : y.Alike R z) :
    x.Alike R z := by
  cases h with
  | value hvalue => cases h' with
    | value hvalue' => exact .value (hR _ _ _ hvalue hvalue')
  | errors hcount => cases h' with
    | errors hcount' => exact .errors (hcount.trans hcount')

theorem Alike.of_value {a : α} (h : (Decoded.value a).Alike R y) : ∃ b, y = .value b ∧ R a b := by
  cases h with
  | value hvalue => exact ⟨_, rfl, hvalue⟩

theorem Alike.of_errors {first : Detail} {more : List Detail}
    (h : (Decoded.errors first more).Alike R y) :
    ∃ first' more', y = .errors first' more' ∧ more.length = more'.length := by
  cases h with
  | errors hcount => exact ⟨_, _, rfl, hcount⟩

theorem Alike.equivalence (hR : Equivalence R) : Equivalence (Alike R) :=
  ⟨.refl hR.refl, .symm fun _ _ => hR.symm, .trans fun _ _ _ => hR.trans⟩

/-- What holds of one step holds of any number of steps, in either direction. -/
theorem Alike.of_eqvGen (decoder : Decoder α) {step : Json → Json → Prop} (hR : Equivalence R)
    (hstep : ∀ j other, step j other → (decoder j).Alike R (decoder other)) {j other : Json}
    (h : Relation.EqvGen step j other) : (decoder j).Alike R (decoder other) := by
  have hequivalence := Alike.equivalence hR
  induction h with
  | rel _ _ hone => exact hstep _ _ hone
  | refl _ => exact hequivalence.refl _
  | symm _ _ _ ih => exact hequivalence.symm ih
  | trans _ _ _ _ _ ih ih' => exact hequivalence.trans ih ih'

theorem Alike.mono {wider : α → α → Prop} (h : x.Alike R y) (hwider : ∀ a b, R a b → wider a b) :
    x.Alike wider y := by
  cases h with
  | value hvalue => exact .value (hwider _ _ hvalue)
  | errors hcount => exact .errors hcount

theorem Alike.map {f g : α → β} (h : x.Alike R y) (hfg : ∀ a b, R a b → S (f a) (g b)) :
    (f <$> x).Alike S (g <$> y) := by
  cases h with
  | value hvalue => exact .value (hfg _ _ hvalue)
  | errors hcount => exact .errors hcount

theorem Alike.ap {f g : Decoded (α → β)} (hfg : f.Alike (fun f g => ∀ a b, R a b → S (f a) (g b)) g)
    (h : x.Alike R y) : (f <*> x).Alike S (g <*> y) := by
  cases hfg with
  | value hvalues => cases h with
    | value hvalue => exact .value (hvalues _ _ hvalue)
    | errors hcount => exact .errors hcount
  | errors hcount =>
    refine .errors ?_
    cases h with
    | value hvalue => simp [details, hcount]
    | errors hcount' => simp [details, hcount, hcount']

theorem Alike.under (h : x.Alike R y) (step step' : PathStep) :
    (x.under step).Alike R (y.under step') := by
  cases h with
  | value hvalue => exact .value hvalue
  | errors hcount => exact .errors (by simpa using hcount)

end Decoded

/-! ## Decoders that cannot tell them apart -/

namespace Decoder

mutual

/-- A step in a value of its shape leaves for a decoder the same value, or as many errors.  Only
models are rewritten, so the decoders of texts, lists and maps have no case. -/
theorem Follows.alike : ∀ {α : Type} {decoder : Decoder α} {shape : Shape} {j other : Json},
    decoder.Follows shape → shape.Rewrites j other → (decoder j).Alike Eq (decoder other)
  | _, _, _, _, _, .orNull h, .orNull hrewrites => by
    -- Both values are objects, so neither is null.
    obtain ⟨members, others, rfl, rfl⟩ := hrewrites.exists_members
    have hvalue := Follows.alike h hrewrites
    exact hvalue
  | _, _, _, _, _, .optional h, .orNull hrewrites => by
    obtain ⟨members, others, rfl, rfl⟩ := hrewrites.exists_members
    exact (Follows.alike h hrewrites).map fun _ _ => congrArg some
  | _, _, _, _, _, .model h, hrewrites => by
    obtain ⟨members, others, rfl, rfl⟩ := hrewrites.exists_members
    exact FieldsFollow.alike h fun field hfield =>
      hrewrites.field (List.mem_reverse.mp hfield)

theorem FieldsFollow.alike : ∀ {α : Type} {outcome : List (Text × Json) → Decoded α}
    {fields : List Field} {members others : Entries Json}, FieldsFollow outcome fields →
    (∀ field ∈ fields, field.Rewritten members others) →
    (outcome members).Alike Eq (outcome others)
  | _, _, _, _, _, .map f h, hfields => by
    have hvalue := FieldFollows.alike h (hfields _ (List.mem_singleton_self _))
    exact hvalue.map fun _ _ => congrArg f
  | _, _, _, _, _, .ap h hlast, hfields => by
    rw [List.forall_mem_cons] at hfields
    have hvalue := FieldFollows.alike hlast hfields.1
    exact .ap ((FieldsFollow.alike h hfields.2).mono fun _ _ hsame _ _ => congr hsame) hvalue

theorem FieldFollows.alike : ∀ {α : Type} {outcome : List (Text × Json) → Decoded α}
    {field : Field} {members others : Entries Json}, FieldFollows outcome field →
    field.Rewritten members others → (outcome members).Alike Eq (outcome others)
  | _, _, field, members, others, .read h _, .same hvalue => by
    unfold Field.value? at hvalue
    unfold Field.outcome
    cases hread : field.read? members with
    | none =>
      -- Nothing counts for the field in either writing, or the same value under whichever name.
      rw [hread, Option.map_none, eq_comm, Option.map_eq_none_iff] at hvalue
      rw [hvalue]
      exact .refl (fun _ => rfl) _
    | some found =>
      rw [hread, Option.map_some, eq_comm, Option.map_eq_some_iff] at hvalue
      obtain ⟨⟨name, _⟩, hread', rfl⟩ := hvalue
      rw [hread']
      exact (Decoded.Alike.refl (fun _ => rfl) _).under _ _
  | _, _, field, members, others, .read h _, .inside hread hread' hrewrites => by
    rw [Field.outcome, Field.outcome, hread, hread']
    exact (Follows.alike h hrewrites).under _ _

end

/-- So does any number of steps, in either direction. -/
theorem Follows.alike_of_eqvGen {α : Type} {decoder : Decoder α} {shape : Shape} {j other : Json}
    (h : decoder.Follows shape) (hrewrites : Relation.EqvGen shape.Rewrites j other) :
    (decoder j).Alike Eq (decoder other) :=
  .of_eqvGen decoder eq_equivalence (fun _ _ => h.alike) hrewrites

end Decoder

end AdmissionControl
