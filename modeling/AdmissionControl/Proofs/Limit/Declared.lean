/-
  AdmissionControl.Proofs.Limit.Declared

  What a raw limit declares.

  Normalization goes once over the entries.  It leaves out those that are unset, stops at the first
  that has a name already seen or a value that is no quantity, and adds each other one at the end.
  So whether it comes to a limit is a fact about the declared entries as a whole: each of them has a
  quantity, and no two have the same canonical name (`foldlM_declare_eq_ok_iff`, by induction over
  the entries with the limit so far in front).  That fact and the entries of the limit do not depend
  on the order (`normalize_exact`).
-/

import AdmissionControl.Proofs.Limit.Alike
import Mathlib.Data.List.Forall2

namespace AdmissionControl

namespace Limit

variable {raw other : RawLimit} {limit : Limit} {entry : Text × Json} {name : Text}
  {quantity : Rat}

/-! ## Declared entries -/

theorem isUnset_iff {j : Json} : isUnset j = true ↔ j = .null ∨ j = .str "" := by
  cases j with
  | null => exact iff_of_true rfl (.inl rfl)
  | str s =>
    rw [isUnset, Text.isEmpty_iff, Json.str.injEq]
    exact ⟨.inr, fun h => h.resolve_left nofun⟩
  | _ => exact iff_of_false nofun fun h => h.elim nofun nofun

/-- A value that declares something is neither null nor the empty text. -/
def Declaring (value : Json) : Prop := value ≠ .null ∧ value ≠ .str ""

theorem declaring_iff {value : Json} : Declaring value ↔ isUnset value = false := by
  rw [← Bool.not_eq_true, isUnset_iff, not_or, Declaring]

instance : DecidablePred Declaring := fun _ => decidable_of_iff _ declaring_iff.symm

/-- The entries of a raw limit that declare something, in their order. -/
def declared (raw : RawLimit) : RawLimit := raw.filter fun entry => Declaring entry.2

/-- The canonical names of the declared entries, in their order. -/
def resources (raw : RawLimit) : List Text :=
  (declared raw).map fun entry => canonicalName entry.1

/-- A raw entry declares a quantity under its canonical name. -/
structure DeclaredAs (entry : Text × Json) (quantity : Text × Rat) : Prop where
  name : canonicalName entry.1 = quantity.1
  value : Quantity.parse entry.2 = .ok quantity.2

/-- What has a quantity is not unset. -/
theorem isUnset_of_parse {j : Json} (h : Quantity.parse j = .ok quantity) : isUnset j = false := by
  rw [← Bool.not_eq_true, isUnset_iff]
  rintro (rfl | rfl) <;> cases h

theorem mem_declared : entry ∈ declared raw ↔ entry ∈ raw ∧ Declaring entry.2 := by
  rw [declared, List.mem_filter, decide_eq_true_eq]

theorem declared_cons_of_unset (h : isUnset entry.2 = true) :
    declared (entry :: raw) = declared raw := by
  simp [declared, declaring_iff, h]

theorem declared_cons_of_set (h : isUnset entry.2 = false) :
    declared (entry :: raw) = entry :: declared raw := by
  simp [declared, declaring_iff, h]

/-! ## One entry -/

theorem declare_of_unset (h : isUnset entry.2 = true) : declare limit entry = .ok limit := by
  rw [declare, if_pos h]

/-- A declared entry is added at the end, if it has a quantity and its name is new. -/
theorem declare_eq_ok_iff {next : Limit} (h : isUnset entry.2 = false) :
    declare limit entry = .ok next ↔ ∃ added, DeclaredAs entry added ∧
      canonicalName entry.1 ∉ limit.names ∧ next = limit ++ [added] := by
  constructor
  · intro hdeclare
    rcases declare_cases hdeclare with ⟨hunset, -⟩ | ⟨-, hnew, quantity, hparse, hnext⟩
    · rw [h] at hunset
      cases hunset
    · exact ⟨(canonicalName entry.1, quantity), ⟨rfl, hparse⟩, hnew, hnext⟩
  · rintro ⟨⟨name, quantity⟩, ⟨rfl, hparse⟩, hnew, rfl⟩
    simp only at hparse
    simp [declare, h, lookup_eq_none.mpr hnew, hparse]

/-- What fails without a message holds an integer that is too long, under a new name. -/
theorem declare_eq_unshown_iff : declare limit entry = .error .unshown ↔
    canonicalName entry.1 ∉ limit.names ∧ entry.2.isWritable = false := by
  rw [← Quantity.parse_eq_unshown_iff, ← lookup_eq_none]
  cases hunset : isUnset entry.2 with
  | true =>
    rw [declare_of_unset hunset]
    refine iff_of_false nofun fun h => ?_
    -- An unset value is no integer.
    rcases isUnset_iff.mp hunset with hnull | hempty
    · rw [hnull] at h
      cases h.2
    · rw [hempty] at h
      cases h.2
  | false =>
    -- A resource that is there already is refused before its value is looked at.
    cases hlookup : limit.lookup (canonicalName entry.1) with
    | some quantity => simp [declare, hunset, hlookup]
    | none =>
      cases hparse : Quantity.parse entry.2 with
      | ok quantity => simp [declare, hunset, hlookup, hparse]
      | error failure =>
        cases failure <;> simp [declare, hunset, hlookup, hparse, QuantityFailure.ofResource]

/-! ## All entries -/

/-- From a limit on, the entries come to it with the quantities behind that they declare, if every
one of them has a quantity and no name comes twice. -/
theorem foldlM_declare_eq_ok_iff {start : Limit} (hstart : start.names.Nodup) :
    raw.foldlM declare start = .ok limit ↔ ∃ added, limit = start ++ added ∧
      List.Forall₂ DeclaredAs (declared raw) added ∧ (start ++ added).names.Nodup := by
  -- The limit so far grows with each entry, so it is any in the induction.
  induction raw generalizing start with
  | nil =>
    constructor
    · rintro ⟨⟩
      exact ⟨[], (List.append_nil _).symm, .nil, by rwa [List.append_nil]⟩
    · rintro ⟨added, rfl, hadded, -⟩
      cases hadded
      rw [List.append_nil]
      rfl
  | cons entry rest ih =>
    rw [List.foldlM_cons]
    cases hunset : isUnset entry.2 with
    | true =>
      rw [declare_of_unset hunset, declared_cons_of_unset hunset]
      exact ih hstart
    | false =>
      rw [declared_cons_of_set hunset]
      constructor
      · intro h
        cases hdeclare : declare start entry with
        | error cause => rw [hdeclare] at h; cases h
        | ok next =>
          rw [hdeclare] at h
          obtain ⟨first, hfirst, hnew, rfl⟩ := (declare_eq_ok_iff hunset).mp hdeclare
          -- The name was new, so the names before stay distinct with it.
          have hnext : (start ++ [first]).names.Nodup := by
            rw [hfirst.name] at hnew
            rw [names_append]
            exact List.nodup_middle.mpr (by simpa using ⟨hnew, hstart⟩)
          obtain ⟨added, rfl, hadded, hnodup⟩ := (ih hnext).mp h
          exact ⟨first :: added, by simp, .cons hfirst hadded, by simpa using hnodup⟩
      · rintro ⟨added, rfl, hadded, hnodup⟩
        cases hadded with
        | @cons _ first _ added hfirst hrest =>
          -- All names are distinct, so this one is not among those before.
          have hnew : canonicalName entry.1 ∉ start.names := by
            rw [names_append, names_cons, List.nodup_middle, List.nodup_cons] at hnodup
            rw [hfirst.name]
            exact fun hmem => hnodup.1 (List.mem_append_left _ hmem)
          have hsame : start ++ first :: added = start ++ [first] ++ added := by simp
          rw [hsame] at hnodup
          have hnext : (start ++ [first]).names.Nodup := by
            rw [names_append] at hnodup
            exact hnodup.of_append_left
          rw [(declare_eq_ok_iff hunset).mpr ⟨first, hfirst, hnew, rfl⟩]
          exact (ih hnext).mpr ⟨added, hsame, hrest, hnodup⟩

/-! ## Normalization as a whole -/

theorem names_of_declaredAs {entries : RawLimit} (h : List.Forall₂ DeclaredAs entries limit) :
    limit.names = entries.map fun entry => canonicalName entry.1 := by
  induction h with
  | nil => rfl
  | cons hentry _ ih => rw [names_cons, List.map_cons, hentry.name, ih]

/-- A raw limit normalizes to the quantities that its entries declare, in their order, if every one
of them has a quantity and no two have the same canonical name. -/
theorem normalize_eq_ok_iff : normalize raw = .ok limit ↔
    List.Forall₂ DeclaredAs (declared raw) limit ∧ (resources raw).Nodup := by
  have hempty : names [] = [] := rfl
  refine (foldlM_declare_eq_ok_iff (by simp [hempty])).trans ?_
  simp only [List.nil_append]
  constructor
  · rintro ⟨added, rfl, hadded, hnodup⟩
    rw [names_of_declaredAs hadded] at hnodup
    exact ⟨hadded, hnodup⟩
  · rintro ⟨hadded, hnodup⟩
    refine ⟨limit, rfl, hadded, ?_⟩
    rw [names_of_declaredAs hadded]
    exact hnodup

theorem declared_of_declaredAs (h : List.Forall₂ DeclaredAs raw limit) : declared raw = raw := by
  induction h with
  | nil => rfl
  | cons hentry _ ih => rw [declared_cons_of_set (isUnset_of_parse hentry.value), ih]

/-- Entries that all declare something, under distinct names, normalize to what they declare. -/
theorem normalize_of_declaredAs (h : List.Forall₂ DeclaredAs raw limit)
    (hnodup : limit.names.Nodup) : normalize raw = .ok limit := by
  rw [normalize_eq_ok_iff, resources, declared_of_declaredAs h, ← names_of_declaredAs h]
  exact ⟨h, hnodup⟩

theorem exists_declaredAs_iff {entries : RawLimit} :
    (∃ limit, List.Forall₂ DeclaredAs entries limit) ↔
      ∀ entry ∈ entries, ∃ quantity, Quantity.parse entry.2 = .ok quantity := by
  induction entries with
  | nil => exact iff_of_true ⟨[], .nil⟩ fun entry h => absurd h List.not_mem_nil
  | cons entry rest ih =>
    rw [List.forall_mem_cons, ← ih]
    constructor
    · rintro ⟨limit, hlimit⟩
      cases hlimit with
      | cons hentry hrest => exact ⟨⟨_, hentry.value⟩, _, hrest⟩
    · rintro ⟨⟨quantity, hquantity⟩, limit, hlimit⟩
      exact ⟨(canonicalName entry.1, quantity) :: limit, .cons ⟨rfl, hquantity⟩ hlimit⟩

theorem normalize_eq_error_iff : (∃ failure, normalize raw = .error failure) ↔
    (∃ entry ∈ raw, Declaring entry.2 ∧ ∃ failure, Quantity.parse entry.2 = .error failure) ∨
      ¬ (resources raw).Nodup := by
  have hreadable : (∃ limit, List.Forall₂ DeclaredAs (declared raw) limit) ↔
      ¬ ∃ entry ∈ raw, Declaring entry.2 ∧
        ∃ failure, Quantity.parse entry.2 = .error failure := by
    simp only [exists_declaredAs_iff, mem_declared, Except.exists_error_iff]
    push Not
    exact forall_congr' fun entry => and_imp
  simp only [Except.exists_error_iff, normalize_eq_ok_iff, exists_and_right, hreadable, not_and_or,
    not_not]

/-- The entries fail where the first of them does. -/
theorem foldlM_declare_eq_error_iff {start : Limit} {failure : QuantityFailure} :
    raw.foldlM declare start = .error failure ↔ ∃ before entry after limit,
      raw = before ++ entry :: after ∧ before.foldlM declare start = .ok limit ∧
        declare limit entry = .error failure := by
  constructor
  · intro h
    -- By induction on the entries, over every limit that they may be added to.
    induction raw generalizing start with
    | nil => cases h
    | cons entry rest ih =>
      rw [List.foldlM_cons] at h
      cases hfirst : declare start entry with
      | error cause =>
        rw [hfirst] at h
        exact ⟨[], entry, rest, start, rfl, rfl, hfirst.trans h⟩
      | ok next =>
        rw [hfirst] at h
        obtain ⟨before, failing, after, limit, rfl, hbefore, hfailing⟩ := ih h
        refine ⟨entry :: before, failing, after, limit, rfl, ?_, hfailing⟩
        rw [List.foldlM_cons, hfirst]
        exact hbefore
  · rintro ⟨before, entry, after, limit, rfl, hbefore, hfailing⟩
    rw [List.foldlM_append, hbefore]
    show (entry :: after).foldlM declare limit = _
    rw [List.foldlM_cons, hfailing]
    rfl

/-- A raw limit fails without a message if behind entries that normalize there is an integer that is
too long, for a resource that they do not declare. -/
theorem normalize_eq_unshown_iff : normalize raw = .error .unshown ↔
    ∃ before entry after limit, raw = before ++ entry :: after ∧ normalize before = .ok limit ∧
      canonicalName entry.1 ∉ limit.names ∧ entry.2.isWritable = false := by
  simp only [normalize, foldlM_declare_eq_error_iff, declare_eq_unshown_iff]

/-- Where every integer has a text, a raw limit that fails is refused. -/
theorem normalize_ne_unshown (h : ∀ entry ∈ raw, entry.2.isWritable = true) :
    normalize raw ≠ .error .unshown := by
  intro hunshown
  obtain ⟨before, entry, after, limit, rfl, -, -, hlong⟩ := normalize_eq_unshown_iff.mp hunshown
  rw [h entry (by simp)] at hlong
  cases hlong

/-! ## What a limit holds -/

/-- A raw limit declares a quantity of a resource, under whatever spelling of its name. -/
def Declares (raw : RawLimit) (name : Text) (quantity : Rat) : Prop :=
  ∃ entry ∈ raw, DeclaredAs entry (name, quantity)

theorem DeclaredAs.iff_eq {first second : Text × Rat} (h : DeclaredAs entry first) :
    DeclaredAs entry second ↔ second = first := by
  constructor
  · intro h'
    exact Prod.ext (h'.name.symm.trans h.name) (Except.ok.inj (h'.value.symm.trans h.value))
  · rintro rfl
    exact h

theorem mem_of_declaredAs {entries : RawLimit} (h : List.Forall₂ DeclaredAs entries limit)
    (added : Text × Rat) : added ∈ limit ↔ ∃ entry ∈ entries, DeclaredAs entry added := by
  induction h with
  | nil => simp
  | cons hentry _ ih => rw [List.mem_cons, List.exists_mem_cons_iff, hentry.iff_eq, ih]

/-- A limit holds what the raw limit declares. -/
theorem mem_iff_declares (h : normalize raw = .ok limit) (name : Text) (quantity : Rat) :
    (name, quantity) ∈ limit ↔ Declares raw name quantity := by
  rw [mem_of_declaredAs (normalize_eq_ok_iff.mp h).1]
  constructor
  · rintro ⟨entry, hentry, hdeclared⟩
    exact ⟨entry, (mem_declared.mp hentry).1, hdeclared⟩
  · rintro ⟨entry, hentry, hdeclared⟩
    have hset := declaring_iff.mpr (isUnset_of_parse hdeclared.value)
    exact ⟨entry, mem_declared.mpr ⟨hentry, hset⟩, hdeclared⟩

theorem declares_iff_of_perm (h : raw.Perm other) (name : Text) (quantity : Rat) :
    Declares raw name quantity ↔ Declares other name quantity :=
  exists_congr fun _ => and_congr_left fun _ => h.mem_iff

/-- The order of the entries decides neither whether a raw limit normalizes nor to which map. -/
theorem sameMap_of_raw_perm {limit' : Limit} (hperm : raw.Perm other)
    (h : normalize raw = .ok limit) (h' : normalize other = .ok limit') : SameMap limit limit' := by
  refine sameMap_of_mem_iff (normal_of_normalize h) (normal_of_normalize h') ?_
  intro name quantity
  rw [mem_iff_declares h, mem_iff_declares h', declares_iff_of_perm hperm]

theorem normalize_eq_error_iff_of_perm (h : raw.Perm other) :
    (∃ failure, normalize raw = .error failure) ↔
      ∃ failure, normalize other = .error failure := by
  have hnodup : (resources raw).Nodup ↔ (resources other).Nodup :=
    ((h.filter _).map _).nodup_iff
  rw [normalize_eq_error_iff, normalize_eq_error_iff, hnodup]
  exact or_congr_left (exists_congr fun _ => and_congr_left fun _ => h.mem_iff)

/-- Normalization fails exactly when a declared entry, whose value is neither null nor the empty
text, is no quantity, or two declared entries have the same canonical name.  It fails without a
message exactly when the first entry at fault holds an integer of more than 4300 digits, and with
one in all other cases.  Otherwise it comes to the canonical names of the declared entries, each
once and in their order, each with the quantity of its entry.  In any other order of the entries it
fails alike, or comes to the same map. -/
theorem normalize_exact (raw : RawLimit) :
    ((∃ failure, normalize raw = .error failure) ↔
      (∃ entry ∈ raw, Declaring entry.2 ∧
        ∃ failure, Quantity.parse entry.2 = .error failure) ∨ ¬ (resources raw).Nodup) ∧
    (normalize raw = .error .unshown ↔ ∃ before entry after limit,
      raw = before ++ entry :: after ∧ normalize before = .ok limit ∧
        canonicalName entry.1 ∉ limit.names ∧ entry.2.isWritable = false) ∧
    (∀ limit, normalize raw = .ok limit →
      limit.names = resources raw ∧ limit.names.Nodup ∧
        List.Forall₂ DeclaredAs (declared raw) limit) ∧
    (∀ other, raw.Perm other →
      ((∃ failure, normalize raw = .error failure) ↔
        ∃ failure, normalize other = .error failure) ∧
      ∀ limit limit', normalize raw = .ok limit → normalize other = .ok limit' →
        SameMap limit limit') := by
  refine ⟨normalize_eq_error_iff, normalize_eq_unshown_iff, fun limit hlimit => ?_,
    fun other hperm =>
      ⟨normalize_eq_error_iff_of_perm hperm, fun _ _ h h' => sameMap_of_raw_perm hperm h h'⟩⟩
  obtain ⟨hdeclared, -⟩ := normalize_eq_ok_iff.mp hlimit
  exact ⟨names_of_declaredAs hdeclared, (normal_of_normalize hlimit).nodup, hdeclared⟩

/-- No processors, by the name of a field, and unset by that of the resource. -/
def noProcessors : RawLimit :=
  [("limits.cpu", .null), ("limits.memory", .str "1Gi"), ("limitsCpu", .int 0),
    ("pods", .str ""), ("services", .int 3)]

/-- The same with one processor in front, under the name of the resource. -/
def repeatedProcessors : RawLimit := ("limits.cpu", .int 1) :: noProcessors

theorem no_processors_normalized_in_any_order :
    let limit : Limit := [("limits.memory", 1073741824), ("limits.cpu", 0), ("services", 3)]
    (normalize noProcessors = .ok limit ∧ limit.names = resources noProcessors ∧
      List.Forall₂ DeclaredAs (declared noProcessors) limit) ∧
    (normalize noProcessors.reverse = .ok limit.reverse ∧ SameMap limit limit.reverse) ∧
    ∃ failure, normalize repeatedProcessors = .error failure := by
  intro limit
  have hlimit : normalize noProcessors = .ok limit := Except.eq_ok_of_toOption (by decide +kernel)
  have hreverse : normalize noProcessors.reverse = .ok limit.reverse :=
    Except.eq_ok_of_toOption (by decide +kernel)
  obtain ⟨-, -, hexact, horder⟩ := normalize_exact noProcessors
  obtain ⟨hnames, -, hdeclared⟩ := hexact limit hlimit
  obtain ⟨-, hsame⟩ := horder noProcessors.reverse noProcessors.reverse_perm.symm
  obtain ⟨hfails, -⟩ := normalize_exact repeatedProcessors
  have hrepeated : ¬ (resources repeatedProcessors).Nodup := by decide +kernel
  exact ⟨⟨hlimit, hnames, hdeclared⟩, ⟨hreverse, hsame _ _ hlimit hreverse⟩,
    hfails.mpr (.inr hrepeated)⟩

/-- A limit whose only entry is an integer of 4301 digits. -/
def tooLongToShow : RawLimit := [("pods", .int (10 ^ 4300))]

theorem normalize_tooLongToShow : normalize tooLongToShow = .error .unshown :=
  normalize_eq_unshown_iff.mpr
    ⟨[], _, [], [], rfl, rfl, List.not_mem_nil, Json.isWritable_tenToThe4300⟩

theorem tooLongToShow_fails_without_message :
    (∃ entry ∈ tooLongToShow, Declaring entry.2 ∧
      ∃ failure, Quantity.parse entry.2 = .error failure) ∧
    ¬ ∃ cause, normalize tooLongToShow = .error (.refused cause) := by
  refine ⟨⟨_, List.mem_singleton_self _, ⟨nofun, nofun⟩, .unshown,
    Quantity.parse_eq_unshown_iff.mpr Json.isWritable_tenToThe4300⟩, ?_⟩
  rintro ⟨cause, hrefused⟩
  rw [normalize_tooLongToShow] at hrefused
  cases hrefused

end Limit

end AdmissionControl
