/-
  AdmissionControl.Proofs.Limit.Stored

  What a limit means after it was stored in a quota.

  A limit is decoded before it is normalized, and both steps take a stand on the values of its
  entries.  The decoder takes every scalar value, and keeps it as it is but for a truth value, in
  whose place it stores zero or one (`Stores`).  Normalization reads null, texts and numbers, and
  takes no truth value (`truthless_of_normalize`).  So a limit without truth values means the same
  before and after, error for error, and one with them means nothing before.  Afterwards it may mean
  something: that is where the two steps disagree (`Keeps.agrees_iff`).
-/

import AdmissionControl.Directory
import AdmissionControl.Proofs.Limit.Declared
import AdmissionControl.Proofs.Model.Leaves
import AdmissionControl.Review

namespace AdmissionControl

namespace Json

/-- Null, a truth value, a number, or a text. -/
inductive IsScalar : Json → Prop where
  | null : IsScalar .null
  | bool (b : Bool) : IsScalar (.bool b)
  | int (n : Int) : IsScalar (.int n)
  | float (x : Binary64) : IsScalar (.float x)
  | str (s : Text) : IsScalar (.str s)

/-- A truth value. -/
def IsTruth (j : Json) : Prop := ∃ b, j = .bool b

/-- A value, with zero or one in the place of a truth value. -/
def counted : Json → Json
  | .bool b => .int (if b then 1 else 0)
  | j => j

theorem counted_of_not_isTruth {j : Json} (h : ¬ j.IsTruth) : j.counted = j := by
  cases j with
  | bool b => exact absurd ⟨b, rfl⟩ h
  | _ => rfl

end Json

namespace Limit

/-! ## Truth values -/

/-- A raw limit whose values are scalar. -/
def Scalar (raw : RawLimit) : Prop := ∀ entry ∈ raw, entry.2.IsScalar

/-- A raw limit without truth values. -/
def Truthless (raw : RawLimit) : Prop := ∀ entry ∈ raw, ¬ entry.2.IsTruth

/-- A raw limit with its truth values counted. -/
def counted (raw : RawLimit) : RawLimit := raw.map fun entry => (entry.1, entry.2.counted)

variable {raw : RawLimit} {limit : Limit}

theorem counted_of_truthless (h : Truthless raw) : counted raw = raw := by
  have hsame : ∀ entry ∈ raw, (entry.1, entry.2.counted) = id entry := by
    intro entry hentry
    rw [Json.counted_of_not_isTruth (h entry hentry)]
    rfl
  calc counted raw = raw.map id := List.map_congr_left hsame
    _ = raw := List.map_id raw

/-- What normalizes has no truth value in it, as this would be declared and is no quantity. -/
theorem truthless_of_normalize (h : normalize raw = .ok limit) : Truthless raw := by
  rintro ⟨key, value⟩ hentry ⟨b, rfl⟩
  have hdeclared : (key, .bool b) ∈ declared raw := mem_declared.mpr ⟨hentry, nofun, nofun⟩
  obtain ⟨quantity, hquantity⟩ :=
    exists_declaredAs_iff.mp ⟨limit, (normalize_eq_ok_iff.mp h).1⟩ _ hdeclared
  cases hquantity

end Limit

/-! ## Stored limits -/

open Limit

theorem LimitValue.exists_decode {j : Json} (h : j.IsScalar) :
    ∃ value, decode j = .value value ∧ value.toJson = j.counted := by
  cases h <;> exact ⟨_, rfl, rfl⟩

namespace StoredLimit

variable {raw : RawLimit} {stored : StoredLimit}

/-- A limit that was stored as another one was written: entry by entry, with truth values
counted. -/
def Stores (stored : StoredLimit) (raw : RawLimit) : Prop := stored.toRaw = counted raw

theorem exists_entries (h : Scalar raw) :
    ∃ stored, Decoder.entries LimitValue.decode raw = .value stored ∧ Stores stored raw := by
  induction raw with
  | nil => exact ⟨[], rfl, rfl⟩
  | cons entry rest ih =>
    obtain ⟨name, j⟩ := entry
    obtain ⟨hj, hrest⟩ := List.forall_mem_cons.mp h
    -- What is stored for an entry counts as the entry does.
    obtain ⟨value, hvalue, hcounted⟩ := LimitValue.exists_decode hj
    obtain ⟨stored, hstored, hstores⟩ := ih hrest
    refine ⟨(name, value) :: stored, ?_, ?_⟩
    · rw [Decoder.entries, hvalue, hstored]
      rfl
    · rw [Stores, toRaw, List.map_cons, hcounted, ← toRaw, hstores]
      rfl

/-- Every limit with scalar values can be stored. -/
theorem exists_decode (h : Scalar raw) :
    ∃ stored, decode (.obj raw) = .value stored ∧ Stores stored raw := by
  cases raw with
  | nil => exact ⟨[], rfl, rfl⟩
  | cons entry rest =>
    obtain ⟨stored, hstored, hstores⟩ := exists_entries h
    exact ⟨stored, hstored, hstores⟩

/-- Without truth values the stored limit normalizes as the raw one, to the same or with the same
error. -/
theorem Stores.normalize_eq (h : Stores stored raw) (htruthless : Truthless raw) :
    stored.normalize = Limit.normalize raw := by
  rw [normalize, h, counted_of_truthless htruthless]

/-- Where every integer of a stored limit has a text, it normalizes or is refused. -/
theorem normalize_ne_unshown (h : stored.Passes Json.shortIntegers) :
    stored.normalize ≠ .error .unshown := by
  refine Limit.normalize_ne_unshown fun entry hentry => ?_
  obtain ⟨written, hwritten, rfl⟩ := List.mem_map.mp hentry
  exact (h written hwritten).2

/-- A stored limit and a raw one mean the same: both normalize to one limit, or neither
normalizes. -/
def Agrees (stored : StoredLimit) (raw : RawLimit) : Prop :=
  stored.normalize.toOption = (Limit.normalize raw).toOption

theorem Stores.agrees_iff (h : Stores stored raw) :
    Agrees stored raw ↔ Truthless raw ∨ ∀ limit, stored.normalize ≠ .ok limit := by
  constructor
  · intro hagrees
    -- A raw limit with a truth value does not normalize, so agreement with it is failure of both.
    cases hnormalize : Limit.normalize raw with
    | ok limit => exact .inl (truthless_of_normalize hnormalize)
    | error cause =>
      refine .inr fun limit hlimit => ?_
      rw [Agrees, hlimit, hnormalize] at hagrees
      cases hagrees
  · rintro (htruthless | hfails)
    · rw [Agrees, h.normalize_eq htruthless]
    · -- A raw limit that normalized would be without truth values, and so would the stored one be.
      cases hnormalize : Limit.normalize raw with
      | ok limit =>
        have hsame := h.normalize_eq (truthless_of_normalize hnormalize)
        exact absurd (hsame.trans hnormalize) (hfails limit)
      | error cause =>
        cases hstored : stored.normalize with
        | ok limit => exact absurd hstored (hfails limit)
        | error cause' => rw [Agrees, hstored, hnormalize]; rfl

/-- A stored limit keeps what was written: entry by entry but for truth values, and its meaning, to
the same error, where there are none.  The two mean the same unless a truth value lets the stored
limit mean something. -/
structure Keeps (stored : StoredLimit) (raw : RawLimit) : Prop where
  stores : Stores stored raw
  normalize_eq : Truthless raw → stored.normalize = Limit.normalize raw
  agrees_iff : Agrees stored raw ↔ Truthless raw ∨ ∀ limit, stored.normalize ≠ .ok limit

theorem Stores.keeps (h : Stores stored raw) : Keeps stored raw :=
  ⟨h, h.normalize_eq, h.agrees_iff⟩

end StoredLimit

/-! ## Quotas -/

open StoredLimit

/-- A field of an object holds a limit, or is left out in place of the empty one. -/
inductive FieldName.Holds (field : FieldName) (members : List (Text × Json)) : RawLimit → Prop where
  | present {name : Text} {raw : RawLimit} : field.find? members = some (name, .obj raw) →
      Holds field members raw
  | absent : field.find? members = none → Holds field members []

theorem FieldName.Holds.exists_decode {field : FieldName} {members : List (Text × Json)}
    {raw : RawLimit} (h : field.Holds members raw) (hscalar : Scalar raw) :
    ∃ stored, field.decode [] StoredLimit.decode members = .value stored ∧ Stores stored raw := by
  cases h with
  | present hfield =>
    obtain ⟨stored, hstored, hstores⟩ := StoredLimit.exists_decode hscalar
    refine ⟨stored, ?_, hstores⟩
    rw [FieldName.decode, hfield]
    simp only [hstored]
    rfl
  | absent hfield =>
    refine ⟨[], ?_, rfl⟩
    rw [FieldName.decode, hfield]

/-- The quotas of a project and of a namespace decode whatever scalar values their limits have, and
what is stored of each limit keeps what was written. -/
theorem quota_limits_keep_meaning (members : List (Text × Json)) (limit used : RawLimit)
    (hlimit : FieldName.Holds ⟨"limit", none⟩ members limit)
    (hused : FieldName.Holds ⟨"usedLimit", some "used_limit"⟩ members used)
    (hscalar : Scalar limit ∧ Scalar used) :
    ∃ quota, ProjectQuota.decode (.obj members) = .value quota ∧
      NamespaceQuota.decode (.obj members) = .value ⟨quota.limit⟩ ∧
      Keeps quota.limit limit ∧ Keeps quota.usedLimit used := by
  obtain ⟨stored, hstored, hstores⟩ := hlimit.exists_decode hscalar.1
  obtain ⟨storedUsed, hstoredUsed, hstoresUsed⟩ := hused.exists_decode hscalar.2
  refine ⟨⟨stored, storedUsed⟩, ?_, ?_, hstores.keeps, hstoresUsed.keeps⟩
  · rw [ProjectQuota.decode, Decoder.model, hstored, hstoredUsed]
    rfl
  · rw [NamespaceQuota.decode, Decoder.model, hstored]
    rfl

/-- A limit with a text, a null and a number. -/
def mixedLimit : RawLimit := [("limitsCpu", .str "1500m"), ("pods", .null), ("secrets", .int 5)]

theorem mixedLimit_keeps_meaning :
    ∃ quota, ProjectQuota.decode (.obj [("limit", .obj mixedLimit)]) = .value quota ∧
      quota.limit.normalize = .ok [("limits.cpu", mkRat 3 2), ("secrets", 5)] ∧
      Limit.normalize mixedLimit = .ok [("limits.cpu", mkRat 3 2), ("secrets", 5)] := by
  have hscalar : Scalar mixedLimit := by
    simp only [Scalar, mixedLimit, List.forall_mem_cons]
    exact ⟨.str _, .null, .int _, fun _ h => absurd h List.not_mem_nil⟩
  have hnormalize : Limit.normalize mixedLimit =
      .ok [("limits.cpu", mkRat 3 2), ("secrets", 5)] :=
    Except.eq_ok_of_toOption (by decide +kernel)
  obtain ⟨quota, hquota, -, hkeeps, -⟩ := quota_limits_keep_meaning [("limit", .obj mixedLimit)]
    mixedLimit [] (.present rfl) (.absent rfl) ⟨hscalar, fun _ h => absurd h List.not_mem_nil⟩
  refine ⟨quota, hquota, ?_, hnormalize⟩
  rw [hkeeps.normalize_eq (truthless_of_normalize hnormalize), hnormalize]

/-- A limit with a truth value. -/
def truthLimit : RawLimit := [("pods", .bool true)]

/-- The review of the creation of a project with this limit. -/
def truthReview : Json := .obj [("request", .obj [
  ("uid", .str "1"), ("operation", .str "CREATE"),
  ("resource", .obj [("resource", .str "projects")]),
  ("object", .obj [("spec", .obj [
    ("resourceQuota", .obj [("limit", .obj truthLimit)]),
    ("namespaceDefaultResourceQuota", .obj [("limit", .obj [("pods", .int 1)])])])])])]

/-- A limit with a truth value does not normalize, but what is stored of it does, and a project with
it is admitted. -/
theorem truthLimit_gains_meaning :
    Scalar truthLimit ∧
    Limit.normalize truthLimit =
      .error (.refused (.ofResource "pods" (.invalid (.bool true)))) ∧
    (∃ quota, ProjectQuota.decode (.obj [("limit", .obj truthLimit)]) = .value quota ∧
      quota.limit.normalize = .ok [("pods", 1)] ∧ ¬ Agrees quota.limit truthLimit) ∧
    ((review truthReview "").run ({} : Directory).handler []).result =
      .ok (Decision.respond (.allow []) "1") := by
  have hraw : Limit.normalize truthLimit =
      .error (.refused (.ofResource "pods" (.invalid (.bool true)))) := rfl
  have hstored : StoredLimit.normalize [("pods", .int 1)] = .ok [("pods", 1)] :=
    Except.eq_ok_of_toOption (by decide +kernel)
  refine ⟨?_, hraw, ⟨{ limit := [("pods", .int 1)] }, rfl, hstored, ?_⟩,
    Except.eq_ok_of_toOption (by decide +kernel)⟩
  · simp only [Scalar, truthLimit, List.forall_mem_cons]
    exact ⟨.bool _, fun _ h => absurd h List.not_mem_nil⟩
  · intro hagrees
    rw [Agrees, hraw, hstored] at hagrees
    cases hagrees

end AdmissionControl
