/-
  AdmissionControl.Proofs.Limit.Normalize

  What normalization makes of a raw limit.

  `declare` reads one entry: it leaves the limit as it is, or adds one entry under a new name with
  a quantity within the bound (`declare_cases`).  By induction over the entries, a normalized
  limit has no name twice and no quantity beyond the bound (`normal_of_normalize`).
-/

import AdmissionControl.Limit
import AdmissionControl.Model.Project
import AdmissionControl.Proofs.Answers
import AdmissionControl.Proofs.Quantity.Refusal
import Mathlib.Data.List.Nodup

namespace AdmissionControl

/-- A result is known by its value, where this can be decided. -/
theorem Except.eq_ok_of_toOption {result : Except ε α} {a : α} (h : result.toOption = some a) :
    result = .ok a := by
  cases result with
  | error cause => cases h
  | ok found => rw [Option.some.inj h]

theorem Except.exists_error_iff {result : Except ε α} :
    (∃ cause, result = .error cause) ↔ ¬ ∃ a, result = .ok a := by
  cases result <;> simp

/-! ## Quantities -/

namespace Quantity

/-- No quantity is beyond the bound. -/
theorem abs_le_of_parse {value : Json} {q : Rat} (h : parse value = .ok q) : |q| ≤ greatest := by
  cases value with
  | str s =>
    -- Every way to a quantity ends with the check of its bound.
    simp only [parse, parseText] at h
    split at h
    · exact absurd h refuse_ne_ok
    · split at h
      · exact (bounded_eq_ok h).2
      · exact absurd h refuse_ne_ok
  | int n => exact (bounded_eq_ok h).2
  | float x =>
    cases x with
    | finite negative significand exponent canonical => exact (bounded_eq_ok h).2
    | nan => exact absurd h refuse_ne_ok
    | infinity negative => exact absurd h refuse_ne_ok
  | _ => exact absurd h refuse_ne_ok

end Quantity

namespace Limit

/-! ## Names -/

/-- The names of the resources that a limit declares. -/
def names (limit : Limit) : List Text := limit.map Prod.fst

@[simp] theorem names_cons (entry : Text × Rat) (rest : Limit) :
    names (entry :: rest) = entry.1 :: names rest := rfl

@[simp] theorem names_append (first second : Limit) :
    names (first ++ second) = names first ++ names second := List.map_append

theorem mem_names {limit : Limit} {name : Text} :
    name ∈ limit.names ↔ ∃ quantity, (name, quantity) ∈ limit := by
  simp [names]

theorem lookup_eq_none {limit : Limit} {name : Text} :
    limit.lookup name = none ↔ name ∉ limit.names := by
  rw [List.lookup_eq_none_iff, mem_names]
  constructor
  · rintro h ⟨quantity, hmem⟩
    exact absurd (h _ hmem) (by simp)
  · intro h entry hentry
    rw [bne_iff_ne]
    rintro rfl
    exact h ⟨entry.2, hentry⟩

/-! ## Normal limits -/

/-- A limit as normalization leaves it: no name comes twice, and no quantity is beyond the
bound. -/
structure Normal (limit : Limit) : Prop where
  nodup : limit.names.Nodup
  bounded : ∀ entry ∈ limit, |entry.2| ≤ Quantity.greatest

theorem normal_nil : Normal [] := ⟨List.nodup_nil, fun _ h => absurd h List.not_mem_nil⟩

/-- What stands under a name of a normal limit is the quantity of its one entry. -/
theorem Normal.lookup_eq_some {limit : Limit} (h : Normal limit) {name : Text} {quantity : Rat} :
    limit.lookup name = some quantity ↔ (name, quantity) ∈ limit :=
  Entries.lookup_eq_some h.nodup

/-! ## Normalization -/

/-- What one entry does: an unset one changes nothing, and any other adds an entry under its
canonical name, which must be new. -/
theorem declare_cases {limit next : Limit} {entry : Text × Json}
    (h : declare limit entry = .ok next) :
    (isUnset entry.2 = true ∧ next = limit) ∨
    (isUnset entry.2 = false ∧ canonicalName entry.1 ∉ limit.names ∧
      ∃ quantity, Quantity.parse entry.2 = .ok quantity ∧
        next = limit ++ [(canonicalName entry.1, quantity)]) := by
  -- An unset entry leaves the limit as it is; a set one must be new and must parse.
  by_cases hunset : isUnset entry.2 = true
  · rw [declare, if_pos hunset] at h
    exact .inl ⟨hunset, (Except.ok.inj h).symm⟩
  · right
    rw [declare, if_neg hunset] at h
    cases hlookup : limit.lookup (canonicalName entry.1) with
    | some quantity =>
      simp [hlookup] at h
    | none =>
      cases hparse : Quantity.parse entry.2 with
      | error cause => simp [hlookup, hparse] at h
      | ok quantity =>
        simp only [hlookup, hparse, Option.isSome_none, Bool.false_eq_true, if_false,
          Except.ok.injEq] at h
        exact ⟨by simpa using hunset, lookup_eq_none.mp hlookup, quantity, rfl, h.symm⟩

theorem Normal.declare {limit next : Limit} {entry : Text × Json} (hlimit : Normal limit)
    (h : declare limit entry = .ok next) : Normal next := by
  rcases declare_cases h with ⟨-, rfl⟩ | ⟨-, hnew, quantity, hparse, rfl⟩
  · exact hlimit
  · constructor
    · -- The canonical name is new, whatever it was written as.
      rw [names, List.map_append, List.nodup_append]
      refine ⟨hlimit.nodup, List.nodup_singleton _, ?_⟩
      rintro name hname other hother rfl
      rw [List.map_singleton, List.mem_singleton] at hother
      rw [hother] at hname
      exact hnew hname
    · intro e he
      rcases List.mem_append.mp he with he | he
      · exact hlimit.bounded e he
      · rw [List.mem_singleton.mp he]
        exact Quantity.abs_le_of_parse hparse

/-- A normalized limit is normal. -/
theorem normal_of_normalize {raw : RawLimit} {limit : Limit} (h : normalize raw = .ok limit) :
    Normal limit :=
  Except.foldlM_invariant (fun _ _ _ _ => Normal.declare) normal_nil h

end Limit

/-- The limit that a stored one normalizes to is normal. -/
theorem StoredLimit.normal_of_normalize {stored : StoredLimit} {limit : Limit}
    (h : stored.normalize = .ok limit) : Limit.Normal limit :=
  Limit.normal_of_normalize h

end AdmissionControl
