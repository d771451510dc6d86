/-
  AdmissionControl.Proofs.Json.Leaves

  Tests of all texts and numbers in a value.

  A container passes a test if its parts do (`allLeaves_arr`, `allLeaves_obj`).  Of the tests at
  hand, `isEncodable` looks at texts only, and `isWritable` at integers only: an integer has a text
  if it is below the power of ten with so many zeros (`isWritable_int`).
-/

import AdmissionControl.Json.Basic
import Mathlib.Algebra.Group.Nat.Defs

namespace AdmissionControl.Json

variable {test : LeafTest} {items : List Json} {members : List (Text × Json)} {name : Text}
  {j : Json}

theorem allLeaves_arr : (arr items).allLeaves test = true ↔
    ∀ item ∈ items, item.allLeaves test = true := by
  rw [allLeaves]
  induction items with
  | nil => simp [allItems]
  | cons item rest ih => rw [allItems, Bool.and_eq_true, List.forall_mem_cons, ih]

theorem allLeaves_obj : (obj members).allLeaves test = true ↔
    ∀ member ∈ members, test.onText member.1 = true ∧ member.2.allLeaves test = true := by
  rw [allLeaves]
  induction members with
  | nil => simp [allMembers]
  | cons member rest ih =>
    rw [allMembers, Bool.and_eq_true, Bool.and_eq_true, List.forall_mem_cons, ih]

theorem allLeaves_of_lookup (hmembers : (obj members).allLeaves test = true)
    (hlookup : members.lookup name = some j) : j.allLeaves test = true := by
  obtain ⟨before, after, rfl, -⟩ := List.lookup_eq_some_iff.mp hlookup
  exact (allLeaves_obj.mp hmembers (name, j) (by simp)).2

theorem isWritable_int {n : Int} :
    (int n).isWritable = true ↔ n.natAbs < 10 ^ greatestDigitCount := by
  rw [isWritable, allLeaves, shortIntegers, decide_eq_true_eq,
    Nat.length_toDigits_le_iff (by decide) (by decide)]

end AdmissionControl.Json
