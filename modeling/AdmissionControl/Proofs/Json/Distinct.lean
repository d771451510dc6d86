/-
  AdmissionControl.Proofs.Json.Distinct

  Objects in which no name comes twice.

  An object is a map: where a name comes again in a text, the reader puts the later value in the
  place of the earlier.  So in everything that it reads the members of each object have different
  names (`Json.distinct_of_ofText`).
-/

import AdmissionControl.Proofs.Json.Reading

namespace AdmissionControl

namespace Json

/-! ## Values -/

/-- Wherever there is an object in the value, its members have different names. -/
inductive Distinct : Json → Prop where
  | null : Distinct .null
  | bool (b : Bool) : Distinct (.bool b)
  | int (n : Int) : Distinct (.int n)
  | float (x : Binary64) : Distinct (.float x)
  | str (s : Text) : Distinct (.str s)
  | arr {items : List Json} : (∀ item ∈ items, Distinct item) → Distinct (.arr items)
  | obj {members : List (Text × Json)} : (members.map Prod.fst).Nodup →
      (∀ member ∈ members, Distinct member.2) → Distinct (.obj members)

variable {j : Json} {members : List (Text × Json)} {name : Text}

theorem Distinct.nodup_names (h : (Json.obj members).Distinct) :
    (members.map Prod.fst).Nodup := by
  cases h with
  | obj hnames _ => exact hnames

theorem Distinct.member (h : (Json.obj members).Distinct) (hmember : (name, j) ∈ members) :
    j.Distinct := by
  cases h with
  | obj _ hmembers => exact hmembers _ hmember

theorem Distinct.item {items : List Json} (h : (Json.arr items).Distinct) (hitem : j ∈ items) :
    j.Distinct := by
  cases h with
  | arr hitems => exact hitems j hitem

theorem inherited_distinct : Inherited Distinct where
  text := .str
  word h := by
    cases h with
    | null => exact .null
    | bool b => exact .bool b
    | int _ => exact .int _
    | float x => exact .float x
  array := .arr
  object h := .obj (Entries.nodup_names_ofList _) (Entries.forall_mem_ofList h)

/-- In what is read from a text the members of each object have different names. -/
theorem distinct_of_ofText {depth : Nat} {t : Text} (h : ofText depth t = .ok j) : j.Distinct :=
  inherited_distinct.of_ofText h

end Json

end AdmissionControl
