/-
  AdmissionControl.Proofs.Limit.Alike

  Limits with the same meaning.

  What a limit means is a map: which quantity stands under which name (`SameMap`).  The order of its
  entries is no part of that (`sameMap_of_perm`).  Two normal limits that are the same map declare
  the same resources, exceed the same bounds, and are listed in the same way (`Alike`).
-/

import AdmissionControl.Proofs.Limit.Exceeding

namespace AdmissionControl

namespace Limit

/-- Two limits are the same map: under every name stands the same quantity in both, or in neither
one. -/
def SameMap (first second : Limit) : Prop := ∀ name, first.lookup name = second.lookup name

/-- Two normal limits that are the same map. -/
structure Alike (first second : Limit) : Prop where
  normal : Normal first
  normal' : Normal second
  same : SameMap first second

variable {first second : Limit}

theorem Alike.mem_iff (h : Alike first second) (name : Text) (quantity : Rat) :
    (name, quantity) ∈ first ↔ (name, quantity) ∈ second := by
  rw [← h.normal.lookup_eq_some, ← h.normal'.lookup_eq_some, h.same name]

theorem Alike.sameNames (h : Alike first second) : SameNames first second := by
  intro name
  rw [← not_iff_not, ← lookup_eq_none, ← lookup_eq_none, h.same name]

theorem Alike.length_eq (h : Alike first second) : first.length = second.length :=
  ((sameNames_iff h.normal h.normal').mp h.sameNames).1

/-- Normal limits with the same entries are the same map. -/
theorem sameMap_of_mem_iff (hfirst : Normal first) (hsecond : Normal second)
    (h : ∀ name quantity, (name, quantity) ∈ first ↔ (name, quantity) ∈ second) :
    SameMap first second := by
  intro name
  refine Option.ext fun quantity => ?_
  rw [hfirst.lookup_eq_some, hsecond.lookup_eq_some, h]

/-- The order of its entries is no part of what a limit means. -/
theorem sameMap_of_perm (h : first.Perm second) (hfirst : Normal first) : SameMap first second := by
  have hsecond : Normal second :=
    ⟨(h.map Prod.fst).nodup_iff.mp hfirst.nodup,
      fun entry hentry => hfirst.bounded entry (h.mem_iff.mpr hentry)⟩
  exact sameMap_of_mem_iff hfirst hsecond fun _ _ => h.mem_iff

variable {outer outer' inner inner' : Limit}

theorem Alike.sameNames_iff (houter : Alike outer outer') (hinner : Alike inner inner') :
    SameNames outer inner ↔ SameNames outer' inner' :=
  forall_congr' fun name => by rw [houter.sameNames name, hinner.sameNames name]

theorem Alike.exceeds_iff (houter : Alike outer outer') (hinner : Alike inner inner') (name : Text)
    (quantity : Rat) : Exceeds outer inner name quantity ↔ Exceeds outer' inner' name quantity := by
  have habove : (∃ bound, (name, bound) ∈ outer ∧ bound < quantity) ↔
      ∃ bound, (name, bound) ∈ outer' ∧ bound < quantity :=
    exists_congr fun bound => and_congr_left fun _ => houter.mem_iff name bound
  constructor
  · rintro ⟨hdeclared, hbound⟩
    exact ⟨(hinner.mem_iff name quantity).mp hdeclared, habove.mp hbound⟩
  · rintro ⟨hdeclared, hbound⟩
    exact ⟨(hinner.mem_iff name quantity).mpr hdeclared, habove.mpr hbound⟩

theorem Alike.exists_exceeds_iff (houter : Alike outer outer') (hinner : Alike inner inner') :
    (∃ name quantity, Exceeds outer inner name quantity) ↔
      ∃ name quantity, Exceeds outer' inner' name quantity :=
  exists_congr fun name => exists_congr fun quantity => houter.exceeds_iff hinner name quantity

/-- What is listed is in the order of names, whatever the order of the entries. -/
theorem ListsExceeded.of_alike {text : Text} (h : ListsExceeded outer inner text)
    (houter : Alike outer outer') (hinner : Alike inner inner') :
    ListsExceeded outer' inner' text := by
  obtain ⟨listed, hascending, hexact, hparts⟩ := h
  refine ⟨listed, hascending, fun name quantity => ?_, hparts⟩
  rw [hexact name quantity, houter.exceeds_iff hinner]

end Limit

end AdmissionControl
