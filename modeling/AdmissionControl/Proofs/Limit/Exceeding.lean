/-
  AdmissionControl.Proofs.Limit.Exceeding

  The comparison of two limits and what is said about it.

  `Exceeds` says when one limit is above another on a resource, and `exceeding` holds exactly these
  entries (`mem_exceeding`).  `Lists` says of a text that it names the entries of a limit, each
  once, in the order of code points, with its quantity.  There is one such text, and `describe?`
  gives it (`Normal.describe?_iff`, `Normal.exists_describe?`).  `ListsExceeded` says the same of
  the entries above their bounds.

  The pigeonhole argument behind the comparison of two sets of names is `sameNames_iff`.
-/

import AdmissionControl.Proofs.Limit.Normalize
import AdmissionControl.Proofs.Number.Rounding
import AdmissionControl.Rules.Project
import Mathlib.Data.List.Perm.Subperm

namespace AdmissionControl

/-! ## Written quantities -/

/-- A quantity within the bound can be written. -/
theorem Quantity.exists_format? {q : Rat} (h : |q| ≤ greatest) : ∃ text, format? q = some text := by
  -- Within 64 bits the nearest float is finite, so even a fraction has a text.
  have hfinite : (Binary64.ofRat q).isFinite = true := by
    apply Binary64.isFinite_ofRat
    calc |q| ≤ greatest := h
      _ < 2 ^ (63 : Int) := by rw [greatest]; norm_num
      _ ≤ 2 ^ (1023 : Int) := zpow_le_zpow_right₀ one_le_two (by decide)
  unfold format?
  simp only []
  split
  · exact ⟨_, rfl⟩
  · split
    · exact ⟨_, rfl⟩
    · cases hround : Binary64.ofRat q with
      | infinity negative => rw [hround] at hfinite; cases hfinite
      | nan => rw [hround] at hfinite; cases hfinite
      | finite negative significand exponent canonical => exact ⟨_, rfl⟩

namespace Limit

variable {outer inner : Limit}

/-! ## Entries above their bounds -/

/-- A limit declares a quantity for a resource, and another one a lower bound for it. -/
structure Exceeds (outer inner : Limit) (name : Text) (quantity : Rat) : Prop where
  declared : (name, quantity) ∈ inner
  above : ∃ bound, (name, bound) ∈ outer ∧ bound < quantity

theorem mem_exceeding (houter : Normal outer) {name : Text} {quantity : Rat} :
    (name, quantity) ∈ exceeding outer inner ↔ Exceeds outer inner name quantity := by
  rw [exceeding, List.mem_filter]
  constructor
  · rintro ⟨hmem, habove⟩
    split at habove
    next bound hbound =>
      exact ⟨hmem, bound, houter.lookup_eq_some.mp hbound, of_decide_eq_true habove⟩
    next => cases habove
  · rintro ⟨hmem, bound, hbound, habove⟩
    refine ⟨hmem, ?_⟩
    rw [houter.lookup_eq_some.mpr hbound]
    exact decide_eq_true habove

/-- Nothing exceeds exactly when there is no entry above its bound. -/
theorem exceeding_isEmpty (houter : Normal outer) :
    (exceeding outer inner).isEmpty = true ↔
      ¬ ∃ name quantity, Exceeds outer inner name quantity := by
  rw [List.isEmpty_iff, List.eq_nil_iff_forall_not_mem]
  constructor
  · rintro h ⟨name, quantity, hexceeds⟩
    exact h _ ((mem_exceeding houter).mpr hexceeds)
  · intro h entry hentry
    exact h ⟨entry.1, entry.2, (mem_exceeding houter).mp hentry⟩

theorem Normal.exceeding (outer : Limit) (hinner : Normal inner) :
    Normal (exceeding outer inner) := by
  constructor
  · exact hinner.nodup.sublist (List.filter_sublist.map Prod.fst)
  · exact fun entry hentry => hinner.bounded entry (List.mem_of_mem_filter hentry)

/-! ## Listings -/

/-- The names of the entries ascend strictly in the order of code points. -/
def Ascending (limit : Limit) : Prop := limit.Pairwise fun a b => a.1 ≤ b.1 ∧ a.1 ≠ b.1

/-- An entry as it is listed. -/
def entryText? (entry : Text × Rat) : Option Text :=
  (Quantity.format? entry.2).map fun quantity => entry.1 ++ "=" ++ quantity

/-- A text lists the entries of a limit: each once, in the order of code points, with its quantity.
-/
def Lists (limit : Limit) (text : Text) : Prop :=
  ∃ listed : Limit, Ascending listed ∧ (∀ entry, entry ∈ listed ↔ entry ∈ limit) ∧
    ∃ parts, listed.mapM entryText? = some parts ∧ text = Text.intercalate ", " parts

/-- A text lists exactly the entries of `inner` above the bounds of `outer`: each once, in the order
of code points, with its quantity. -/
def ListsExceeded (outer inner : Limit) (text : Text) : Prop :=
  ∃ listed : Limit, Ascending listed ∧
    (∀ name quantity, (name, quantity) ∈ listed ↔ Exceeds outer inner name quantity) ∧
    ∃ parts, listed.mapM entryText? = some parts ∧ text = Text.intercalate ", " parts

theorem mem_sorted {limit : Limit} {entry : Text × Rat} : entry ∈ limit.sorted ↔ entry ∈ limit :=
  List.mem_mergeSort

theorem Normal.sorted_ascending {limit : Limit} (h : Normal limit) : Ascending limit.sorted := by
  have hle : limit.sorted.Pairwise fun a b => a.1 ≤ b.1 := by
    have htrans : ∀ a b c : Text × Rat, decide (a.1 ≤ b.1) = true → decide (b.1 ≤ c.1) = true →
        decide (a.1 ≤ c.1) = true := by
      intro a b c hab hbc
      exact decide_eq_true (Text.le_trans (of_decide_eq_true hab) (of_decide_eq_true hbc))
    have htotal : ∀ a b : Text × Rat, (decide (a.1 ≤ b.1) || decide (b.1 ≤ a.1)) = true := by
      intro a b
      simpa using Text.le_total a.1 b.1
    exact (List.pairwise_mergeSort htrans htotal limit).imp of_decide_eq_true
  -- Sorting keeps the names distinct.
  have hne : limit.sorted.Pairwise fun a b => a.1 ≠ b.1 := by
    have hperm : limit.sorted.names.Perm limit.names := (List.mergeSort_perm limit _).map Prod.fst
    exact List.pairwise_map.mp (hperm.nodup_iff.mpr h.nodup)
  exact hle.and hne

/-- Ascending limits with the same entries are the same. -/
theorem Ascending.eq_of_mem_iff {first second : Limit} (hfirst : Ascending first)
    (hsecond : Ascending second) (h : ∀ entry, entry ∈ first ↔ entry ∈ second) :
    first = second := by
  have hnodup : ∀ {limit : Limit}, Ascending limit → limit.Nodup := by
    intro limit hlimit
    exact hlimit.imp fun hab heq => hab.2 (congrArg Prod.fst heq)
  have hperm : first.Perm second :=
    (List.perm_ext_iff_of_nodup (hnodup hfirst) (hnodup hsecond)).mpr h
  refine List.Perm.eq_of_pairwise ?_ hfirst hsecond hperm
  intro a b _ _ hab hba
  exact absurd (Text.le_antisymm hab.1 hba.1) hab.2

theorem describe?_eq (limit : Limit) :
    limit.describe? = (limit.sorted.mapM entryText?).map (Text.intercalate ", ") := by
  rw [describe?]
  show (limit.sorted.mapM entryText? >>= fun entries => some _) = _
  cases limit.sorted.mapM entryText? <;> rfl

/-- What is said about the entries of a limit is the one text that lists them. -/
theorem Normal.describe?_iff {limit : Limit} (h : Normal limit) {text : Text} :
    limit.describe? = some text ↔ Lists limit text := by
  rw [describe?_eq]
  constructor
  · intro hdescribed
    obtain ⟨parts, hparts, htext⟩ := Option.map_eq_some_iff.mp hdescribed
    exact ⟨_, h.sorted_ascending, fun _ => mem_sorted, parts, hparts, htext.symm⟩
  · rintro ⟨listed, hlisted, hexact, parts, hparts, rfl⟩
    -- The listed entries are those that are sorted, and there is one way to sort them.
    have hsame : limit.sorted = listed :=
      h.sorted_ascending.eq_of_mem_iff hlisted fun entry => mem_sorted.trans (hexact entry).symm
    rw [hsame, hparts]
    rfl

theorem lists_exceeding_iff (houter : Normal outer) {text : Text} :
    Lists (exceeding outer inner) text ↔ ListsExceeded outer inner text := by
  refine exists_congr fun listed => and_congr_right fun _ => and_congr_left fun _ => ?_
  rw [Prod.forall]
  exact forall₂_congr fun name quantity => by rw [mem_exceeding houter]

/-- What is said about the entries above their bounds is the one text that lists them. -/
theorem describe?_exceeding_iff (houter : Normal outer) (hinner : Normal inner) {text : Text} :
    (exceeding outer inner).describe? = some text ↔ ListsExceeded outer inner text :=
  (Normal.exceeding outer hinner).describe?_iff.trans (lists_exceeding_iff houter)

theorem exists_mapM_entryText? {limit : Limit}
    (h : ∀ entry ∈ limit, |entry.2| ≤ Quantity.greatest) :
    ∃ parts, limit.mapM entryText? = some parts := by
  induction limit with
  | nil => exact ⟨[], rfl⟩
  | cons entry rest ih =>
    rw [List.forall_mem_cons] at h
    obtain ⟨quantity, hquantity⟩ := Quantity.exists_format? h.1
    obtain ⟨parts, hparts⟩ := ih h.2
    refine ⟨(entry.1 ++ "=" ++ quantity) :: parts, ?_⟩
    rw [List.mapM_cons, hparts, entryText?, hquantity]
    rfl

/-- The entries of a normal limit can always be listed. -/
theorem Normal.exists_describe? {limit : Limit} (h : Normal limit) :
    ∃ text, limit.describe? = some text := by
  have hbounded : ∀ entry ∈ limit.sorted, |entry.2| ≤ Quantity.greatest :=
    fun entry hentry => h.bounded entry (mem_sorted.mp hentry)
  obtain ⟨parts, hparts⟩ := exists_mapM_entryText? hbounded
  exact ⟨_, by rw [describe?_eq, hparts]; rfl⟩

theorem exists_describe?_exceeding (outer : Limit) (hinner : Normal inner) :
    ∃ text, (exceeding outer inner).describe? = some text :=
  (Normal.exceeding outer hinner).exists_describe?

/-! ## The same resources -/

/-- Two limits declare the same resources. -/
def SameNames (first second : Limit) : Prop := ∀ name, name ∈ first.names ↔ name ∈ second.names

/-- Two normal limits declare the same resources when they declare the same number of them and the
second declares those of the first. -/
theorem sameNames_iff {first second : Limit} (hfirst : Normal first) (hsecond : Normal second) :
    SameNames first second ↔
      first.length = second.length ∧ ∀ name ∈ first.names, name ∈ second.names := by
  have hlength : ∀ limit : Limit, limit.length = limit.names.length := by simp [names]
  constructor
  · intro h
    have hperm := (List.perm_ext_iff_of_nodup hfirst.nodup hsecond.nodup).mpr h
    refine ⟨?_, fun name hname => (h name).mp hname⟩
    rw [hlength, hlength, hperm.length_eq]
  · rintro ⟨hlen, hsubset⟩ name
    -- Distinct names, as many as the second declares, and among these: so they are all of them.
    have hsubperm := List.subperm_of_subset hfirst.nodup hsubset
    have hperm := hsubperm.perm_of_length_le (by rw [← hlength, ← hlength, hlen])
    exact hperm.mem_iff

end Limit

end AdmissionControl
