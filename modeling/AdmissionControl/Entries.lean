/-
  Named entries.

  Entries keep the order in which their names first came.  Putting an entry whose name is there
  already gives it a new value in its place.
-/

import AdmissionControl.Text.Basic

namespace AdmissionControl

/-- Values under names, in order. -/
abbrev Entries (α : Type) := List (Text × α)

namespace Entries

/-- Entries with one more, or with a new value in the place of the old one. -/
def put (name : Text) (value : α) : Entries α → Entries α
  | [] => [(name, value)]
  | (key, old) :: rest =>
    if key = name then (key, value) :: rest else (key, old) :: put name value rest

/-- Entries without those of a name. -/
def remove (name : Text) (entries : Entries α) : Entries α := entries.filter (·.1 != name)

/-- The entries of a list in which names may come again: the first gives the place and the last
the value. -/
def ofList (written : List (Text × α)) : Entries α :=
  written.foldl (fun entries entry => put entry.1 entry.2 entries) []

/-- What stands under a name is the value of its first entry. -/
theorem lookup_cons (key name : Text) (value : α) (rest : Entries α) :
    ((name, value) :: rest : Entries α).lookup key =
      if key = name then some value else rest.lookup key := by
  by_cases h : key = name
  · subst h
    simp
  · simp [List.lookup_cons, beq_eq_false_iff_ne.mpr h, h]

theorem lookup_put (name : Text) (value : α) (entries : Entries α) (key : Text) :
    (put name value entries).lookup key =
      if key = name then some value else entries.lookup key := by
  induction entries with
  | nil => simp only [put, lookup_cons]
  | cons entry rest ih =>
    obtain ⟨k, v⟩ := entry
    by_cases hk : k = name
    · subst hk
      simp only [put, lookup_cons, if_true]
      split <;> rfl
    · simp only [put, lookup_cons, hk, if_false, ih]
      by_cases h : key = k
      · subst h
        simp [hk]
      · simp [h]

theorem lookup_remove (name : Text) (entries : Entries α) (key : Text) :
    (remove name entries).lookup key = if key = name then none else entries.lookup key := by
  induction entries with
  | nil => simp [remove]
  | cons entry rest ih =>
    obtain ⟨k, v⟩ := entry
    simp only [remove] at ih ⊢
    by_cases hk : k = name
    · subst hk
      simp only [List.filter_cons, bne_self_eq_false, Bool.false_eq_true, if_false, ih, lookup_cons]
      split <;> rfl
    · simp only [List.filter_cons, bne_iff_ne, ne_eq, hk, not_false_eq_true, if_true, lookup_cons,
        ih]
      by_cases h : key = k
      · subst h
        simp [hk]
      · simp [h]

/-- Of entries with different names, each stands under its name. -/
theorem lookup_eq_some {entries : Entries α} (hnames : (entries.map Prod.fst).Nodup) {name : Text}
    {value : α} : entries.lookup name = some value ↔ (name, value) ∈ entries := by
  induction entries with
  | nil => simp
  | cons entry rest ih =>
    obtain ⟨key, first⟩ := entry
    rw [List.map_cons, List.nodup_cons] at hnames
    obtain ⟨hnew, hrest⟩ := hnames
    rw [lookup_cons, List.mem_cons]
    by_cases hkey : name = key
    · subst hkey
      rw [if_pos rfl]
      constructor
      · intro hvalue
        exact .inl (by rw [Option.some.inj hvalue])
      · rintro (hhere | hmem)
        · rw [(Prod.mk.inj hhere).2]
        · -- The name would come again in the rest.
          exact absurd (List.mem_map_of_mem hmem) hnew
    · rw [if_neg hkey]
      refine (ih hrest).trans ⟨.inr, ?_⟩
      rintro (hhere | hmem)
      · exact absurd (Prod.mk.inj hhere).1 hkey
      · exact hmem

/-! ## Entries put one by one -/

variable {name : Text} {value : α} {entries : Entries α}

theorem mem_names_put {key : Text} :
    key ∈ (put name value entries).map Prod.fst ↔ key = name ∨ key ∈ entries.map Prod.fst := by
  induction entries with
  | nil => simp [put]
  | cons entry rest ih =>
    by_cases hsame : entry.1 = name
    · simp [put, hsame]
    · rw [put, if_neg hsame, List.map_cons, List.map_cons, List.mem_cons, List.mem_cons, ih]
      exact or_left_comm

theorem nodup_names_put (h : (entries.map Prod.fst).Nodup) :
    ((put name value entries).map Prod.fst).Nodup := by
  induction entries with
  | nil => simp [put]
  | cons entry rest ih =>
    rw [List.map_cons, List.nodup_cons] at h
    by_cases hsame : entry.1 = name
    · simpa [put, hsame] using h
    · rw [put, if_neg hsame, List.map_cons, List.nodup_cons, mem_names_put]
      exact ⟨fun hmem => hmem.elim hsame h.1, ih h.2⟩

theorem nodup_names_ofList (written : List (Text × α)) :
    ((ofList written).map Prod.fst).Nodup :=
  List.foldlRecOn (motive := fun entries : Entries α => (entries.map Prod.fst).Nodup) written _
    List.nodup_nil fun _ h _ _ => nodup_names_put h

theorem forall_mem_put {P : α → Prop} (hvalue : P value) (h : ∀ entry ∈ entries, P entry.2) :
    ∀ entry ∈ put name value entries, P entry.2 := by
  induction entries with
  | nil => simpa [put] using hvalue
  | cons entry rest ih =>
    rw [List.forall_mem_cons] at h
    by_cases hsame : entry.1 = name
    · simpa [put, hsame, hvalue] using h.2
    · simp only [put, hsame, if_false, List.forall_mem_cons]
      exact ⟨h.1, ih h.2⟩

/-- No value comes in that was not written. -/
theorem forall_mem_ofList {P : α → Prop} {written : List (Text × α)}
    (h : ∀ entry ∈ written, P entry.2) : ∀ entry ∈ ofList written, P entry.2 :=
  List.foldlRecOn (motive := fun entries : Entries α => ∀ entry ∈ entries, P entry.2) written _
    (List.forall_mem_nil _) fun _ hentries entry hentry => forall_mem_put (h entry hentry) hentries

end Entries

end AdmissionControl
