/-
  AdmissionControl.Proofs.Limit.RoundTrip

  Writing a quantity and reading it again.

  A whole quantity is written as an integer and one in thousandths as an integer with the unit m.
  Both are printed integers with a suffix, so what they denote is known without running the reader
  (`parse_format?`).

  A normalized limit has canonical names, each once.  Its entries with their quantities written
  therefore declare the same entries again, in the same order (`declaredAs_of_reads`).
-/

import AdmissionControl.Proofs.Limit.Declared
import AdmissionControl.Proofs.Quantity.Printed
import Mathlib.Tactic.NormNum

namespace AdmissionControl

namespace Quantity

/-! ## Quantities in thousandths -/

theorem format?_of_thousandths {q : Rat} (h : (q * 1000).den = 1) :
    ∃ (n : Int) (suffix : Suffix), suffix.WellFormed ∧ suffix.InBounds ∧ n * suffix.factor = q ∧
      format? q = some (toString n ++ String.ofList suffix.chars) := by
  -- Whole numbers are written as they are, others in thousandths.
  by_cases hwhole : q.den = 1
  · refine ⟨q.num, .none, trivial, trivial, ?_, ?_⟩
    · rw [Suffix.factor, mul_one]
      exact Rat.coe_int_num_of_den_eq_one hwhole
    · rw [format?, if_pos hwhole]
      simp [Suffix.chars]
  · refine ⟨(q * 1000).num, .decimal .milli, trivial, trivial, ?_, ?_⟩
    · rw [Suffix.factor, DecimalUnit.power, Rat.coe_int_num_of_den_eq_one h]
      norm_num
      ring
    · rw [format?, if_neg hwhole]
      simp only [h, if_true]
      rfl

/-- A quantity in thousandths is read back from the text that is written of it. -/
theorem parse_format? {q : Rat} (h : (q * 1000).den = 1) (hbound : |q| ≤ 2 ^ 63 - 1) :
    ∃ text, format? q = some text ∧ parse (.str text) = .ok q := by
  obtain ⟨n, suffix, hwellFormed, hbounds, hvalue, htext⟩ := format?_of_thousandths h
  refine ⟨_, htext, ?_⟩
  rw [parse_of_splits (Literal.splits_printed n hwellFormed) hbounds, Literal.denotation_printed,
    hvalue, if_pos hbound]

theorem format?_inj {q r : Rat} (hq : (q * 1000).den = 1) (hr : (r * 1000).den = 1)
    (hqbound : |q| ≤ 2 ^ 63 - 1) (hrbound : |r| ≤ 2 ^ 63 - 1) (h : format? q = format? r) :
    q = r := by
  obtain ⟨text, htext, hread⟩ := parse_format? hq hqbound
  obtain ⟨other, hother, hreadother⟩ := parse_format? hr hrbound
  have hsame : text = other := by
    rw [htext, hother] at h
    exact Option.some.inj h
  rw [hsame, hreadother] at hread
  exact (Except.ok.inj hread).symm

end Quantity

namespace Limit

/-! ## Canonical names -/

/-- A name that a field stands for is the canonical name of itself. -/
theorem canonicalName_of_mem_aliases : ∀ entry ∈ aliases, canonicalName entry.2 = entry.2 := by
  decide

theorem canonicalName_canonicalName (key : Text) :
    canonicalName (canonicalName key) = canonicalName key := by
  cases hlookup : aliases.lookup key with
  | none =>
    have hkey : canonicalName key = key := by rw [canonicalName, hlookup, Option.getD_none]
    rw [hkey, hkey]
  | some name =>
    have hname : canonicalName key = name := by rw [canonicalName, hlookup, Option.getD_some]
    obtain ⟨before, after, haliases, -⟩ := List.lookup_eq_some_iff.mp hlookup
    have hmem : (key, name) ∈ aliases := by
      rw [haliases]
      exact List.mem_append_right before List.mem_cons_self
    rw [hname, canonicalName_of_mem_aliases _ hmem]

/-- Every name is the canonical one. -/
def Canonical (limit : Limit) : Prop := ∀ entry ∈ limit, canonicalName entry.1 = entry.1

theorem canonical_of_declaredAs {entries : RawLimit} {limit : Limit}
    (h : List.Forall₂ DeclaredAs entries limit) : Canonical limit := by
  intro added hadded
  obtain ⟨entry, -, hentry⟩ := (mem_of_declaredAs h added).mp hadded
  rw [← hentry.name, canonicalName_canonicalName]

/-! ## Written limits -/

/-- The entries of a limit with their quantities as text; none when one cannot be written. -/
def written? (limit : Limit) : Option RawLimit :=
  limit.mapM fun entry => (Quantity.format? entry.2).map fun text => (entry.1, .str text)

/-- An entry that is written as it is read: under the same name, with a value that denotes the
quantity. -/
def Reads (written : Text × Json) (entry : Text × Rat) : Prop :=
  written.1 = entry.1 ∧ Quantity.parse written.2 = .ok entry.2

/-- What is read under canonical names is declared under them. -/
theorem declaredAs_of_reads {limit : Limit} {written : RawLimit}
    (h : List.Forall₂ Reads written limit) (hcanonical : Canonical limit) :
    List.Forall₂ DeclaredAs written limit := by
  induction h with
  | nil => exact .nil
  | cons hread _ ih =>
    obtain ⟨hname, hparse⟩ := hread
    obtain ⟨hown, hrest⟩ := List.forall_mem_cons.mp hcanonical
    exact .cons ⟨by rw [hname, hown], hparse⟩ (ih hrest)

theorem written?_of_thousandths {limit : Limit}
    (h : ∀ entry ∈ limit, (entry.2 * 1000).den = 1 ∧ |entry.2| ≤ 2 ^ 63 - 1) :
    ∃ written, limit.written? = some written ∧ List.Forall₂ Reads written limit := by
  induction limit with
  | nil => exact ⟨[], rfl, .nil⟩
  | cons entry rest ih =>
    obtain ⟨hthousandths, hbound⟩ := h entry List.mem_cons_self
    obtain ⟨text, htext, hread⟩ := Quantity.parse_format? hthousandths hbound
    obtain ⟨written, hwritten, hreads⟩ := ih fun e he => h e (List.mem_cons_of_mem _ he)
    refine ⟨(entry.1, .str text) :: written, ?_, .cons ⟨rfl, hread⟩ hreads⟩
    rw [written?] at hwritten ⊢
    rw [List.mapM_cons, hwritten, htext]
    rfl

theorem normalize_written {raw : RawLimit} {limit : Limit} (h : normalize raw = .ok limit)
    (hthousandths : ∀ entry ∈ limit, (entry.2 * 1000).den = 1) :
    ∃ written, limit.written? = some written ∧ normalize written = .ok limit := by
  have hnormal := normal_of_normalize h
  have hcanonical : Canonical limit := canonical_of_declaredAs (normalize_eq_ok_iff.mp h).1
  have hbound : ∀ entry ∈ limit, |entry.2| ≤ 2 ^ 63 - 1 := by
    intro entry hentry
    refine (hnormal.bounded entry hentry).trans (le_of_eq ?_)
    rw [Quantity.greatest]
    norm_num
  obtain ⟨written, hwritten, hreads⟩ :=
    written?_of_thousandths fun entry hentry => ⟨hthousandths entry hentry, hbound entry hentry⟩
  refine ⟨written, hwritten, ?_⟩
  exact normalize_of_declaredAs (declaredAs_of_reads hreads hcanonical) hnormal.nodup

/-- A limit in thousandths, written out, normalizes to itself; quantities in thousandths within the
bound are read as they were written, no two of them are written alike, and a canonical name is its
own. -/
theorem writing_normalized_limit_reads_back :
    (∀ (raw : RawLimit) (limit : Limit), normalize raw = .ok limit →
      (∀ entry ∈ limit, (entry.2 * 1000).den = 1) →
      ∃ written, limit.written? = some written ∧ normalize written = .ok limit) ∧
    (∀ q : Rat, (q * 1000).den = 1 → |q| ≤ 2 ^ 63 - 1 →
      ∃ text, Quantity.format? q = some text ∧ Quantity.parse (.str text) = .ok q) ∧
    (∀ q r : Rat, (q * 1000).den = 1 → |q| ≤ 2 ^ 63 - 1 → (r * 1000).den = 1 → |r| ≤ 2 ^ 63 - 1 →
      Quantity.format? q = Quantity.format? r → q = r) ∧
    (∀ key : Text, canonicalName (canonicalName key) = canonicalName key) :=
  ⟨fun _ _ h hthousandths => normalize_written h hthousandths,
    fun _ h hbound => Quantity.parse_format? h hbound,
    fun _ _ hq hqbound hr hrbound h => Quantity.format?_inj hq hr hqbound hrbound h,
    canonicalName_canonicalName⟩

/-- Half a core more than one under a field's name, an entry that declares nothing, and two
gibibytes under a canonical name. -/
def coresAndMemory : RawLimit :=
  [("requestsCpu", .str "1.5"), ("pods", .null), ("limits.memory", .str "2Gi")]

theorem coresAndMemory_reads_back :
    let limit : Limit := [("requests.cpu", mkRat 3 2), ("limits.memory", 2147483648)]
    normalize coresAndMemory = .ok limit ∧
      (∃ written, limit.written? = some written ∧ normalize written = .ok limit) ∧
      (∃ text, Quantity.format? (mkRat 3 2) = some text ∧
        Quantity.parse (.str text) = .ok (mkRat 3 2)) ∧
      Quantity.format? (mkRat 3 2) ≠ Quantity.format? (mkRat (-3) 2) := by
  intro limit
  have hlimit : normalize coresAndMemory = .ok limit :=
    Except.eq_ok_of_toOption (by decide +kernel)
  -- Both quantities are within 64 bits.
  have hbound : |(mkRat 3 2 : Rat)| ≤ 2 ^ 63 - 1 ∧ |(mkRat (-3) 2 : Rat)| ≤ 2 ^ 63 - 1 := by
    rw [Rat.mkRat_eq_div, Rat.mkRat_eq_div]
    norm_num
  obtain ⟨hlimits, hquantities, hinjective, -⟩ := writing_normalized_limit_reads_back
  refine ⟨hlimit, hlimits _ _ hlimit ?_, hquantities _ (by decide +kernel) hbound.1, ?_⟩
  · decide +kernel
  · intro hsame
    have hequal := hinjective _ _ (by decide +kernel) hbound.1 (by decide +kernel) hbound.2 hsame
    exact absurd hequal (by decide +kernel)

end Limit

end AdmissionControl
