/-
  AdmissionControl.Proofs.Limit.Fitting

  The comparison of two raw limits as an order.

  What comes out of the comparison of two raw limits speaks of what they declare alone: a resource
  is listed when both declare it and the inner quantity is above the outer one (`DeclaresAbove`,
  `mem_exceedingRaw`).  So one fits into the other when on no shared resource it declares more
  (`fitsIn_iff`).  This is reflexive where a limit normalizes at all.  A resource that one of two
  limits lacks is not compared, so only among limits of the same resources is it an order: it is
  antisymmetric up to spelling and transitive (`comparison_decides_order_on_shared_resources`).
-/

import AdmissionControl.Proofs.Limit.Declared

namespace AdmissionControl

namespace Limit

variable {outer inner raw first second third : RawLimit} {bounds limit exceeded : Limit}
  {name : Text} {quantity : Rat}

/-! ## Declared quantities -/

/-- A raw limit declares a quantity of a resource, and another one a lower bound for it. -/
structure DeclaresAbove (outer inner : RawLimit) (name : Text) (quantity : Rat) : Prop where
  declared : Declares inner name quantity
  above : ∃ bound, Declares outer name bound ∧ bound < quantity

theorem exceeds_iff_declaresAbove (houter : normalize outer = .ok bounds)
    (hinner : normalize inner = .ok limit) :
    Exceeds bounds limit name quantity ↔ DeclaresAbove outer inner name quantity := by
  have hdeclared := mem_iff_declares hinner name quantity
  have habove : (∃ bound, (name, bound) ∈ bounds ∧ bound < quantity) ↔
      ∃ bound, Declares outer name bound ∧ bound < quantity :=
    exists_congr fun bound => and_congr_left fun _ => mem_iff_declares houter name bound
  exact ⟨fun h => ⟨hdeclared.mp h.declared, habove.mp h.above⟩,
    fun h => ⟨hdeclared.mpr h.declared, habove.mpr h.above⟩⟩

/-- A raw limit that normalizes declares at most one quantity of a resource. -/
theorem Declares.unique {quantity' : Rat} (hraw : normalize raw = .ok limit)
    (h : Declares raw name quantity) (h' : Declares raw name quantity') : quantity = quantity' := by
  have hnormal := normal_of_normalize hraw
  rw [← mem_iff_declares hraw, ← hnormal.lookup_eq_some] at h h'
  exact Option.some.inj (h.symm.trans h')

/-- The resources of a raw limit that normalizes are those that it declares a quantity of. -/
theorem mem_resources_iff (h : normalize raw = .ok limit) :
    name ∈ resources raw ↔ ∃ quantity, Declares raw name quantity := by
  have hnames : limit.names = resources raw := names_of_declaredAs (normalize_eq_ok_iff.mp h).1
  rw [← hnames, mem_names]
  exact exists_congr fun quantity => mem_iff_declares h name quantity

/-! ## The comparison -/

theorem exceedingRaw_eq_ok_iff : exceedingRaw outer inner = .ok exceeded ↔
    ∃ bounds limit, normalize outer = .ok bounds ∧ normalize inner = .ok limit ∧
      exceeded = exceeding bounds limit := by
  -- Both limits must normalize, the outer one first.
  rw [exceedingRaw]
  cases normalize outer with
  | error cause => exact iff_of_false nofun nofun
  | ok bounds =>
    cases normalize inner with
    | error cause => exact iff_of_false nofun nofun
    | ok limit =>
      constructor
      · rintro ⟨⟩
        exact ⟨bounds, limit, rfl, rfl, rfl⟩
      · rintro ⟨_, _, ⟨⟩, ⟨⟩, rfl⟩
        rfl

/-- The outer limit is normalized first. -/
theorem exceedingRaw_eq_error_iff {failure : QuantityFailure} :
    exceedingRaw outer inner = .error failure ↔ normalize outer = .error failure ∨
      (∃ bounds, normalize outer = .ok bounds) ∧ normalize inner = .error failure := by
  rw [exceedingRaw]
  cases normalize outer with
  | error cause => exact ⟨.inl, fun h => h.resolve_right (by rintro ⟨⟨_, ⟨⟩⟩, -⟩)⟩
  | ok bounds =>
    cases normalize inner with
    | error cause => exact ⟨fun h => .inr ⟨⟨bounds, rfl⟩, h⟩, fun h => (h.resolve_left nofun).2⟩
    | ok limit => exact iff_of_false nofun (by rintro (⟨⟨⟩⟩ | ⟨-, ⟨⟩⟩))

theorem mem_exceedingRaw (h : exceedingRaw outer inner = .ok exceeded) :
    (name, quantity) ∈ exceeded ↔ DeclaresAbove outer inner name quantity := by
  obtain ⟨bounds, limit, houter, hinner, rfl⟩ := exceedingRaw_eq_ok_iff.mp h
  rw [mem_exceeding (normal_of_normalize houter), exceeds_iff_declaresAbove houter hinner]

theorem normal_of_exceedingRaw (h : exceedingRaw outer inner = .ok exceeded) : Normal exceeded := by
  obtain ⟨bounds, limit, -, hinner, rfl⟩ := exceedingRaw_eq_ok_iff.mp h
  exact Normal.exceeding bounds (normal_of_normalize hinner)

/-- What is above a bound is described by the one text that lists it. -/
theorem exists_lists_of_exceedingRaw (h : exceedingRaw outer inner = .ok exceeded) :
    ∃ text, exceeded.describe? = some text ∧ Lists exceeded text := by
  have hnormal := normal_of_exceedingRaw h
  obtain ⟨text, htext⟩ := hnormal.exists_describe?
  exact ⟨text, htext, hnormal.describe?_iff.mp htext⟩

/-! ## Fitting -/

/-- On the resources that both limits declare, the inner one declares no more than the outer one. -/
def NoMore (outer inner : RawLimit) : Prop :=
  ∀ name bound quantity, Declares outer name bound → Declares inner name quantity →
    quantity ≤ bound

theorem exceedingRaw_isEmpty (h : exceedingRaw outer inner = .ok exceeded) :
    exceeded.isEmpty = true ↔ NoMore outer inner := by
  rw [List.isEmpty_iff, List.eq_nil_iff_forall_not_mem, Prod.forall]
  simp only [mem_exceedingRaw h]
  constructor
  · intro hnone name bound quantity hbound hquantity
    exact not_lt.mp fun habove => hnone name quantity ⟨hquantity, bound, hbound, habove⟩
  · rintro hnoMore name quantity ⟨hquantity, bound, hbound, habove⟩
    exact not_lt.mpr (hnoMore name bound quantity hbound hquantity) habove

/-- The comparison of two raw limits finds nothing in the first above a bound of the second. -/
def FitsIn (inner outer : RawLimit) : Prop :=
  ∃ exceeded, exceedingRaw outer inner = .ok exceeded ∧ exceeded.isEmpty = true

theorem fitsIn_iff : FitsIn inner outer ↔
    (∃ limit, normalize inner = .ok limit) ∧ (∃ bounds, normalize outer = .ok bounds) ∧
      NoMore outer inner := by
  constructor
  · rintro ⟨exceeded, hexceeded, hempty⟩
    have hnoMore := (exceedingRaw_isEmpty hexceeded).mp hempty
    obtain ⟨bounds, limit, houter, hinner, -⟩ := exceedingRaw_eq_ok_iff.mp hexceeded
    exact ⟨⟨limit, hinner⟩, ⟨bounds, houter⟩, hnoMore⟩
  · rintro ⟨⟨limit, hinner⟩, ⟨bounds, houter⟩, hnoMore⟩
    have hexceeded := exceedingRaw_eq_ok_iff.mpr ⟨bounds, limit, houter, hinner, rfl⟩
    exact ⟨_, hexceeded, (exceedingRaw_isEmpty hexceeded).mpr hnoMore⟩

theorem FitsIn.refl (h : normalize raw = .ok limit) : FitsIn raw raw :=
  fitsIn_iff.mpr ⟨⟨limit, h⟩, ⟨limit, h⟩, fun _ _ _ hbound hquantity =>
    (hquantity.unique h hbound).le⟩

/-- Two raw limits declare the same resources, under whatever spelling. -/
def SameResources (first second : RawLimit) : Prop :=
  ∀ name, name ∈ resources first ↔ name ∈ resources second

/-- Of limits of the same resources that fit into each other, one declares what the other does. -/
theorem FitsIn.declares (hsame : SameResources first second) (h : FitsIn first second)
    (h' : FitsIn second first) (hquantity : Declares first name quantity) :
    Declares second name quantity := by
  obtain ⟨⟨limit, hfirst⟩, ⟨bounds, hsecond⟩, hnoMore⟩ := fitsIn_iff.mp h
  obtain ⟨-, -, hnoMore'⟩ := fitsIn_iff.mp h'
  -- The second limit declares the resource as well, and neither quantity is the greater one.
  obtain ⟨bound, hbound⟩ := (mem_resources_iff hsecond).mp
    ((hsame name).mp ((mem_resources_iff hfirst).mpr ⟨quantity, hquantity⟩))
  have hequal : quantity = bound := le_antisymm (hnoMore name bound quantity hbound hquantity)
    (hnoMore' name quantity bound hquantity hbound)
  rw [hequal]
  exact hbound

theorem FitsIn.antisymm (hsame : SameResources first second) (h : FitsIn first second)
    (h' : FitsIn second first) : ∃ limit limit', normalize first = .ok limit ∧
      normalize second = .ok limit' ∧ SameMap limit limit' := by
  obtain ⟨⟨limit, hfirst⟩, ⟨limit', hsecond⟩, -⟩ := fitsIn_iff.mp h
  refine ⟨limit, limit', hfirst, hsecond,
    sameMap_of_mem_iff (normal_of_normalize hfirst) (normal_of_normalize hsecond) ?_⟩
  intro name quantity
  rw [mem_iff_declares hfirst, mem_iff_declares hsecond]
  exact ⟨h.declares hsame h', h'.declares (fun name => (hsame name).symm) h⟩

/-- Fitting goes through a limit that declares the resources of the first. -/
theorem FitsIn.trans (hsame : SameResources first second) (h : FitsIn first second)
    (h' : FitsIn second third) : FitsIn first third := by
  obtain ⟨⟨limit, hfirst⟩, ⟨middle, hsecond⟩, hnoMore⟩ := fitsIn_iff.mp h
  obtain ⟨-, hthird, hnoMore'⟩ := fitsIn_iff.mp h'
  refine fitsIn_iff.mpr ⟨⟨limit, hfirst⟩, hthird, ?_⟩
  intro name bound quantity hbound hquantity
  -- Without the resource in the middle, the first would have no bound on the way.
  obtain ⟨between, hbetween⟩ := (mem_resources_iff hsecond).mp
    ((hsame name).mp ((mem_resources_iff hfirst).mpr ⟨quantity, hquantity⟩))
  calc quantity ≤ between := hnoMore name between quantity hbetween hquantity
    _ ≤ bound := hnoMore' name bound between hbound hbetween

/-- Where every integer of two raw limits has a text, their comparison is refused if it fails. -/
theorem exists_refused_of_exceedingRaw {failure : QuantityFailure}
    (houter : ∀ entry ∈ outer, entry.2.isWritable = true)
    (hinner : ∀ entry ∈ inner, entry.2.isWritable = true)
    (h : exceedingRaw outer inner = .error failure) : ∃ cause, failure = .refused cause := by
  cases failure with
  | refused cause => exact ⟨cause, rfl⟩
  | unshown =>
    rcases exceedingRaw_eq_error_iff.mp h with hfails | ⟨-, hfails⟩
    · exact absurd hfails (normalize_ne_unshown houter)
    · exact absurd hfails (normalize_ne_unshown hinner)

/-- The comparison of two raw limits fails exactly as the outer one does to normalize, or else the
inner one; so it is refused where this is refused, which it is if all its integers have at most
4300 digits.  Otherwise it holds the resources that both declare, under any spelling, and the inner
one with the greater quantity, each once and with this quantity; it is empty when there is none,
and it is described by the text that lists it in the order of code points.  So every limit that
normalizes fits into itself.  Of limits that declare the same resources, two that fit into each
other are the same map, and fitting is transitive. -/
theorem comparison_decides_order_on_shared_resources (inner outer : RawLimit) :
    (∀ failure, exceedingRaw outer inner = .error failure ↔ normalize outer = .error failure ∨
      (∃ bounds, normalize outer = .ok bounds) ∧ normalize inner = .error failure) ∧
    ((∀ entry ∈ outer, entry.2.isWritable = true) → (∀ entry ∈ inner, entry.2.isWritable = true) →
      ∀ failure, exceedingRaw outer inner = .error failure → ∃ cause, failure = .refused cause) ∧
    (∀ exceeded, exceedingRaw outer inner = .ok exceeded →
      (∀ name quantity, (name, quantity) ∈ exceeded ↔ DeclaresAbove outer inner name quantity) ∧
      exceeded.names.Nodup ∧ (exceeded.isEmpty = true ↔ NoMore outer inner) ∧
      ∃ text, exceeded.describe? = some text ∧ Lists exceeded text) ∧
    (∀ limit, normalize inner = .ok limit → FitsIn inner inner) ∧
    (SameResources inner outer → FitsIn inner outer → FitsIn outer inner →
      ∃ limit limit', normalize inner = .ok limit ∧ normalize outer = .ok limit' ∧
        SameMap limit limit') ∧
    (∀ third, SameResources inner outer → FitsIn inner outer → FitsIn outer third →
      FitsIn inner third) := by
  refine ⟨fun _ => exceedingRaw_eq_error_iff,
    fun houter hinner _ => exists_refused_of_exceedingRaw houter hinner, fun exceeded h => ?_,
    fun _ h => .refl h, fun hsame h h' => h.antisymm hsame h',
    fun _ hsame h h' => h.trans hsame h'⟩
  exact ⟨fun _ _ => mem_exceedingRaw h, (normal_of_exceedingRaw h).nodup, exceedingRaw_isEmpty h,
    exists_lists_of_exceedingRaw h⟩

/-- Bounds for three resources, two of them by the names of fields. -/
def threeBounds : RawLimit := [("limitsCpu", .str "2"), ("pods", .int 5), ("services", .str "3")]

/-- More than `threeBounds` of two resources, as much of one, and some of another. -/
def beyondTwoBounds : RawLimit :=
  [("pods", .str "6"), ("requests.memory", .str "1Gi"), ("limits.cpu", .str "2500m"),
    ("services", .int 3)]

/-- Processors in thousandths, by the name of a field. -/
def processorsByField : RawLimit := [("limitsCpu", .str "1500m"), ("pods", .null)]

/-- As many processors, by the name of the resource. -/
def processorsByResource : RawLimit := [("limits.cpu", .str "1.5")]

theorem respelled_limits_compared :
    (∃ exceeded, exceedingRaw threeBounds beyondTwoBounds = .ok exceeded ∧
      exceeded.describe? = some ("limits.cpu=2500m, pods=6" : Text) ∧
      DeclaresAbove threeBounds beyondTwoBounds "pods" 6) ∧
    (∃ limit limit', normalize processorsByField = .ok limit ∧
      normalize processorsByResource = .ok limit' ∧ SameMap limit limit') ∧
    FitsIn processorsByField threeBounds ∧
    ∃ failure, exceedingRaw threeBounds repeatedProcessors = .error failure := by
  obtain ⟨-, -, hcompared, -⟩ :=
    comparison_decides_order_on_shared_resources beyondTwoBounds threeBounds
  obtain ⟨-, -, -, -, hantisymm, htrans⟩ :=
    comparison_decides_order_on_shared_resources processorsByField processorsByResource
  obtain ⟨hfailing, -⟩ :=
    comparison_decides_order_on_shared_resources repeatedProcessors threeBounds
  have hexceeded : exceedingRaw threeBounds beyondTwoBounds =
      .ok [("pods", 6), ("limits.cpu", mkRat 5 2)] := Except.eq_ok_of_toOption (by decide +kernel)
  obtain ⟨hmem, -⟩ := hcompared _ hexceeded
  -- The entries are listed by name, not as they were found.
  have hlisted : Lists [("pods", 6), ("limits.cpu", mkRat 5 2)]
      ("limits.cpu=2500m, pods=6" : Text) := by
    refine ⟨[("limits.cpu", mkRat 5 2), ("pods", 6)], ?_, fun entry => by simp [or_comm],
      ["limits.cpu=2500m", "pods=6"], by decide +kernel, by decide +kernel⟩
    show List.Pairwise _ _
    decide +kernel
  -- Two spellings of one limit fit into each other, and so into what one of them fits into.
  have hsame : SameResources processorsByField processorsByResource := fun _ => Iff.rfl
  have hthere : FitsIn processorsByField processorsByResource :=
    ⟨[], Except.eq_ok_of_toOption (by decide +kernel), rfl⟩
  have hback : FitsIn processorsByResource processorsByField :=
    ⟨[], Except.eq_ok_of_toOption (by decide +kernel), rfl⟩
  have hbounds : FitsIn processorsByResource threeBounds :=
    ⟨[], Except.eq_ok_of_toOption (by decide +kernel), rfl⟩
  have hrepeated : ¬ (resources repeatedProcessors).Nodup := by decide +kernel
  have hbounded : normalize threeBounds =
      .ok [("limits.cpu", 2), ("pods", 5), ("services", 3)] :=
    Except.eq_ok_of_toOption (by decide +kernel)
  obtain ⟨failure, hfails⟩ := normalize_eq_error_iff.mpr (.inr hrepeated)
  exact ⟨⟨_, hexceeded, (normal_of_exceedingRaw hexceeded).describe?_iff.mpr hlisted,
      (hmem _ _).mp List.mem_cons_self⟩,
    hantisymm hsame hthere hback, htrans _ hsame hthere hbounds,
    failure, (hfailing failure).mpr (.inr ⟨⟨_, hbounded⟩, hfails⟩)⟩

/-- A limit of an integer of 4301 digits is compared without success, and not refused. -/
theorem comparison_with_tooLongToShow_unshown :
    (∃ failure, normalize tooLongToShow = .error failure) ∧
      ¬ ∃ cause, exceedingRaw threeBounds tooLongToShow = .error (.refused cause) := by
  have hbounded : normalize threeBounds =
      .ok [("limits.cpu", 2), ("pods", 5), ("services", 3)] :=
    Except.eq_ok_of_toOption (by decide +kernel)
  refine ⟨⟨_, normalize_tooLongToShow⟩, ?_⟩
  rintro ⟨cause, hrefused⟩
  rcases exceedingRaw_eq_error_iff.mp hrefused with houter | ⟨-, hinner⟩
  · rw [hbounded] at houter
    cases houter
  · rw [normalize_tooLongToShow] at hinner
    cases hinner

end Limit

end AdmissionControl
