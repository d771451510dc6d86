/-
  AdmissionControl.Proofs.Json.Depth

  How far the depth of a reader matters.

  A reader enters a container only while its depth allows it, and there alone the depth counts.  So
  a deeper reader finds what a shallower one finds, be it a value or an error, unless that one gave
  up for its depth (`deepens_ofText`), and any two readers agree on a text for which neither gives
  up (`ofText_eq_of_depths`).
-/

import AdmissionControl.Json.Reader
import AdmissionControl.Proofs.Answers

namespace AdmissionControl.Json

/-- What a deeper reader finds, after what a shallower one finds: the same, unless that one gave up
for its depth. -/
def Deepens (shallow deep : Except JsonError α) : Prop :=
  shallow = .error .tooDeep ∨ deep = shallow

theorem Deepens.refl (found : Except JsonError α) : Deepens found found := .inr rfl

/-- What is done in two steps deepens with both of them. -/
theorem Deepens.bind {shallow deep : Except JsonError α} {next next' : α → Except JsonError β}
    (hfirst : Deepens shallow deep) (hnext : ∀ a, Deepens (next a) (next' a)) :
    Deepens (shallow.bind next) (deep.bind next') := by
  rcases hfirst with rfl | rfl
  · exact .inl rfl
  · cases deep with
    | error cause => exact .refl _
    | ok a => exact hnext a

theorem Deepens.map {shallow deep : Except JsonError α} (h : Deepens shallow deep) (f : α → β) :
    Deepens (shallow.map f) (deep.map f) := by
  rcases h with rfl | rfl
  · exact .inl rfl
  · exact .refl _

theorem Deepens.foldlM {step step' : α → β → Except JsonError α}
    (hstep : ∀ a b, Deepens (step a b) (step' a b)) (items : List β) (start : α) :
    Deepens (items.foldlM step start) (items.foldlM step' start) := by
  induction items generalizing start with
  | nil => exact .refl _
  | cons item rest ih =>
    rw [List.foldlM_cons, List.foldlM_cons]
    exact (hstep start item).bind ih

section

variable {depth depth' : Nat}

/-- A container that was entered is entered at a greater depth too. -/
theorem deepens_enter (hdepth : depth ≤ depth') (frame : Frame) (expected : Expected)
    (frames : List Frame) : Deepens (Reading.enter depth frame expected frames)
      (Reading.enter depth' frame expected frames) := by
  unfold Reading.enter
  split
  next hbelow =>
    rw [if_pos (Nat.lt_of_lt_of_le hbelow hdepth)]
    exact .refl _
  next => exact .inl rfl

theorem deepens_beginValue (hdepth : depth ≤ depth') (frames : List Frame) (token : Token) :
    Deepens (Reading.beginValue depth frames token) (Reading.beginValue depth' frames token) := by
  cases token with
  | beginArray => exact deepens_enter hdepth _ _ frames
  | beginObject => exact deepens_enter hdepth _ _ frames
  | word result => cases result <;> exact .refl _
  | _ => exact .refl _

theorem deepens_step (hdepth : depth ≤ depth') (reading : Reading) (token : Token) :
    Deepens (reading.step depth token) (reading.step depth' token) := by
  obtain ⟨frames, expected⟩ := reading
  -- Only where a value begins does the reader look at its depth.
  cases expected with
  | value => exact deepens_beginValue hdepth frames token
  | valueOrEnd =>
    cases token with
    | endArray => exact .refl _
    | _ =>
      dsimp only [Reading.step]
      exact deepens_beginValue hdepth frames _
  | nothing result => exact .refl _
  | _ => cases token <;> exact .refl _

theorem deepens_feed (hdepth : depth ≤ depth') (reading : Reading) (tokens : Option (List Token)) :
    Deepens (Progress.feed depth reading tokens) (Progress.feed depth' reading tokens) := by
  cases tokens with
  | none => exact .refl _
  | some tokens => exact .foldlM (deepens_step hdepth) tokens reading

theorem Progress.deepens_step (hdepth : depth ≤ depth') (progress : Progress) (s : Symbol) :
    Deepens (progress.step depth s) (progress.step depth' s) := by
  unfold Progress.step
  split
  next tokens scan _ => exact (deepens_feed hdepth progress.reading (some tokens)).map _
  next => exact .refl _

/-- A text reads alike to a greater depth, unless its reading was given up. -/
theorem deepens_ofText (hdepth : depth ≤ depth') (t : Text) :
    Deepens (ofText depth t) (ofText depth' t) := by
  unfold ofText
  refine (Deepens.foldlM (Progress.deepens_step hdepth) t.symbols {}).bind fun progress => ?_
  exact (deepens_feed hdepth progress.reading progress.scan.finish).bind fun _ => .refl _

/-- Readers of any depths agree on a text, unless one of them gives up. -/
theorem ofText_eq_of_depths {t : Text} (h : ofText depth t ≠ .error .tooDeep)
    (h' : ofText depth' t ≠ .error .tooDeep) : ofText depth t = ofText depth' t := by
  rcases Nat.le_total depth depth' with hdepth | hdepth
  · exact ((deepens_ofText hdepth t).resolve_left h).symm
  · exact (deepens_ofText hdepth t).resolve_left h'

/-- A text has one value at most, whatever the depths of its readers. -/
theorem eq_of_ofText {t : Text} {j j' : Json} (h : ofText depth t = .ok j)
    (h' : ofText depth' t = .ok j') : j = j' := by
  have hsame : ofText depth t = ofText depth' t :=
    ofText_eq_of_depths (by rw [h]; nofun) (by rw [h']; nofun)
  rw [h, h'] at hsame
  exact Except.ok.inj hsame

end

end AdmissionControl.Json
