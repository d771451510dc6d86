/-
  AdmissionControl.Proofs.Model.Whole

  Texts without halves of surrogate pairs.

  A text of JSON may hold half of a surrogate pair, and no such text can be sent.  `Text.Whole` says
  of a text that it holds none; a value can be sent if this holds of all its texts, and a response
  if it holds of its uid, its message and its warnings (`ReviewResponse.isEncodable_toJson`).
-/

import AdmissionControl.Decision
import AdmissionControl.Proofs.Json.Leaves

namespace AdmissionControl

/-! ## Whole texts -/

namespace Text

/-- No symbol of the text is half of a surrogate pair. -/
def Whole (t : Text) : Prop := t.string?.isSome = true

instance (t : Text) : Decidable t.Whole := inferInstanceAs (Decidable (t.string?.isSome = true))

@[simp] theorem whole_ofString (s : String) : (s : Text).Whole := by
  rw [Whole, string?_ofString, Option.isSome_some]

@[simp] theorem whole_append {t u : Text} : (t ++ u).Whole ↔ t.Whole ∧ u.Whole := by
  obtain ⟨ts⟩ := t
  obtain ⟨us⟩ := u
  show (⟨ts ++ us⟩ : Text).string?.isSome = true ↔ _
  simp only [Whole, string?, chars?, Option.isSome_map, List.mapM_append]
  cases ts.mapM Symbol.char? <;> cases us.mapM Symbol.char? <;> simp

theorem whole_intercalate {separator : Text} (hseparator : separator.Whole) {parts : List Text}
    (hparts : ∀ part ∈ parts, part.Whole) : (intercalate separator parts).Whole := by
  induction parts with
  | nil => exact whole_ofString ""
  | cons first rest ih =>
    rw [List.forall_mem_cons] at hparts
    -- A separator stands only between two parts.
    cases rest with
    | nil =>
      have hone : intercalate separator [first] = first := by simp [intercalate]
      rw [hone]
      exact hparts.1
    | cons second more =>
      have hmore : intercalate separator (first :: second :: more) =
          first ++ separator ++ intercalate separator (second :: more) := by
        show (⟨_⟩ : Text) = ⟨(first.symbols ++ separator.symbols) ++ _⟩
        rw [List.map_cons, List.map_cons, List.intercalate_cons_cons]
        rfl
      rw [hmore, whole_append, whole_append]
      exact ⟨⟨hparts.1, hseparator⟩, ih hparts.2⟩

/-- Nothing is replaced in a whole text. -/
theorem Whole.replaced_eq {t : Text} (h : t.Whole) : t.replaced = t := by
  obtain ⟨cs, rfl⟩ := exists_ofChars h
  rw [replaced, ofChars, List.flatMap_map, List.map_eq_flatMap]

end Text

namespace Json

theorem isEncodable_str {t : Text} : (str t).isEncodable = true ↔ t.Whole := Iff.rfl

theorem isEncodable_arr {items : List Json} : (arr items).isEncodable = true ↔
    ∀ item ∈ items, item.isEncodable = true := allLeaves_arr

theorem isEncodable_obj {members : List (Text × Json)} : (obj members).isEncodable = true ↔
    ∀ member ∈ members, member.1.Whole ∧ member.2.isEncodable = true := allLeaves_obj

end Json

/-- The status of a denial can be sent if its message can. -/
theorem DenialStatus.isEncodable_toJson (status : DenialStatus) :
    status.toJson.isEncodable = true ↔ status.message.Whole := by
  obtain ⟨code, reason, message⟩ := status
  have hcode : (Json.int code).isEncodable = true := rfl
  simp only [toJson, Json.isEncodable_obj]
  cases reason <;> simp [Json.isEncodable_str, Reason.name, hcode]

/-- A response can be sent if its uid, the message of its status and its warnings can. -/
theorem ReviewResponse.isEncodable_toJson (response : ReviewResponse) :
    response.toJson.isEncodable = true ↔ response.uid.Whole ∧
      (∀ status, response.status = some status → status.message.Whole) ∧
      ∀ warning ∈ response.warnings, warning.Whole := by
  obtain ⟨uid, allowed, status, warnings⟩ := response
  have hallowed : (Json.bool allowed).isEncodable = true := rfl
  cases status <;> cases warnings <;>
    simp [toJson, responseJson, Json.objOfSome, Json.isEncodable_obj, Json.isEncodable_arr,
      Json.isEncodable_str, DenialStatus.isEncodable_toJson, hallowed]

end AdmissionControl
