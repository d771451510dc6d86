/-
  AdmissionControl.Proofs.ApiServer.Readable

  Which objects of the API server are read.

  The client reads a member where it needs one, and takes for granted that it has the form in which
  the API server writes it.  `Query.Readable` says what the value of a reply has to be for a
  question: members may be missing, but those that are looked at have their form.  These values are
  read, and no others (`Query.exists_read_iff`).  Reading any other one ends in a failure that is
  not reported, be it that a member was read of something that is no object, or that a part did not
  decode (`Query.read_escapes`).
-/

import AdmissionControl.Proofs.ApiServer.Refinement

namespace AdmissionControl

open ApiServer

/-! ## Decoded parts -/

namespace Decoder

theorem text_eq_value {j : Json} {s : Text} : text j = .value s ↔ j = .str s := by
  cases j <;> simp [text, Decoded.fail]

theorem items_text_eq_value {n : Nat} {values : List Json} {texts : List Text} :
    Decoder.items text n values = .value texts ↔ values = texts.map .str := by
  constructor
  · intro h
    induction values generalizing n texts with
    | nil =>
      cases h
      rfl
    | cons j rest ih =>
      rw [Decoder.items, Decoded.ap_eq_value_iff] at h
      obtain ⟨consed, more, hfirst, hrest, rfl⟩ := h
      obtain ⟨s, hs, rfl⟩ := Decoded.map_eq_value_iff.mp hfirst
      rw [List.map_cons, ← text_eq_value.mp (Decoded.under_eq_value_iff.mp hs), ← ih hrest]
  · rintro rfl
    exact items_map undoes_text texts n

theorem list_text_eq_value {j : Json} {texts : List Text} :
    list text j = .value texts ↔ j = .arr (texts.map .str) := by
  cases j with
  | arr values => simp [list, items_text_eq_value]
  | _ => simp [list, Decoded.fail]

end Decoder

theorem User.decodeParts_eq_value {name principals : Json} {user : User} :
    User.decodeParts name principals = .value user ↔
      name = .str user.name ∧ principals = .arr (user.principalIds.map .str) := by
  obtain ⟨own, principalIds⟩ := user
  rw [decodeParts, Decoded.ap_eq_value_iff]
  constructor
  · rintro ⟨named, texts, hname, hlist, hboth⟩
    obtain ⟨s, hs, rfl⟩ := Decoded.map_eq_value_iff.mp hname
    cases hboth
    exact ⟨Decoder.text_eq_value.mp (Decoded.under_eq_value_iff.mp hs),
      Decoder.list_text_eq_value.mp (Decoded.under_eq_value_iff.mp hlist)⟩
  · rintro ⟨rfl, rfl⟩
    exact ⟨_, principalIds, rfl,
      Decoded.under_eq_value (Decoder.undoes_list Decoder.undoes_text principalIds) _, rfl⟩

theorem Setting.decodeParts_eq_value {name : Text} {value : Json} {setting : Setting} :
    Setting.decodeParts (.str name) value = .value setting ↔
      setting.name = name ∧ value = .str setting.value := by
  obtain ⟨own, text⟩ := setting
  rw [decodeParts, Decoded.ap_eq_value_iff]
  constructor
  · rintro ⟨named, s, hname, hvalue, hboth⟩
    cases hname
    cases hboth
    exact ⟨rfl, Decoder.text_eq_value.mp (Decoded.under_eq_value_iff.mp hvalue)⟩
  · rintro ⟨rfl, rfl⟩
    exact ⟨_, text, rfl, rfl, rfl⟩

namespace ApiServer

/-! ## Members -/

theorem membersOf_eq_ok {j : Json} {members : List (Text × Json)} :
    membersOf j = .ok members ↔ j = .obj members := by
  cases j <;> simp [membersOf, Json.members?]

theorem membersOf_eq_error {j : Json} {failure : Failure} (h : membersOf j = .error failure) :
    failure = .noMembers := by
  rw [membersOf] at h
  split at h
  · cases h
  · exact (Except.error.inj h).symm

/-- A member of an object is missing, or has a property. -/
def MemberIs (members : List (Text × Json)) (name : Text) (P : Json → Prop) : Prop :=
  ∀ j, members.lookup name = some j → P j

variable {members : List (Text × Json)} {name : Text} {P : Json → Prop} {default : Json}

theorem memberIs_iff_getD (hdefault : P default) :
    P ((members.lookup name).getD default) ↔ MemberIs members name P := by
  cases hmember : members.lookup name with
  | none => simp [MemberIs, hmember, hdefault]
  | some j => simp [MemberIs, hmember]

/-- A member that is trivial, or has a property. -/
abbrev OrTrivial (P : Json → Prop) (j : Json) : Prop := j.isTrivial = true ∨ P j

/-- What counts where a trivial member is passed over for a default has a property. -/
theorem memberIs_iff_firstNontrivial (hdefault : P default) :
    P ((firstNontrivial members [name]).getD default) ↔ MemberIs members name (OrTrivial P) := by
  cases hmember : members.lookup name with
  | none => simp [MemberIs, firstNontrivial, hmember, hdefault]
  | some j =>
    by_cases htrivial : j.isTrivial = true
    · simp [MemberIs, firstNontrivial, hmember, OrTrivial, htrivial, hdefault]
    · simp [MemberIs, firstNontrivial, hmember, OrTrivial, htrivial]

/-- The same with two members: the second counts where the first is missing or passed over. -/
theorem memberIs_iff_firstNontrivial₂ {second : Text} (hdefault : P default) :
    P ((firstNontrivial members [name, second]).getD default) ↔
      MemberIs members name (OrTrivial P) ∧
      (MemberIs members name (fun j => j.isTrivial = true) →
        MemberIs members second (OrTrivial P)) := by
  rw [← memberIs_iff_firstNontrivial hdefault, ← memberIs_iff_firstNontrivial hdefault]
  cases hmember : members.lookup name with
  | none => simp [MemberIs, firstNontrivial, hmember, hdefault]
  | some j =>
    by_cases htrivial : j.isTrivial = true
    · simp [MemberIs, firstNontrivial, hmember, htrivial, hdefault]
    · simp [MemberIs, firstNontrivial, hmember, htrivial]

end ApiServer

/-! ## Objects that are read -/

/-- A text. -/
def Json.IsText (j : Json) : Prop := ∃ s, j = .str s

/-- A list of texts. -/
def Json.IsTexts (j : Json) : Prop := ∃ texts : List Text, j = .arr (texts.map .str)

/-- The metadata of an object, with a text for its name if there is one. -/
def Json.IsMetadata (j : Json) : Prop :=
  ∃ members, j = .obj members ∧ MemberIs members "name" IsText

/-- What the value of a reply has to be for a question.  A user has metadata and a list of
principals, a setting a text for its value or else for its default, and an access review a status;
each of these may be missing, and the lists and texts may be null, false, zero or empty. -/
inductive Query.Readable : Query → Json → Prop where
  | user {name : Text} {members : List (Text × Json)} :
      MemberIs members "metadata" Json.IsMetadata →
      MemberIs members "principalIds" (OrTrivial Json.IsTexts) →
      Readable (.user name) (.obj members)
  | setting {name : Text} {members : List (Text × Json)} :
      MemberIs members "value" (OrTrivial Json.IsText) →
      (MemberIs members "value" (fun j => j.isTrivial = true) →
        MemberIs members "default" (OrTrivial Json.IsText)) →
      Readable (.setting name) (.obj members)
  | access {check : AccessCheck} {members : List (Text × Json)} :
      MemberIs members "status" (fun j => ∃ status, j = .obj status) →
      Readable (.access check) (.obj members)

namespace ApiServer

/-- A user is read where the name in its metadata is a text and its principals are texts. -/
theorem userOf_eq_ok {name : Text} {j : Json} {user : User} :
    userOf name j = .ok user ↔ ∃ members metadata, j = .obj members ∧
      (members.lookup ("metadata" : Text)).getD (.obj []) = .obj metadata ∧
      (metadata.lookup ("name" : Text)).getD (.str name) = .str user.name ∧
      (firstNontrivial members ["principalIds"]).getD (.arr []) =
        .arr (user.principalIds.map .str) := by
  simp only [userOf, Except.bind_eq_ok, membersOf_eq_ok]
  constructor
  · rintro ⟨members, rfl, metadata, hmetadata, hread⟩
    split at hread
    next found hreport =>
      cases hread
      have hdecoded := User.decodeParts_eq_value.mp (Decoded.report_eq_ok.mp hreport)
      exact ⟨members, metadata, rfl, hmetadata, hdecoded⟩
    next => cases hread
  · rintro ⟨members, metadata, rfl, hmetadata, hread⟩
    refine ⟨members, rfl, metadata, hmetadata, ?_⟩
    rw [User.decodeParts_eq_value.mpr hread]
    rfl

/-- A setting is read where its value is a text. -/
theorem settingOf_eq_ok {name : Text} {j : Json} {setting : Setting} :
    settingOf name j = .ok setting ↔ ∃ members, j = .obj members ∧ setting.name = name ∧
      (firstNontrivial members ["value", "default"]).getD (.str "") = .str setting.value := by
  simp only [settingOf, Except.bind_eq_ok, membersOf_eq_ok]
  constructor
  · rintro ⟨members, rfl, hread⟩
    split at hread
    next found hreport =>
      cases hread
      exact ⟨members, rfl, Setting.decodeParts_eq_value.mp (Decoded.report_eq_ok.mp hreport)⟩
    next => cases hread
  · rintro ⟨members, rfl, hread⟩
    refine ⟨members, rfl, ?_⟩
    rw [Setting.decodeParts_eq_value.mpr hread]
    rfl

theorem exists_userOf_iff (name : Text) (j : Json) :
    (∃ user, userOf name j = .ok user) ↔ Query.Readable (.user name) j := by
  have hmetadata : ∀ members : List (Text × Json),
      Json.IsMetadata ((members.lookup ("metadata" : Text)).getD (.obj [])) ↔
        MemberIs members "metadata" Json.IsMetadata :=
    fun members => memberIs_iff_getD ⟨[], rfl, fun _ h => by cases h⟩
  have hname : ∀ metadata : List (Text × Json),
      Json.IsText ((metadata.lookup ("name" : Text)).getD (.str name)) ↔
        MemberIs metadata "name" Json.IsText := fun metadata => memberIs_iff_getD ⟨name, rfl⟩
  have hprincipals : ∀ members : List (Text × Json),
      Json.IsTexts ((firstNontrivial members ["principalIds"]).getD (.arr [])) ↔
        MemberIs members "principalIds" (OrTrivial Json.IsTexts) :=
    fun members => memberIs_iff_firstNontrivial ⟨[], rfl⟩
  -- Each part counts with its default, so it is enough that what is there can be read.
  constructor
  · rintro ⟨user, huser⟩
    obtain ⟨members, metadata, rfl, hparts, hshown, htexts⟩ := userOf_eq_ok.mp huser
    exact .user ((hmetadata members).mp ⟨metadata, hparts, (hname metadata).mp ⟨_, hshown⟩⟩)
      ((hprincipals members).mp ⟨_, htexts⟩)
  · intro hreadable
    cases hreadable with
    | @user _ members hdata hlist =>
      obtain ⟨metadata, hparts, htext⟩ := (hmetadata members).mpr hdata
      obtain ⟨shown, hshown⟩ := (hname metadata).mpr htext
      obtain ⟨texts, htexts⟩ := (hprincipals members).mpr hlist
      exact ⟨⟨shown, texts⟩, userOf_eq_ok.mpr ⟨members, metadata, rfl, hparts, hshown, htexts⟩⟩

theorem exists_settingOf_iff (name : Text) (j : Json) :
    (∃ setting, settingOf name j = .ok setting) ↔ Query.Readable (.setting name) j := by
  have hvalue : ∀ members : List (Text × Json),
      Json.IsText ((firstNontrivial members ["value", "default"]).getD (.str "")) ↔
        MemberIs members "value" (OrTrivial Json.IsText) ∧
        (MemberIs members "value" (fun j => j.isTrivial = true) →
          MemberIs members "default" (OrTrivial Json.IsText)) :=
    fun members => memberIs_iff_firstNontrivial₂ ⟨"", rfl⟩
  -- The default is looked at only where the value does not count.
  constructor
  · rintro ⟨setting, hsetting⟩
    obtain ⟨members, rfl, -, htext⟩ := settingOf_eq_ok.mp hsetting
    obtain ⟨hown, hdefault⟩ := (hvalue members).mp ⟨_, htext⟩
    exact .setting hown hdefault
  · intro hreadable
    cases hreadable with
    | @setting _ members hown hdefault =>
      obtain ⟨value, htext⟩ := (hvalue members).mpr ⟨hown, hdefault⟩
      exact ⟨⟨name, value⟩, settingOf_eq_ok.mpr ⟨members, rfl, rfl, htext⟩⟩

theorem exists_accessStatusOf_iff (check : AccessCheck) (j : Json) :
    (∃ status, accessStatusOf j = .ok status) ↔ Query.Readable (.access check) j := by
  have hstatus : ∀ members : List (Text × Json),
      (∃ status, (members.lookup ("status" : Text)).getD (.obj []) = .obj status) ↔
        MemberIs members "status" (fun j => ∃ status, j = .obj status) :=
    fun members => memberIs_iff_getD (P := fun j => ∃ status, j = .obj status) ⟨[], rfl⟩
  simp only [accessStatusOf, Except.bind_eq_ok, membersOf_eq_ok]
  constructor
  · rintro ⟨status, members, rfl, hmember⟩
    exact .access ((hstatus members).mp ⟨status, hmember⟩)
  · intro hreadable
    cases hreadable with
    | @access _ members hmember =>
      obtain ⟨status, hobject⟩ := (hstatus members).mpr hmember
      exact ⟨status, members, rfl, hobject⟩

/-! ## Failures to read -/

variable {name : Text} {j : Json} {failure : Failure}

theorem isReported_of_userOf (h : userOf name j = .error failure) : failure.isReported = false := by
  simp only [userOf, Except.bind_eq_error] at h
  rcases h with h | ⟨members, -, h | ⟨metadata, -, h⟩⟩
  · rw [membersOf_eq_error h]
    rfl
  · rw [membersOf_eq_error h]
    rfl
  · split at h
    · cases h
    · cases h
      rfl

theorem isReported_of_settingOf (h : settingOf name j = .error failure) :
    failure.isReported = false := by
  simp only [settingOf, Except.bind_eq_error] at h
  rcases h with h | ⟨members, -, h⟩
  · rw [membersOf_eq_error h]
    rfl
  · split at h
    · cases h
    · cases h
      rfl

theorem isReported_of_accessStatusOf (h : accessStatusOf j = .error failure) :
    failure.isReported = false := by
  simp only [accessStatusOf, Except.bind_eq_error] at h
  rcases h with h | ⟨members, -, h⟩ <;>
  · rw [membersOf_eq_error h]
    rfl

end ApiServer

namespace Query

variable {query : Query} {handled : Handled Exchange (Option Json)} {j : Json}

/-- The value of a reply is read for a question exactly if it is as it has to be for it. -/
theorem exists_read_iff (h : handled.reply = .ok (some j)) :
    (∃ a, (query.read handled).reply = .ok a) ↔ query.Readable j := by
  cases query with
  | user name =>
    rw [← exists_userOf_iff]
    simp only [read, readFound, h, Except.ok_bind]
    -- What is read is passed on, so it is there for the one exactly if for the other.
    cases ApiServer.userOf name j <;> simp [Except.map]
  | setting name =>
    rw [← exists_settingOf_iff]
    simp only [read, readFound, h, Except.ok_bind]
    cases ApiServer.settingOf name j <;> simp [Except.map]
  | access check =>
    rw [← exists_accessStatusOf_iff]
    simp only [read, readVerdict, h]
    cases accessStatusOf j with
    | error failure => simp
    | ok status =>
      dsimp only
      split <;> simp

/-- A failure to read the value of a reply is not reported. -/
theorem read_escapes {failure : Failure} (h : handled.reply = .ok (some j))
    (hfailure : (query.read handled).reply = .error failure) : failure.isReported = false := by
  cases query with
  | user name =>
    simp only [read, readFound, h, Except.ok_bind] at hfailure
    cases hread : ApiServer.userOf name j with
    | ok user => rw [hread] at hfailure; cases hfailure
    | error cause =>
      rw [hread] at hfailure
      cases hfailure
      exact isReported_of_userOf hread
  | setting name =>
    simp only [read, readFound, h, Except.ok_bind] at hfailure
    cases hread : ApiServer.settingOf name j with
    | ok setting => rw [hread] at hfailure; cases hfailure
    | error cause =>
      rw [hread] at hfailure
      cases hfailure
      exact isReported_of_settingOf hread
  | access check =>
    simp only [read, readVerdict, h] at hfailure
    -- A status is a verdict in any case; only a status that cannot be read is left.
    cases hread : accessStatusOf j with
    | ok status =>
      rw [hread] at hfailure
      dsimp only at hfailure
      split at hfailure <;> cases hfailure
    | error cause =>
      rw [hread] at hfailure
      cases hfailure
      exact isReported_of_accessStatusOf hread

end Query

end AdmissionControl
