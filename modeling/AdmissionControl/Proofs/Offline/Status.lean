/-
  AdmissionControl.Proofs.Offline.Status

  What the exit status of an evaluation from files tells.

  Zero is an allowed review, one a denied one, and in both cases the review with the response is
  printed.  Failures that are reported or lie in a text end with two.  But one is also the status of
  a program that breaks off, and some failures are caught by nobody: a text whose containers stand
  too deep in each other, users or settings that are no map, and a user whose principals cannot be
  gone through (`OfflineInput.BreaksOff`).  Nothing else is, whatever the files hold: the entries of
  both maps are read in order up to the first that fails, and every failure of a review over the
  maps that were read is caught (`exit_status_tells_verdict`).
-/

import AdmissionControl.Offline
import AdmissionControl.Proofs.ApiServer.Readable
import AdmissionControl.Proofs.Review.Failing

namespace AdmissionControl

/-! ## Failures that nobody catches -/

/-- A result that fails neither by a reported failure nor by something that cannot be read. -/
def Uncaught (result : Except Failure α) : Prop :=
  ∃ failure, result = .error failure ∧ (failure.isReported || failure.isUnreadable) = false

section

variable {α β : Type} {first : Except Failure α} {next : α → Except Failure β}

theorem not_uncaught_ok (a : α) : ¬ Uncaught (.ok a : Except Failure α) := by
  rintro ⟨failure, h, -⟩
  cases h

theorem uncaught_error {failure : Failure} : Uncaught (.error failure : Except Failure α) ↔
    (failure.isReported || failure.isUnreadable) = false := by
  constructor
  · rintro ⟨_, h, hfailure⟩
    cases h
    exact hfailure
  · exact fun h => ⟨failure, rfl, h⟩

/-- A computation in two parts breaks off in the first, or in the second behind the first. -/
theorem uncaught_bind : Uncaught (first >>= next) ↔
    Uncaught first ∨ ∃ a, first = .ok a ∧ Uncaught (next a) := by
  cases first with
  | error failure =>
    show Uncaught (.error failure) ↔ _
    rw [uncaught_error, uncaught_error]
    simp
  | ok a =>
    show Uncaught (next a) ↔ _
    simp [not_uncaught_ok]

theorem uncaught_map (f : α → β) : Uncaught (first.map f) ↔ Uncaught first := by
  cases first with
  | error failure => exact uncaught_error.trans uncaught_error.symm
  | ok a => exact iff_of_false (not_uncaught_ok _) (not_uncaught_ok _)

/-- Reading items in order breaks off at an item before which all others are read. -/
theorem uncaught_mapM {f : α → Except Failure β} (items : List α) : Uncaught (items.mapM f) ↔
    ∃ before item after, items = before ++ item :: after ∧
      (∀ earlier ∈ before, ∃ b, f earlier = .ok b) ∧ Uncaught (f item) := by
  induction items with
  | nil =>
    refine iff_of_false (not_uncaught_ok _) ?_
    rintro ⟨before, item, after, h, -⟩
    simp at h
  | cons item rest ih =>
    rw [List.mapM_cons, uncaught_bind]
    -- What is put in front of the rest breaks nothing off.
    have hrest (b : β) : Uncaught (do let bs ← rest.mapM f; pure (b :: bs)) ↔
        Uncaught (rest.mapM f) := by
      rw [uncaught_bind]
      simp [pure, Except.pure, not_uncaught_ok]
    constructor
    · rintro (hitem | ⟨b, hb, hmore⟩)
      · exact ⟨[], item, rest, rfl, by simp, hitem⟩
      · obtain ⟨before, other, after, rfl, hbefore, hother⟩ := ih.mp ((hrest b).mp hmore)
        refine ⟨item :: before, other, after, rfl, ?_, hother⟩
        exact List.forall_mem_cons.mpr ⟨⟨b, hb⟩, hbefore⟩
    · rintro ⟨before, other, after, hsplit, hbefore, hother⟩
      -- It breaks off at the first item, or behind it.
      cases before with
      | nil =>
        obtain ⟨rfl, rfl⟩ := List.cons.inj hsplit
        exact .inl hother
      | cons earlier before =>
        obtain ⟨rfl, rfl⟩ := List.cons.inj hsplit
        obtain ⟨⟨b, hb⟩, hbefore⟩ := List.forall_mem_cons.mp hbefore
        exact .inr ⟨b, hb, (hrest b).mpr (ih.mpr ⟨before, other, after, rfl, hbefore, hother⟩)⟩

end

/-! ## Maps of users and settings -/

/-- A value that is not taken for a map: neither an object nor trivial. -/
def Json.NotMap (j : Json) : Prop := j.isTrivial = false ∧ j.members? = none

/-- A value that can be gone through item by item. -/
inductive Json.HasItems : Json → Prop where
  | arr (items : List Json) : HasItems (.arr items)
  | str (s : Text) : HasItems (.str s)
  | obj (members : List (Text × Json)) : HasItems (.obj members)

/-- A value whose items are texts: such an array, a text with its symbols, or an object with the
names of its members. -/
inductive Json.ListsTexts : Json → Prop where
  | arr (texts : List Text) : ListsTexts (.arr (texts.map .str))
  | str (s : Text) : ListsTexts (.str s)
  | obj (members : List (Text × Json)) : ListsTexts (.obj members)

namespace Directory

theorem uncaught_itemsOf (j : Json) : Uncaught (itemsOf j) ↔ ¬ j.HasItems := by
  cases j with
  | arr items => exact iff_of_false (not_uncaught_ok _) (not_not.mpr (.arr items))
  | str s => exact iff_of_false (not_uncaught_ok _) (not_not.mpr (.str s))
  | obj members => exact iff_of_false (not_uncaught_ok _) (not_not.mpr (.obj members))
  | _ => exact iff_of_true (uncaught_error.mpr rfl) nofun

theorem uncaught_entriesOf (j : Json) : Uncaught (entriesOf j) ↔ j.NotMap := by
  -- A trivial value counts as an empty map; any other one must be an object.
  unfold entriesOf Json.NotMap
  split
  next htrivial =>
    exact iff_of_false (not_uncaught_ok _) fun h => Bool.false_ne_true (h.1.symm.trans htrivial)
  next htrivial =>
    rw [Bool.not_eq_true] at htrivial
    split
    next members hmembers =>
      refine iff_of_false (not_uncaught_ok _) fun h => ?_
      rw [hmembers] at h
      cases h.2
    next hmembers => exact iff_of_true (uncaught_error.mpr rfl) ⟨htrivial, hmembers⟩

/-- What is decoded fails by a value of the wrong type, which is caught. -/
theorem not_uncaught_userOf (name : Text) (principals : Json) :
    ¬ Uncaught (userOf name principals) := by
  unfold userOf
  split
  · exact not_uncaught_ok _
  · rw [uncaught_error]
    simp [Failure.isUnreadable]

theorem not_uncaught_settingOf (name : Text) (value : Json) :
    ¬ Uncaught (settingOf name value) := by
  unfold settingOf
  split
  · exact not_uncaught_ok _
  · rw [uncaught_error]
    simp [Failure.isUnreadable]

theorem exists_userOf_iff (name : Text) (items : List Json) :
    (∃ user, userOf name (.arr items) = .ok user) ↔
      ∃ texts : List Text, items = texts.map .str := by
  unfold userOf
  constructor
  · rintro ⟨user, h⟩
    split at h
    next found hfound =>
      have hparts := User.decodeParts_eq_value.mp (Decoded.report_eq_ok.mp hfound)
      exact ⟨found.principalIds, Json.arr.inj hparts.2⟩
    next => cases h
  · rintro ⟨texts, rfl⟩
    have hparts : User.decodeParts (.str name) (.arr (texts.map .str)) = .value ⟨name, texts⟩ :=
      User.decodeParts_eq_value.mpr ⟨rfl, rfl⟩
    rw [hparts]
    exact ⟨⟨name, texts⟩, rfl⟩

/-- A user from one entry of a map. -/
def userEntry (entry : Text × Json) : Except Failure (Text × User) := do
  let items ← itemsOf entry.2
  (userOf entry.1 (.arr items)).map (entry.1, ·)

theorem uncaught_userEntry (entry : Text × Json) :
    Uncaught (userEntry entry) ↔ ¬ entry.2.HasItems := by
  rw [userEntry, uncaught_bind, uncaught_itemsOf]
  simp only [uncaught_map, not_uncaught_userOf, and_false, exists_false, or_false]

/-- Behind its items, the user of an entry is read if these are texts. -/
theorem exists_userEntry_of_items {name : Text} {value : Json} {items : List Json}
    (h : itemsOf value = .ok items) : (∃ user, userEntry (name, value) = .ok user) ↔
      ∃ texts : List Text, items = texts.map .str := by
  rw [← exists_userOf_iff name items, userEntry]
  simp only [h, Except.ok_bind]
  cases userOf name (.arr items) with
  | ok user => exact iff_of_true ⟨_, rfl⟩ ⟨user, rfl⟩
  | error failure => exact iff_of_false (by rintro ⟨_, ⟨⟩⟩) (by rintro ⟨_, ⟨⟩⟩)

theorem exists_userEntry_iff (entry : Text × Json) :
    (∃ user, userEntry entry = .ok user) ↔ entry.2.ListsTexts := by
  obtain ⟨name, value⟩ := entry
  cases value with
  | arr items =>
    rw [exists_userEntry_of_items rfl]
    constructor
    · rintro ⟨texts, rfl⟩
      exact .arr texts
    · intro h
      generalize hvalue : Json.arr items = value at h
      cases h with
      | arr texts => exact ⟨texts, Json.arr.inj hvalue⟩
      | str s => cases hvalue
      | obj members => cases hvalue
  | str s =>
    -- A text counts as the list of its characters, each of them a text.
    have htexts : s.symbols.map (fun symbol => Json.str ⟨[symbol]⟩) =
        (s.symbols.map fun symbol => (⟨[symbol]⟩ : Text)).map .str := by simp
    exact iff_of_true ((exists_userEntry_of_items rfl).mpr ⟨_, htexts⟩) (.str s)
  | obj members =>
    -- An object counts as the list of its names.
    have htexts : members.map (fun member => Json.str member.1) =
        (members.map Prod.fst).map .str := by simp
    exact iff_of_true ((exists_userEntry_of_items rfl).mpr ⟨_, htexts⟩) (.obj members)
  | _ => exact iff_of_false (by rintro ⟨_, ⟨⟩⟩) nofun

end Directory

/-- Users that break the reading off: they are no map, or the principals of one of them cannot be
gone through, where those of the users before can be read. -/
def Json.BreaksUsers (j : Json) : Prop :=
  j.NotMap ∨ ∃ before name value after, j = .obj (before ++ (name, value) :: after) ∧
    (∀ earlier ∈ before, earlier.2.ListsTexts) ∧ ¬ value.HasItems

namespace Directory

theorem entriesOf_eq_ok {j : Json} {entries : Entries Json} : entriesOf j = .ok entries ↔
    j.isTrivial = true ∧ entries = [] ∨ j = .obj entries := by
  -- The empty object is trivial, and has no entries either way.
  unfold entriesOf
  split
  next htrivial =>
    constructor
    · rintro ⟨⟩
      exact .inl ⟨htrivial, rfl⟩
    · rintro (⟨-, rfl⟩ | rfl)
      · rfl
      · rw [Json.isTrivial, List.isEmpty_iff] at htrivial
        rw [htrivial]
  next htrivial =>
    cases j with
    | obj members => simp [Json.members?, htrivial]
    | _ => simp [Json.members?, htrivial]

theorem uncaught_usersOf (j : Json) : Uncaught (usersOf j) ↔ j.BreaksUsers := by
  show Uncaught (entriesOf j >>= fun entries => entries.mapM userEntry) ↔ _
  rw [uncaught_bind, uncaught_entriesOf, Json.BreaksUsers]
  refine or_congr_right ?_
  constructor
  · rintro ⟨entries, hentries, hbreaks⟩
    obtain ⟨before, ⟨name, value⟩, after, rfl, hbefore, hitem⟩ := (uncaught_mapM _).mp hbreaks
    -- There is an entry that breaks off, so the value is not a trivial one.
    have hj : j = .obj (before ++ (name, value) :: after) := by
      rcases entriesOf_eq_ok.mp hentries with ⟨-, hnil⟩ | hj
      · simp at hnil
      · exact hj
    refine ⟨before, name, value, after, hj, ?_, (uncaught_userEntry _).mp hitem⟩
    exact fun earlier hmem => (exists_userEntry_iff earlier).mp (hbefore earlier hmem)
  · rintro ⟨before, name, value, after, rfl, hbefore, hitem⟩
    refine ⟨_, entriesOf_eq_ok.mpr (.inr rfl), (uncaught_mapM _).mpr ?_⟩
    refine ⟨before, (name, value), after, rfl, ?_, (uncaught_userEntry _).mpr hitem⟩
    exact fun earlier hmem => (exists_userEntry_iff earlier).mpr (hbefore earlier hmem)

/-- A setting from one entry of a map. -/
def settingEntry (entry : Text × Json) : Except Failure (Text × Setting) :=
  (settingOf entry.1 entry.2).map (entry.1, ·)

theorem not_uncaught_settingEntry (entry : Text × Json) : ¬ Uncaught (settingEntry entry) := by
  rw [settingEntry, uncaught_map]
  exact not_uncaught_settingOf _ _

theorem uncaught_settingsOf (j : Json) : Uncaught (settingsOf j) ↔ j.NotMap := by
  show Uncaught (entriesOf j >>= fun entries => entries.mapM settingEntry) ↔ _
  rw [uncaught_bind, uncaught_entriesOf]
  refine or_iff_left ?_
  rintro ⟨entries, -, hbreaks⟩
  obtain ⟨-, entry, -, -, -, hitem⟩ := (uncaught_mapM _).mp hbreaks
  exact not_uncaught_settingEntry entry hitem

end Directory

/-! ## Where an evaluation breaks off -/

namespace OfflineInput

/-- A text whose containers stand too deep in each other to be read. -/
def TooDeep (depth : Nat) (text : Text) : Prop := Json.ofText depth text = .error .tooDeep

/-- What a file holds: the value of its text, or an empty object if there is no file. -/
def Holds (depth : Nat) (text : Option Text) (j : Json) : Prop := readGiven depth text = .ok j

/-- An evaluation that breaks off: at the users, at the settings behind users that were read, or at
the review behind both. -/
inductive BreaksOff (input : OfflineInput) : Prop where
  | usersText {text : Text} (h : input.users = some text) (hdeep : TooDeep input.depth text)
  | users {j : Json} (h : Holds input.depth input.users j) (hbreaks : j.BreaksUsers)
  | settingsText {users : Json} {entries : Entries User} {text : Text}
      (husers : Holds input.depth input.users users)
      (hentries : Directory.usersOf users = .ok entries)
      (h : input.settings = some text) (hdeep : TooDeep input.depth text)
  | settings {users j : Json} {entries : Entries User}
      (husers : Holds input.depth input.users users)
      (hentries : Directory.usersOf users = .ok entries)
      (h : Holds input.depth input.settings j) (hmap : j.NotMap)
  | review {directory : Directory} (hdirectory : input.directory = .ok directory)
      (hdeep : TooDeep input.depth input.reviewText)

/-- The review of the input is answered with a response, over the directory of its maps. -/
def Answers (input : OfflineInput) (response : ReviewResponse) : Prop :=
  ∃ directory admissionReview, input.directory = .ok directory ∧
    Json.ofText input.depth input.reviewText = .ok admissionReview ∧
    ((review admissionReview "").run directory.handler []).result = .ok response

variable (input : OfflineInput)

theorem uncaught_read (text : Text) :
    Uncaught (read input.depth text) ↔ TooDeep input.depth text := by
  unfold read TooDeep
  cases Json.ofText input.depth text with
  | ok j => exact iff_of_false (not_uncaught_ok _) nofun
  | error cause =>
    rw [uncaught_error]
    cases cause <;> simp [Failure.isReported, Failure.isUnreadable]

theorem uncaught_readGiven (text : Option Text) : Uncaught (readGiven input.depth text) ↔
    ∃ given, text = some given ∧ TooDeep input.depth given := by
  cases text with
  | none => exact iff_of_false (not_uncaught_ok _) (by rintro ⟨_, ⟨⟩, -⟩)
  | some given =>
    rw [readGiven, uncaught_read]
    simp

/-- Over a directory, a review has no failures but those that are caught. -/
theorem not_uncaught_review (directory : Directory) (admissionReview : Json)
    (checks : List AccessCheck) :
    ¬ Uncaught ((review admissionReview "").run directory.handler checks).result := by
  rintro ⟨failure, hfailure, hcaught⟩
  rcases (failsOnly_review admissionReview "").of_result_run hfailure with
    (hrequest | ⟨rfl, -⟩) | ⟨query, found, -, hreply⟩
  · rw [hrequest.isReported] at hcaught
    cases hcaught
  · cases hcaught
  · rw [directory.handler_gives query found] at hreply
    obtain ⟨service, item, rfl⟩ := Directory.unavailable_of_answers hreply
    cases hcaught

theorem uncaught_directory : Uncaught input.directory ↔
    (∃ text, input.users = some text ∧ TooDeep input.depth text) ∨
    (∃ users, Holds input.depth input.users users ∧ (users.BreaksUsers ∨
      ∃ entries, Directory.usersOf users = .ok entries ∧
        ((∃ text, input.settings = some text ∧ TooDeep input.depth text) ∨
          ∃ settings, Holds input.depth input.settings settings ∧ settings.NotMap))) := by
  have hdone (users : Entries User) (settings : Entries Setting) :
      ¬ Uncaught (pure { users, settings, authorized := input.authorized } :
        Except Failure Directory) := not_uncaught_ok _
  unfold directory
  simp only [uncaught_bind, uncaught_readGiven, Directory.uncaught_usersOf,
    Directory.uncaught_settingsOf, hdone, and_false, exists_false, or_false]
  rfl

/-- The parts of an evaluation: the directory, the text of the review, and its run. -/
theorem result_run : input.run.bind Outcome.result = (do
    let directory ← input.directory
    let admissionReview ← read input.depth input.reviewText
    ((review admissionReview "").run directory.handler []).result) := by
  unfold run
  cases input.directory with
  | error failure => rfl
  | ok directory =>
    cases hread : read input.depth input.reviewText <;> simp only [Except.ok_bind] <;> rfl

theorem read_eq_ok {depth : Nat} {text : Text} {j : Json} :
    read depth text = .ok j ↔ Json.ofText depth text = .ok j := by
  unfold read
  cases Json.ofText depth text with
  | ok found => simp
  | error cause => exact iff_of_false nofun nofun

theorem answers_iff (response : ReviewResponse) :
    input.Answers response ↔ input.run.bind Outcome.result = .ok response := by
  rw [result_run, Answers]
  simp only [Except.bind_eq_ok, read_eq_ok]
  constructor
  · rintro ⟨directory, admissionReview, hdirectory, hread, hresult⟩
    exact ⟨directory, hdirectory, admissionReview, hread, hresult⟩
  · rintro ⟨directory, hdirectory, admissionReview, hread, hresult⟩
    exact ⟨directory, admissionReview, hdirectory, hread, hresult⟩

theorem uncaught_run : Uncaught (input.run.bind Outcome.result) ↔ input.BreaksOff := by
  rw [result_run]
  -- A review never breaks off by itself, so only what is read before it is left.
  simp only [uncaught_bind, uncaught_read, not_uncaught_review, and_false, exists_false, or_false]
  rw [uncaught_directory]
  constructor
  · rintro ((⟨text, husers, hdeep⟩ | ⟨users, husers, hbreaks | ⟨entries, hentries, hsettings⟩⟩) |
      ⟨directory, hdirectory, hdeep⟩)
    · exact .usersText husers hdeep
    · exact .users husers hbreaks
    · rcases hsettings with ⟨text, hsettings, hdeep⟩ | ⟨settings, hsettings, hmap⟩
      · exact .settingsText husers hentries hsettings hdeep
      · exact .settings husers hentries hsettings hmap
    · exact .review hdirectory hdeep
  · intro h
    cases h with
    | usersText husers hdeep => exact .inl (.inl ⟨_, husers, hdeep⟩)
    | users husers hbreaks => exact .inl (.inr ⟨_, husers, .inl hbreaks⟩)
    | settingsText husers hentries hsettings hdeep =>
      exact .inl (.inr ⟨_, husers, .inr ⟨_, hentries, .inl ⟨_, hsettings, hdeep⟩⟩⟩)
    | settings husers hentries hsettings hmap =>
      exact .inl (.inr ⟨_, husers, .inr ⟨_, hentries, .inr ⟨_, hsettings, hmap⟩⟩⟩)
    | review hdirectory hdeep => exact .inr ⟨_, hdirectory, hdeep⟩

end OfflineInput

open OfflineResult

/-- What the result of a run makes of the exit status: the verdict, one for a failure that nobody
catches, and two for any other. -/
theorem programStatus_ofResult (result : Except Failure ReviewResponse) :
    (∃ response, result = .ok response ∧ ¬ Uncaught result ∧
      programStatus (ofResult result) = if response.allowed then 0 else 1) ∨
    ((∀ response, result ≠ .ok response) ∧
      (Uncaught result ∧ programStatus (ofResult result) = 1 ∨
        ¬ Uncaught result ∧ programStatus (ofResult result) = 2)) := by
  cases result with
  | ok response => exact .inl ⟨response, rfl, not_uncaught_ok _, rfl⟩
  | error failure =>
    refine .inr ⟨nofun, ?_⟩
    rw [uncaught_error, ofResult, ofFailure]
    cases failure.isReported || failure.isUnreadable with
    | false => exact .inl ⟨rfl, rfl⟩
    | true => exact .inr ⟨nofun, rfl⟩

/-- Whatever the files hold, the program ends with zero exactly for an allowed review, with one
exactly for a denied one and where it breaks off, and with two in all other cases.  For a response
it prints the review that carries it, and does not break off. -/
theorem exit_status_tells_verdict (input : OfflineInput) :
    (programStatus input.evaluate = 0 ↔
      ∃ response, input.Answers response ∧ response.allowed = true) ∧
    (programStatus input.evaluate = 1 ↔
      (∃ response, input.Answers response ∧ response.allowed = false) ∨ input.BreaksOff) ∧
    (programStatus input.evaluate = 2 ↔
      (∀ response, ¬ input.Answers response) ∧ ¬ input.BreaksOff) ∧
    ∀ response, input.Answers response →
      input.evaluate = .ok (ofResponse response) ∧ ¬ input.BreaksOff := by
  have hstatus := programStatus_ofResult (input.run.bind Outcome.result)
  simp only [OfflineInput.answers_iff, ← OfflineInput.uncaught_run]
  rw [OfflineInput.evaluate]
  -- From here on only the result counts, and whether its failure is caught.
  generalize input.run.bind Outcome.result = result at hstatus
  rcases hstatus with ⟨response, rfl, hcaught, hstatus⟩ | ⟨hnone, hstatus⟩
  · have hprints : ∀ other, (.ok response : Except Failure ReviewResponse) = .ok other →
        ofResult (.ok response) = .ok (ofResponse other) ∧ ¬ Uncaught (Except.ok response) := by
      rintro _ ⟨⟩
      exact ⟨rfl, hcaught⟩
    refine ⟨?_, ?_, ?_, hprints⟩ <;> rw [hstatus] <;>
      cases hallowed : response.allowed <;> simp [hallowed, hcaught]
  · have hprints : ∀ response, result = .ok response →
        ofResult result = .ok (ofResponse response) ∧ ¬ Uncaught result :=
      fun response h => absurd h (hnone response)
    -- Without a response the status is 1 or 2, by whether the failure is caught.
    rcases hstatus with ⟨hbreaks, hstatus⟩ | ⟨hcaught, hstatus⟩
    · refine ⟨?_, ?_, ?_, hprints⟩ <;> rw [hstatus] <;> simp [hnone, hbreaks]
    · refine ⟨?_, ?_, ?_, hprints⟩ <;> rw [hstatus] <;> simp [hnone, hcaught]

/-- A review of a request that no rule is about. -/
def connectReview : Json := .obj [("request", .obj [
  ("operation", .str "CONNECT"), ("kind", .obj [("kind", .str "Cluster")])])]

/-- Files with that review, and with users in a list instead of a map. -/
def listedUsers : OfflineInput where
  depth := 100
  reviewText := connectReview.text .compact
  users := some "[\x22u-1\x22]"

theorem breaksOff_listedUsers : listedUsers.BreaksOff := by
  have hread : OfflineInput.Holds listedUsers.depth listedUsers.users (.arr [.str "u-1"]) := rfl
  exact .users hread (.inl ⟨rfl, rfl⟩)

/-- The status of a denial, where no rule was asked: without the users, the same review is
allowed. -/
theorem listed_users_end_like_denial :
    programStatus listedUsers.evaluate = 1 ∧ (∀ response, ¬ listedUsers.Answers response) ∧
    programStatus ({ listedUsers with users := none } : OfflineInput).evaluate = 0 := by
  refine ⟨by decide +kernel, fun response hresponse => ?_, by decide +kernel⟩
  have hbreaks := (OfflineInput.uncaught_run listedUsers).mpr breaksOff_listedUsers
  rw [(OfflineInput.answers_iff listedUsers response).mp hresponse] at hbreaks
  exact not_uncaught_ok response hbreaks

end AdmissionControl
