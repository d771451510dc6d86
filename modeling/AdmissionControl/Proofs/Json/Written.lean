/-
  AdmissionControl.Proofs.Json.Written

  Printed JSON reads back.

  `Json.Plain` are values without floats in which no object has two members of one name, with a
  bound on their height.  If besides no text in it holds half of a surrogate pair, the text of such
  a value is read as that value, whatever the style, by any reader that goes so deep
  (`Plain.ofText_text`).

  Arrays and objects are read alike: both are a `Container`, whose fields say what the reader does
  at its brackets and commas.  So the induction over the elements is made once (`read_elements`),
  and the one over values has a case for each kind of value (`Plain.readsBack`).
-/

import AdmissionControl.Proofs.Json.Leaves
import AdmissionControl.Proofs.Json.Tokens

namespace AdmissionControl.Json

/-! ## Containers -/

/-- What the reader does with one kind of container: the brackets around it, the frame that it is
while it is open, and what may come at first and behind a comma. -/
structure Container (α : Type) where
  opening : Char
  closing : Char
  beginToken : Token
  endToken : Token
  frame : List α → Frame
  first : Expected
  next : Expected
  /-- The container of some elements. -/
  whole : List α → Json
  opening_eq : punctuation? opening = some beginToken
  closing_eq : punctuation? closing = some endToken
  step_begin : ∀ depth frames, ∀ expected ∈ [Expected.value, .valueOrEnd],
    Reading.step depth ⟨frames, expected⟩ beginToken = Reading.enter depth (frame []) first frames
  step_comma : ∀ depth done frames, Reading.step depth ⟨frame done :: frames, .commaOrEnd⟩ .comma =
    .ok ⟨frame done :: frames, next⟩
  step_end : ∀ depth done frames, Reading.step depth ⟨frame done :: frames, .commaOrEnd⟩ endToken =
    Reading.close (whole done.reverse) frames
  step_endFirst : ∀ depth frames,
    Reading.step depth ⟨frame [] :: frames, first⟩ endToken = Reading.close (whole []) frames

/-- Arrays of values. -/
def Container.array : Container Json where
  opening := '['
  closing := ']'
  beginToken := .beginArray
  endToken := .endArray
  frame := .array
  first := .valueOrEnd
  next := .value
  whole := .arr
  opening_eq := rfl
  closing_eq := rfl
  step_begin := by simp [Reading.step, Reading.beginValue]
  step_comma _ _ _ := rfl
  step_end _ _ _ := rfl
  step_endFirst _ _ := rfl

/-- Objects of members, whose names may come again. -/
def Container.object : Container (Text × Json) where
  opening := '\x7b'
  closing := '\x7d'
  beginToken := .beginObject
  endToken := .endObject
  frame := .object
  first := .nameOrEnd
  next := .name
  whole := ofMembers
  opening_eq := rfl
  closing_eq := rfl
  step_begin := by simp [Reading.step, Reading.beginValue]
  step_comma _ _ _ := rfl
  step_end _ _ _ := rfl
  step_endFirst _ _ := rfl

theorem stepChar_of_punctuation? {c : Char} {token : Token} (h : punctuation? c = some token) :
    Scan.between.stepChar c = some ([token], .between) := by
  unfold punctuation? at h
  split at h <;> cases h <;> rfl

theorem endsWord_of_punctuation? {c : Char} {token : Token} (h : punctuation? c = some token) :
    endsWord c = true := by
  rw [endsWord, h, Option.isSome_some, Bool.or_true]

theorem isSeparator_of_mem_newline {style : Style} {level : Nat} :
    ∀ c ∈ (style.newline level).toList, isSeparator c = true := by
  intro c hc
  rw [Style.newline] at hc
  split at hc
  · rw [String.toList_append] at hc
    rcases List.mem_append.mp hc with hc | hc
    · obtain rfl : c = '\n' := List.mem_singleton.mp hc
      rfl
    · rw [String.toList_ofList] at hc
      obtain rfl : c = ' ' := List.eq_of_mem_replicate hc
      rfl
  · cases hc

/-- Items behind each other: the first, and behind a comma and its blanks the others. -/
theorem toList_intercalate_comma (blanks first second : String) (more : List String) :
    (("," ++ blanks).intercalate (first :: second :: more)).toList =
      first.toList ++ ',' :: (blanks.toList ++
        (("," ++ blanks).intercalate (second :: more)).toList) := by
  rw [String.toList_intercalate, String.toList_intercalate, List.map_cons, List.map_cons,
    List.intercalate_cons_cons, String.toList_append, List.append_assoc, List.append_assoc]
  rfl

section Containers

variable {α : Type} {depth : Nat} {container : Container α} {style : Style} {frames : List Frame}
  {shape : α → String} {elements : List α} {rest : List Char}

/-- Elements that are read inside a container, each by itself. -/
def Container.Holds (container : Container α) (depth : Nat) (frames : List Frame)
    (shape : α → String) (elements : List α) : Prop :=
  ∀ a ∈ elements, ∀ done, ∀ expected ∈ [container.first, container.next], ∀ rest, EndsWord rest →
    Progress.read depth ⟨.between, ⟨container.frame done :: frames, expected⟩⟩
        ((shape a).toList ++ rest) =
      Progress.read depth ⟨.between, ⟨container.frame (a :: done) :: frames, .commaOrEnd⟩⟩ rest

/-- The elements of a container up to its end, from any elements before on. -/
theorem read_elements (h : container.Holds depth frames shape elements) (hne : elements ≠ [])
    (done : List α) (expected : Expected)
    (hexpected : expected ∈ [container.first, container.next]) (inner outer : Nat) :
    Progress.read depth ⟨.between, ⟨container.frame done :: frames, expected⟩⟩
        ((("," ++ style.newline inner).intercalate (elements.map shape)).toList ++
          ((style.newline outer).toList ++ container.closing :: rest)) =
      (Reading.close (container.whole (done.reverse ++ elements)) frames).bind fun reading =>
        Progress.read depth ⟨.between, reading⟩ rest := by
  induction elements generalizing done expected with
  | nil => exact absurd rfl hne
  | cons a more ih =>
    -- An element is read up to what ends a word: a comma, or the closing bracket.
    have hfirst := h a List.mem_cons_self done expected hexpected
    cases more with
    | nil =>
      have hclosing := stepChar_of_punctuation? container.closing_eq
      have hends : EndsWord ((style.newline outer).toList ++ container.closing :: rest) :=
        .separators isSeparator_of_mem_newline
          (endsWord_cons.mpr (endsWord_of_punctuation? container.closing_eq))
      have hwhole : (a :: done).reverse = done.reverse ++ [a] := List.reverse_cons ..
      rw [List.map_cons, List.map_nil, String.intercalate_singleton, hfirst _ hends,
        read_separators isSeparator_of_mem_newline, read_token hclosing, container.step_end, hwhole]
    -- A comma follows; the frame then holds one element more, and expects the next.
    | cons b more =>
      have hmore := ih (fun c hc => h c (List.mem_cons_of_mem _ hc)) (by simp) (a :: done)
        container.next (by simp)
      have hcomma : Scan.between.stepChar ',' = some ([.comma], .between) := rfl
      have hwhole : (a :: done).reverse ++ b :: more = done.reverse ++ a :: b :: more := by simp
      rw [List.map_cons, List.map_cons, toList_intercalate_comma, ← List.map_cons,
        List.append_assoc, List.cons_append, hfirst _ (endsWord_cons.mpr rfl), read_token hcomma,
        container.step_comma]
      show Progress.read depth ⟨.between, ⟨_, container.next⟩⟩ _ = _
      rw [List.append_assoc, read_separators isSeparator_of_mem_newline, hmore, hwhole]

/-- A container is read as the whole of its elements, if it may be entered and each element is
read. -/
theorem read_bracketed (h : container.Holds depth frames shape elements)
    (hdepth : frames.length < depth) {expected : Expected}
    (hexpected : expected ∈ [Expected.value, .valueOrEnd]) (level : Nat) :
    Progress.read depth ⟨.between, ⟨frames, expected⟩⟩
        ((bracketed style level (.singleton container.opening) (.singleton container.closing)
          (elements.map shape)).toList ++ rest) =
      (Reading.close (container.whole elements) frames).bind fun reading =>
        Progress.read depth ⟨.between, reading⟩ rest := by
  have hopening := stepChar_of_punctuation? container.opening_eq
  have hclosing := stepChar_of_punctuation? container.closing_eq
  have henter : Reading.enter depth (container.frame []) container.first frames =
      .ok ⟨container.frame [] :: frames, container.first⟩ := if_pos hdepth
  have hopened (cs : List Char) :
      Progress.read depth ⟨.between, ⟨frames, expected⟩⟩ (container.opening :: cs) =
        Progress.read depth ⟨.between, ⟨container.frame [] :: frames, container.first⟩⟩ cs := by
    rw [read_token hopening, container.step_begin depth frames expected hexpected, henter]
    rfl
  -- Without elements the closing bracket stands right behind the opening one.
  by_cases hne : elements = []
  · subst hne
    rw [List.map_nil, bracketed, if_pos List.isEmpty_nil, String.toList_append, List.append_assoc]
    simp only [String.toList_singleton, List.singleton_append]
    rw [hopened, read_token hclosing, container.step_endFirst]
  · have hitems : (elements.map shape).isEmpty = false := by simpa using hne
    rw [bracketed, hitems, if_neg (by decide)]
    simp only [String.toList_append, String.toList_singleton, List.append_assoc,
      List.singleton_append]
    rw [List.cons_append, hopened, read_separators isSeparator_of_mem_newline]
    exact read_elements h hne [] container.first (by simp) (level + 1) level

end Containers

/-! ## Values that read back -/

/-- A name that is not there yet is put behind the others. -/
theorem put_of_not_mem {α : Type} {name : Text} (value : α) {entries : Entries α}
    (h : name ∉ entries.map Prod.fst) :
    Entries.put name value entries = entries ++ [(name, value)] := by
  induction entries with
  | nil => rfl
  | cons entry rest ih =>
    obtain ⟨key, old⟩ := entry
    rw [List.map_cons, List.mem_cons, not_or] at h
    rw [Entries.put, if_neg (Ne.symm h.1), ih h.2, List.cons_append]

theorem foldl_put_of_nodup {α : Type} (written entries : Entries α)
    (h : ((entries ++ written).map Prod.fst).Nodup) :
    written.foldl (fun entries entry => Entries.put entry.1 entry.2 entries) entries =
      entries ++ written := by
  induction written generalizing entries with
  | nil => rw [List.append_nil, List.foldl_nil]
  | cons entry rest ih =>
    have hmoved : entries ++ entry :: rest = entries ++ [entry] ++ rest := List.append_cons ..
    have hnew : entry.1 ∉ entries.map Prod.fst := by
      rw [List.map_append, List.map_cons] at h
      exact fun hmem => (List.nodup_append.mp h).2.2 _ hmem _ List.mem_cons_self rfl
    rw [List.foldl_cons, put_of_not_mem _ hnew, hmoved]
    exact ih _ (hmoved ▸ h)

/-- Members whose names come once make the object of just these members. -/
theorem ofMembers_of_nodup {members : List (Text × Json)} (h : (members.map Prod.fst).Nodup) :
    ofMembers members = .obj members :=
  congrArg Json.obj (foldl_put_of_nodup members [] h)

/-- Values without floats whose integers are not too long and whose members have different names;
containers in them stand in each other to a height. -/
inductive Plain : Nat → Json → Prop
  | null {height : Nat} : Plain height .null
  | bool {height : Nat} (b : Bool) : Plain height (.bool b)
  | int {height : Nat} {n : Int} (h : (Nat.toDigits 10 n.natAbs).length ≤ greatestDigitCount) :
      Plain height (.int n)
  | str {height : Nat} (s : Text) : Plain height (.str s)
  | arr {height : Nat} {items : List Json} (h : ∀ item ∈ items, Plain height item) :
      Plain (height + 1) (.arr items)
  | obj {height : Nat} {members : List (Text × Json)} (hnames : (members.map Prod.fst).Nodup)
      (h : ∀ member ∈ members, Plain height member.2) : Plain (height + 1) (.obj members)

theorem renderItems_eq_map (style : Style) (level : Nat) (items : List Json) :
    renderItems style level items = items.map (render style level) := by
  induction items with
  | nil => rw [renderItems, List.map_nil]
  | cons item rest ih => rw [renderItems, ih, List.map_cons]

/-- A member as JSON: its name, a colon and its value. -/
def renderMember (style : Style) (level : Nat) (member : Text × Json) : String :=
  renderText style.asciiOnly member.1 ++ style.colon ++ render style level member.2

theorem renderMembers_eq_map (style : Style) (level : Nat) (members : List (Text × Json)) :
    renderMembers style level members = members.map (renderMember style level) := by
  induction members with
  | nil => rw [renderMembers, List.map_nil]
  | cons member rest ih => rw [renderMembers, ih, List.map_cons, renderMember]

/-- A value is read inside the given containers, however it is written. -/
def ReadsBack (depth : Nat) (j : Json) (frames : List Frame) : Prop :=
  ∀ style level, ∀ expected ∈ [Expected.value, .valueOrEnd], ∀ rest, EndsWord rest →
    Progress.read depth ⟨.between, ⟨frames, expected⟩⟩ ((j.render style level).toList ++ rest) =
      (Reading.close j frames).bind fun reading => Progress.read depth ⟨.between, reading⟩ rest

variable {depth : Nat}

/-- A word that denotes a value. -/
theorem readsBack_word {j : Json} {word : String} (frames : List Frame)
    (hrender : ∀ style level, j.render style level = word) (hne : word.toList ≠ [])
    (hword : word.toList.any endsWord = false) (hread : readWord word.toList = .ok j) :
    ReadsBack depth j frames := by
  intro style level expected hexpected rest hrest
  simp only [List.any_eq_false, Bool.not_eq_true] at hword
  have hstep : Reading.step depth ⟨frames, expected⟩ (.word (.ok j)) = Reading.close j frames := by
    simp only [List.mem_cons, List.not_mem_nil, or_false] at hexpected
    rcases hexpected with rfl | rfl <;> rfl
  rw [hrender, read_word hne hword hrest, hread, hstep]

theorem readsBack_int {n : Int} (h : (Nat.toDigits 10 n.natAbs).length ≤ greatestDigitCount)
    (frames : List Frame) : ReadsBack depth (.int n) frames := by
  have hword : (toString n).toList.any endsWord = false := by
    simp only [List.any_eq_false, Bool.not_eq_true]
    exact fun c hc => endsWord_of_number (isDigit_or_minus_of_mem_toString hc)
  exact readsBack_word frames (fun style level => by rw [render]) (toList_toString_ne_nil n) hword
    (readWord_toString h)

theorem readsBack_str (cs : List Char) (frames : List Frame) :
    ReadsBack depth (.str (.ofChars cs)) frames := by
  intro style level expected hexpected rest _
  have hstep : Reading.step depth ⟨frames, expected⟩ (.text (.ofChars cs)) =
      Reading.close (.str (.ofChars cs)) frames := by
    simp only [List.mem_cons, List.not_mem_nil, or_false] at hexpected
    rcases hexpected with rfl | rfl <;> rfl
  rw [render, read_renderText, hstep]

/-- An array is read if its items are read inside of it. -/
theorem readsBack_arr {items : List Json} {frames : List Frame}
    (hdepth : frames.length < depth)
    (h : ∀ item ∈ items, ∀ done, ReadsBack depth item (.array done :: frames)) :
    ReadsBack depth (.arr items) frames := by
  intro style level expected hexpected rest _
  have hitems : Container.array.Holds depth frames (render style (level + 1)) items := by
    intro item hitem done expected hexpected rest hrest
    have hvalue : expected ∈ [Expected.value, .valueOrEnd] := by
      simpa [Container.array, or_comm] using hexpected
    exact h item hitem done style (level + 1) expected hvalue rest hrest
  rw [render, renderItems_eq_map]
  exact read_bracketed hitems hdepth hexpected level

/-- An object is read if the values of its members are read inside of it. -/
theorem readsBack_obj {members : List (Text × Json)} {frames : List Frame}
    (hdepth : frames.length < depth) (hnames : (members.map Prod.fst).Nodup)
    (htexts : ∀ member ∈ members, ∃ cs, member.1 = .ofChars cs)
    (h : ∀ member ∈ members, ∀ done, ReadsBack depth member.2 (.member done member.1 :: frames)) :
    ReadsBack depth (.obj members) frames := by
  intro style level expected hexpected rest _
  -- A member is its name, a colon and its value; the brackets and commas are as for an array.
  have hmembers : Container.object.Holds depth frames (renderMember style (level + 1)) members := by
    intro member hmember done expected hexpected rest hrest
    obtain ⟨name, value⟩ := member
    obtain ⟨cs, hname⟩ := htexts _ hmember
    obtain rfl : name = .ofChars cs := hname
    -- Where a member may begin, a text is its name.
    have hstep : Reading.step depth ⟨.object done :: frames, expected⟩ (.text (.ofChars cs)) =
        .ok ⟨.member done (.ofChars cs) :: frames, .colon⟩ := by
      simp only [Container.object, List.mem_cons, List.not_mem_nil, or_false] at hexpected
      rcases hexpected with rfl | rfl <;> rfl
    have hcolon : style.colon.toList = ':' :: if style.indented then [' '] else [] := by
      rw [Style.colon]
      split <;> rfl
    have hblanks : ∀ c ∈ (if style.indented then [' '] else [] : List Char),
        isSeparator c = true := by
      split <;> simp [isSeparator]
    have hpunctuation : Scan.between.stepChar ':' = some ([.colon], .between) := rfl
    have hvalue := h _ hmember done style (level + 1) .value (by simp) rest hrest
    rw [renderMember, String.toList_append, String.toList_append, List.append_assoc,
      List.append_assoc]
    show Progress.read depth ⟨.between, ⟨.object done :: frames, expected⟩⟩ _ = _
    rw [read_renderText, hstep, hcolon, List.cons_append]
    show Progress.read depth ⟨.between, ⟨_, .colon⟩⟩ _ = _
    rw [read_token hpunctuation]
    show Progress.read depth ⟨.between, ⟨_, .value⟩⟩ _ = _
    rw [read_separators hblanks, hvalue]
    rfl
  rw [render, renderMembers_eq_map, ← ofMembers_of_nodup hnames]
  exact read_bracketed hmembers hdepth hexpected level

/-- A plain value is read inside containers that leave room for its height, if its texts are of
characters. -/
theorem Plain.readsBack {height : Nat} {j : Json} (h : Plain height j)
    (hsent : j.isEncodable = true) (frames : List Frame)
    (hdepth : height + frames.length ≤ depth) : ReadsBack depth j frames := by
  induction h generalizing frames with
  | null => exact readsBack_word frames (fun _ _ => by rw [render]) (by decide) (by decide) rfl
  | bool b =>
    cases b with
    | false =>
      exact readsBack_word frames (fun _ _ => by rw [render]) (by decide) (by decide) rfl
    | true =>
      exact readsBack_word frames (fun _ _ => by rw [render]) (by decide) (by decide) rfl
  | int hdigits => exact readsBack_int hdigits frames
  | str s =>
    obtain ⟨cs, rfl⟩ := Text.exists_ofChars hsent
    exact readsBack_str cs frames
  | arr _ ih =>
    have hitems := allLeaves_arr.mp hsent
    -- One frame more, and one level less for the items below it.
    refine readsBack_arr (by omega) fun item hitem done => ?_
    exact ih item hitem (hitems item hitem) _ (by rw [List.length_cons]; omega)
  | obj hnames _ ih =>
    have hmembers := allLeaves_obj.mp hsent
    refine readsBack_obj (by omega) hnames
      (fun member hmember => Text.exists_ofChars (hmembers member hmember).1)
      fun member hmember done => ?_
    exact ih member hmember (hmembers member hmember).2 _ (by rw [List.length_cons]; omega)

/-- The text of a plain value is read as that value, in any style and with any blanks behind. -/
theorem Plain.ofText_text {height : Nat} {j : Json} (h : Plain height j)
    (hsent : j.isEncodable = true) (hdepth : height ≤ depth) (style : Style)
    {blanks : String} (hblanks : ∀ c ∈ blanks.toList, isSeparator c = true) :
    ofText depth (.ofString (j.text style ++ blanks)) = .ok j := by
  have hends : EndsWord (blanks.toList ++ []) := .separators hblanks endsWord_nil
  have hread := h.readsBack hsent [] hdepth style 0 .value (by simp) _ hends
  have hnothing : Progress.read depth ⟨.between, ⟨[], .nothing j⟩⟩ (blanks.toList ++ []) = .ok j :=
    read_separators hblanks
  rw [Text.ofString, ofText_ofChars, String.toList_append]
  rw [List.append_nil] at hread hnothing
  exact hread.trans hnothing

end AdmissionControl.Json
