/-
  AdmissionControl.Proofs.Url.Segment

  Names that are one segment of a path.

  A name that is put behind a folder without being escaped is one segment there only if it has no
  separator of a URL in it, is no dot segment and has no percent escape (`IsSegment`).  For such a
  name the target is the folder with the encoded name behind it (`target_of_isSegment`), and that
  segment is decoded to the name.  For any other name the target is not the folder with a segment
  that is decoded to the name (`isSegment_of_addresses`): the path loses whatever is behind a
  separator, and what is decoded from an escape is shorter, so no segment of it gives all of the
  name back.
-/

import AdmissionControl.Proofs.Url.Folder

namespace AdmissionControl.Url

/-! ## References behind a folder -/

theorem takeWhile_append_of_not_mem {separator : Char} {cs : List Char} (h : separator ∉ cs)
    (rest : List Char) :
    (cs ++ rest).takeWhile (· != separator) = cs ++ rest.takeWhile (· != separator) :=
  List.takeWhile_append_of_pos fun _ hc => bne_iff_ne.mpr fun heq => h (heq ▸ hc)

theorem not_mem_takeWhile (separator : Char) (cs : List Char) :
    separator ∉ cs.takeWhile (· != separator) := by
  intro hmem
  have hother := List.all_eq_true.mp (List.all_takeWhile (p := (· != separator)) (l := cs)) _ hmem
  exact bne_iff_ne.mp hother rfl

/-- What is not a question mark stands before the query. -/
theorem splitQuery_append_of_not_mem {cs : List Char} (h : '?' ∉ cs) (rest : List Char) :
    splitQuery (cs ++ rest) = (cs ++ (splitQuery rest).1, (splitQuery rest).2) := by
  have hdrop : (cs ++ rest).dropWhile (· != '?') = rest.dropWhile (· != '?') :=
    List.dropWhile_append_of_pos fun _ hc => bne_iff_ne.mpr fun heq => h (heq ▸ hc)
  rw [splitQuery, splitQuery, takeWhile_append_of_not_mem h, hdrop]

theorem splitQuery_mark (query : Option (List Char)) :
    splitQuery ((query.map ('?' :: ·)).getD []) = ([], query) := by
  cases query <;> rfl

/-- A text that is read has no control characters and is not too long. -/
theorem valid_of_read? {cs : List Char} {url : Url} (h : read? cs = some url) :
    (∀ c ∈ cs, isControl c = false) ∧ cs.length ≤ greatestLength := by
  rw [read?] at h
  split at h
  · cases h
  · next hvalid =>
    rw [Bool.or_eq_true, not_or, decide_eq_true_eq, List.any_eq_true] at hvalid
    refine ⟨fun c hc => Bool.eq_false_iff.mpr fun hcontrol => hvalid.2 ⟨c, hc, hcontrol⟩, ?_⟩
    omega

theorem IsFolder.not_mem {folder : List Char} {c : Char} (h : IsFolder folder)
    (hc : Text.isPathSafe c = false) : c ∉ folder := by
  intro hmem
  rw [h.safe c hmem] at hc
  cases hc

/-- The path that a name gives: what stands before a number sign and a question mark. -/
def namePath (name : List Char) : List Char := (splitQuery (name.takeWhile (· != '#'))).1

/-- The query that a name gives, if there is a question mark before any number sign. -/
def nameQuery? (name : List Char) : Option (List Char) :=
  (splitQuery (name.takeWhile (· != '#'))).2

variable {base url : Url} {dir more name : List Char}

/-- The target of a reference that is a folder with a name behind it. -/
theorem target_ofPath (hdir : IsFolder dir) (name : List Char) :
    (ofPath ('/' :: dir ++ name)).target =
      '/' :: dir ++ Text.percentEncode Text.isPathSafe (namePath name) ++
        (((nameQuery? name).map (Text.percentEncode Text.isQuerySafe)).map ('?' :: ·)).getD [] := by
  have hnumber : '#' ∉ '/' :: dir :=
    List.not_mem_cons_of_ne_of_not_mem (by decide) (hdir.not_mem (by decide))
  have hmark : '?' ∉ '/' :: dir :=
    List.not_mem_cons_of_ne_of_not_mem (by decide) (hdir.not_mem (by decide))
  have hsafe : Text.percentEncode Text.isPathSafe ('/' :: dir) = '/' :: dir := by
    refine Text.percentEncode_of_safe (List.forall_mem_cons.mpr ⟨by decide, hdir.safe⟩)
  rw [target, ofPath, takeWhile_append_of_not_mem hnumber, splitQuery_append_of_not_mem hmark]
  simp only [Text.percentEncode_append, hsafe]
  rfl

/-- A path that is followed goes on behind the target of the base. -/
theorem withTarget?_of_follow
    (h : base.follow (Text.ofChars ('/' :: 'a' :: more)) = .ok url) :
    base.withTarget? (base.target ++ (ofPath ('/' :: 'a' :: more)).target.dropWhile (· == '/')) =
      some url := by
  rw [follow, Text.chars?_ofChars] at h
  dsimp only at h
  split at h
  · next followed hresolve =>
    obtain rfl := Except.ok.inj h
    obtain ⟨relative, hread, hgo⟩ := Option.bind_eq_some_iff.mp hresolve
    obtain ⟨hcontrol, hlength⟩ := valid_of_read? hread
    rw [read?_path hcontrol hlength] at hread
    obtain rfl := Option.some.inj hread
    exact hgo
  · cases h

/-- A name behind a folder leads from a base to the normal form of the path with all of them, and
to a query if the name gives one. -/
theorem path_of_follow (hscheme : base.scheme ≠ []) (hbase : IsFolder base.target)
    (hdir : IsFolder dir) (hfirst : dir = 'a' :: more)
    (h : base.follow (Text.ofChars ('/' :: dir ++ name)) = .ok url) :
    url.path = removeDots (base.target ++ dir ++
        Text.percentEncode Text.isPathSafe (namePath name)) ∧
      url.query.isSome = (nameQuery? name).isSome := by
  have hgo : base.withTarget? (base.target ++
      (ofPath ('/' :: dir ++ name)).target.dropWhile (· == '/')) = some url := by
    subst hfirst
    exact withTarget?_of_follow h
  have hdrop : ('/' :: dir ++ Text.percentEncode Text.isPathSafe (namePath name) ++
      (((nameQuery? name).map (Text.percentEncode Text.isQuerySafe)).map ('?' :: ·)).getD
        []).dropWhile (· == '/') =
      dir ++ Text.percentEncode Text.isPathSafe (namePath name) ++
        (((nameQuery? name).map (Text.percentEncode Text.isQuerySafe)).map ('?' :: ·)).getD [] := by
    rw [hfirst]
    rfl
  have hsafe : ∀ c ∈ base.target ++ dir ++ Text.percentEncode Text.isPathSafe (namePath name),
      Text.isPathSafe c = true :=
    List.forall_mem_append.mpr ⟨(hbase.append hdir).safe,
      fun _ => Text.isPathSafe_of_mem_percentEncode⟩
  -- The path has no question mark, so it ends where the query of the name begins.
  have hmark : '?' ∉ base.target ++ dir ++ Text.percentEncode Text.isPathSafe (namePath name) :=
    fun hmem => absurd (hsafe '?' hmem) (by decide)
  rw [target_ofPath hdir, hdrop, ← List.append_assoc, ← List.append_assoc] at hgo
  obtain ⟨hpath, hquery⟩ := withTarget?_eq_some hgo hscheme
  rw [splitQuery_append_of_not_mem hmark, splitQuery_mark] at hpath hquery
  rw [hpath, hquery, List.append_nil, percentEncode_removeDots hsafe, Option.isSome_map,
    Option.isSome_map]
  exact ⟨rfl, rfl⟩

/-! ## Names as segments -/

/-- A name that goes into a path as one segment and comes back from it: none of its characters
separates the parts of a URL, no escape is in it, and it is no dot segment. -/
structure IsSegment (name : List Char) : Prop where
  nonempty : name ≠ []
  slash : '/' ∉ name
  mark : '?' ∉ name
  number : '#' ∉ name
  escape : Text.hasEscape name = false
  dots : ¬ IsDots name

/-- A target is a folder with a single segment behind it, which is decoded to a name, and has no
query. -/
def Addresses (folder target name : List Char) : Prop :=
  ∃ segment, target = folder ++ segment ∧ segment ≠ [] ∧ '/' ∉ segment ∧ '?' ∉ segment ∧
    '#' ∉ segment ∧ Text.percentDecode segment = name

/-- The encoding of a path has no more separators than the path. -/
theorem not_mem_percentEncode {cs : List Char} {c : Char} (h : c ∉ cs) (hpercent : c ≠ '%')
    (hdigit : Text.hexValue? c = none) : c ∉ Text.percentEncode Text.isPathSafe cs := by
  intro hmem
  rcases Text.mem_percentEncode hmem with ⟨hmem, -⟩ | heq | hsome
  · exact h hmem
  · exact hpercent heq
  · rw [hdigit] at hsome
    cases hsome

theorem isDots_of_percentEncode {cs : List Char}
    (h : IsDots (Text.percentEncode Text.isPathSafe cs)) : IsDots cs := by
  have hpercent : '%' ∉ Text.percentEncode Text.isPathSafe cs := by
    rcases h with h | h <;> rw [h] <;> decide
  rw [Text.eq_of_percentEncode rfl hpercent]
  exact h

theorem namePath_of_not_mem (hmark : '?' ∉ name) (hnumber : '#' ∉ name) :
    namePath name = name ∧ nameQuery? name = none := by
  have hinside := takeWhile_append_of_not_mem hnumber []
  have hsplit := splitQuery_append_of_not_mem hmark []
  rw [List.append_nil, List.takeWhile_nil, List.append_nil] at hinside
  rw [List.append_nil] at hsplit
  rw [namePath, nameQuery?, hinside, hsplit]
  exact ⟨List.append_nil _, rfl⟩

/-- A name with a path of its own length is all path. -/
theorem not_mem_of_namePath (hlength : name.length ≤ (namePath name).length) :
    namePath name = name ∧ '?' ∉ name ∧ '#' ∉ name := by
  have hinside : (namePath name).Sublist (name.takeWhile (· != '#')) :=
    List.takeWhile_sublist _
  have hwhole := List.takeWhile_sublist (p := (· != '#')) (l := name)
  have hname := hwhole.eq_of_length_le (Nat.le_trans hlength hinside.length_le)
  have hpath : namePath name = name := (hinside.trans hwhole).eq_of_length_le hlength
  refine ⟨hpath, ?_, ?_⟩
  · rw [← hpath]
    exact not_mem_takeWhile '?' _
  · rw [← hname]
    exact not_mem_takeWhile '#' _

/-- A target without a question mark and of more than a slash is the path. -/
theorem path_of_target {target : List Char} (htarget : url.target = target) (hmark : '?' ∉ target)
    (hmore : target ≠ ['/']) : url.path = target := by
  rw [Url.target] at htarget
  cases hquery : url.query with
  | some query =>
    rw [hquery] at htarget
    -- A query would show its mark in the target.
    refine absurd ?_ hmark
    rw [← htarget]
    exact List.mem_append_right _ List.mem_cons_self
  | none =>
    rw [hquery, Option.map_none, Option.getD_none, List.append_nil] at htarget
    split at htarget
    · exact absurd htarget.symm hmore
    · exact htarget

section Follow

variable (hscheme : base.scheme ≠ []) (hbase : IsFolder base.target) (hdir : IsFolder dir)
  (hfirst : dir = 'a' :: more) (h : base.follow (Text.ofChars ('/' :: dir ++ name)) = .ok url)
include hscheme hbase hdir hfirst h

/-- A name that is a segment stays, encoded, as the one segment behind the folder. -/
theorem target_of_isSegment (hname : IsSegment name) :
    url.target = base.target ++ dir ++ Text.percentEncode Text.isPathSafe name := by
  obtain ⟨front, hfolder, hfront⟩ := (hbase.append hdir).front
  obtain ⟨hpath, hquery⟩ := path_of_follow hscheme hbase hdir hfirst h
  obtain ⟨hwhole, hnone⟩ := namePath_of_not_mem hname.mark hname.number
  have hslash := not_mem_percentEncode hname.slash (by decide) (by decide)
  have hdots : ¬ IsDots (Text.percentEncode Text.isPathSafe name) :=
    fun hdots => hname.dots (isDots_of_percentEncode hdots)
  rw [hwhole, hfolder, List.append_assoc, List.singleton_append,
    removeDots_append_segment hfront hslash hdots] at hpath
  rw [hnone, Option.isSome_none, Option.isSome_eq_false_iff, Option.isNone_iff_eq_none] at hquery
  rw [target, hpath, hquery, hfolder, if_neg (by simp)]
  simp

/-- Only a name that is a segment gives a target that addresses it. -/
theorem isSegment_of_addresses (haddresses : Addresses (base.target ++ dir) url.target name) :
    IsSegment name := by
  obtain ⟨segment, htarget, hnonempty, hslash, hmark, hnumber, hdecoded⟩ := haddresses
  obtain ⟨front, hfolder, hfront⟩ := (hbase.append hdir).front
  obtain ⟨hpath, -⟩ := path_of_follow hscheme hbase hdir hfirst h
  have hplain : '?' ∉ base.target ++ dir ++ segment := by
    rw [List.mem_append, not_or]
    exact ⟨(hbase.append hdir).not_mem (by decide), hmark⟩
  have hmore : base.target ++ dir ++ segment ≠ ['/'] := by
    intro hone
    have hmem : 'a' ∈ base.target ++ dir ++ segment := by simp [hfirst]
    rw [hone] at hmem
    revert hmem
    decide
  rw [path_of_target htarget hplain hmore, hfolder, List.append_assoc, List.append_assoc,
    List.singleton_append, List.singleton_append, eq_comm] at hpath
  -- The segment is the encoding of a segment of the name's path.
  obtain ⟨hmem, hdots⟩ := mem_of_removeDots_append hfront hslash hpath
  rw [Text.splitOn_percentEncode] at hmem
  obtain ⟨original, horiginal, rfl⟩ := List.mem_map.mp hmem
  obtain ⟨hsublist, horiginalSlash⟩ := sublist_of_mem_splitOn horiginal
  -- Decoding gives no more than that segment, so this is all of the name.
  have hlength := Text.length_percentDecode_encode_le original
  rw [hdecoded] at hlength
  obtain ⟨hnamePath, hnameMark, hnameNumber⟩ :=
    not_mem_of_namePath (Nat.le_trans hlength hsublist.length_le)
  rw [hnamePath] at hsublist
  obtain rfl := hsublist.eq_of_length_le hlength
  refine ⟨?_, horiginalSlash, hnameMark, hnameNumber,
    (Text.percentDecode_encode_iff original).mp hdecoded, ?_⟩
  · rintro rfl
    exact hnonempty rfl
  · intro hnameDots
    have hsafe : Text.percentEncode Text.isPathSafe original = original := by
      rcases hnameDots with rfl | rfl <;> decide
    exact hdots (hsafe.symm ▸ hnameDots)

/-- A target addresses the name that it is made with exactly when that name is a segment. -/
theorem addresses_iff_isSegment :
    Addresses (base.target ++ dir) url.target name ↔ IsSegment name := by
  refine ⟨isSegment_of_addresses hscheme hbase hdir hfirst h, fun hname => ?_⟩
  refine ⟨Text.percentEncode Text.isPathSafe name,
    target_of_isSegment hscheme hbase hdir hfirst h hname, fun hnil => ?_,
    not_mem_percentEncode hname.slash (by decide) (by decide),
    not_mem_percentEncode hname.mark (by decide) (by decide),
    not_mem_percentEncode hname.number (by decide) (by decide),
    (Text.percentDecode_encode_iff name).mpr hname.escape⟩
  exact hname.nonempty (Text.eq_of_percentEncode hnil List.not_mem_nil)

end Follow

end AdmissionControl.Url
