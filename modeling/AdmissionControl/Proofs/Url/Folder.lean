/-
  AdmissionControl.Proofs.Url.Folder

  Paths behind a folder.

  A folder is the text of a target that ends with a slash and is in its normal form: its characters
  are those that stand for themselves in a path, and none of its segments is a dot segment.  The
  base of a client is one (`isFolder_of_make`), as is a base with a few segments of its own behind
  it (`IsFolder.append`).

  Behind a folder a single segment stays as it is (`removeDots_append_segment`).  Conversely, where
  the normal form of a path is the folder with one segment behind it, that segment was a segment of
  the path (`mem_of_removeDots_append`): dot segments only ever leave segments out
  (`foldl_keepSegment_sublist`).
-/

import AdmissionControl.Proofs.ApiServer.Requests
import AdmissionControl.Proofs.Text.Percent

namespace AdmissionControl.Url

/-! ## Dot segments -/

/-- A segment that does not stand for a part of the path. -/
def IsDots (segment : List Char) : Prop := segment = ['.'] ∨ segment = ['.', '.']

instance (segment : List Char) : Decidable (IsDots segment) :=
  inferInstanceAs (Decidable (segment = ['.'] ∨ segment = ['.', '.']))

/-- The segments kept after one more. -/
def keepSegment (kept : List (List Char)) (segment : List Char) : List (List Char) :=
  if segment = ['.'] then kept
  else if segment = ['.', '.'] then
    if kept.isEmpty || kept = [[]] then kept else kept.dropLast
  else kept ++ [segment]

theorem removeDots_eq (path : List Char) :
    removeDots path = ['/'].intercalate ((path.splitOn '/').foldl keepSegment []) := rfl

theorem keepSegment_of_not_isDots {segment : List Char} (h : ¬ IsDots segment)
    (kept : List (List Char)) : keepSegment kept segment = kept ++ [segment] := by
  rw [IsDots, not_or] at h
  rw [keepSegment, if_neg h.1, if_neg h.2]

/-- A dot segment adds nothing, and may take the last segment away. -/
theorem keepSegment_of_isDots {segment : List Char} (h : IsDots segment)
    (kept : List (List Char)) : (keepSegment kept segment).Sublist kept := by
  rcases h with rfl | rfl
  · exact List.Sublist.refl _
  · rw [keepSegment, if_neg (by decide), if_pos rfl]
    split
    · exact List.Sublist.refl _
    · exact List.dropLast_sublist _

theorem foldl_keepSegment_of_dotless {segments : List (List Char)}
    (h : ∀ segment ∈ segments, ¬ IsDots segment) (kept : List (List Char)) :
    segments.foldl keepSegment kept = kept ++ segments := by
  induction segments generalizing kept with
  | nil => rw [List.foldl_nil, List.append_nil]
  | cons segment rest ih =>
    rw [List.forall_mem_cons] at h
    rw [List.foldl_cons, keepSegment_of_not_isDots h.1, ih h.2, List.append_assoc,
      List.singleton_append]

/-- What is kept is some of the segments, in their order. -/
theorem foldl_keepSegment_sublist (segments kept : List (List Char)) :
    (segments.foldl keepSegment kept).Sublist (kept ++ segments) := by
  induction segments generalizing kept with
  | nil => simp
  | cons segment rest ih =>
    refine (ih (keepSegment kept segment)).trans ?_
    by_cases hdots : IsDots segment
    · exact (keepSegment_of_isDots hdots kept).append (List.sublist_cons_self segment rest)
    · have hall : keepSegment kept segment ++ rest = kept ++ segment :: rest := by
        rw [keepSegment_of_not_isDots hdots, List.append_assoc, List.singleton_append]
      exact hall ▸ List.Sublist.refl _

/-- No dot segment is kept. -/
theorem not_isDots_of_mem_foldl (segments kept : List (List Char))
    (hkept : ∀ segment ∈ kept, ¬ IsDots segment) :
    ∀ segment ∈ segments.foldl keepSegment kept, ¬ IsDots segment := by
  induction segments generalizing kept with
  | nil => exact hkept
  | cons first rest ih =>
    refine ih (keepSegment kept first) fun segment hsegment => ?_
    by_cases hdots : IsDots first
    · exact hkept segment ((keepSegment_of_isDots hdots kept).subset hsegment)
    · rw [keepSegment_of_not_isDots hdots, List.mem_append, List.mem_singleton] at hsegment
      rcases hsegment with hmem | rfl
      · exact hkept segment hmem
      · exact hdots

/-! ## Segments of paths -/

/-- A segment is some of the characters of its path, and has no slash. -/
theorem sublist_of_mem_splitOn {path segment : List Char} (h : segment ∈ path.splitOn '/') :
    segment.Sublist path ∧ '/' ∉ segment := by
  induction path generalizing segment with
  | nil =>
    obtain rfl := List.mem_singleton.mp h
    exact ⟨List.Sublist.refl _, List.not_mem_nil⟩
  | cons c rest ih =>
    rw [List.splitOn_cons_eq_if_modifyHead] at h
    split at h
    · rcases List.mem_cons.mp h with rfl | hrest
      · exact ⟨List.nil_sublist _, List.not_mem_nil⟩
      · exact ⟨(ih hrest).1.cons c, (ih hrest).2⟩
    · next hslash =>
      -- The character joins the first segment of the rest.
      cases hsegments : rest.splitOn '/' with
      | nil => exact absurd hsegments (List.splitOn_ne_nil _ _)
      | cons first more =>
        rw [hsegments, List.modifyHead_cons, List.mem_cons] at h
        rcases h with rfl | hmore
        · obtain ⟨hsublist, hmem⟩ := ih (hsegments ▸ List.mem_cons_self)
          refine ⟨hsublist.cons_cons c, fun hc => ?_⟩
          rcases List.mem_cons.mp hc with rfl | hc
          · exact hslash BEq.rfl
          · exact hmem hc
        · obtain ⟨hsublist, hmem⟩ := ih (hsegments ▸ List.mem_cons_of_mem _ hmore)
          exact ⟨hsublist.cons c, hmem⟩

/-- A character of a path is a slash or stands in a segment. -/
theorem mem_segment_of_mem {path : List Char} {c : Char} (h : c ∈ path) :
    c = '/' ∨ ∃ segment ∈ path.splitOn '/', c ∈ segment := by
  induction path with
  | nil => cases h
  | cons d rest ih =>
    rw [List.splitOn_cons_eq_if_modifyHead]
    split
    · next hslash =>
      rcases List.mem_cons.mp h with rfl | hrest
      · exact .inl (beq_iff_eq.mp hslash)
      · refine (ih hrest).imp_right fun ⟨segment, hsegment, hc⟩ => ?_
        exact ⟨segment, List.mem_cons_of_mem _ hsegment, hc⟩
    · -- The character joins the first segment of the rest.
      cases hsegments : rest.splitOn '/' with
      | nil => exact absurd hsegments (List.splitOn_ne_nil _ _)
      | cons first more =>
        rw [List.modifyHead_cons]
        rcases List.mem_cons.mp h with rfl | hrest
        · exact .inr ⟨c :: first, List.mem_cons_self, List.mem_cons_self⟩
        · refine (ih hrest).imp_right fun ⟨segment, hsegment, hc⟩ => ?_
          rw [hsegments] at hsegment
          rcases List.mem_cons.mp hsegment with rfl | hmore
          · exact ⟨d :: segment, List.mem_cons_self, List.mem_cons_of_mem _ hc⟩
          · exact ⟨segment, List.mem_cons_of_mem _ hmore, hc⟩

/-- The segments of a path behind a slash come behind those before it. -/
theorem splitOn_append_slash (front path : List Char) :
    (front ++ '/' :: path).splitOn '/' = front.splitOn '/' ++ path.splitOn '/' :=
  List.splitOn_append_cons_self front path

/-- Segments that are kept are those of the path that they make. -/
theorem splitOn_intercalate {kept : List (List Char)} {path : List Char} (hne : kept ≠ [])
    (h : kept.Sublist (path.splitOn '/')) : (['/'].intercalate kept).splitOn '/' = kept :=
  List.splitOn_intercalate '/'
    (fun _ hmem => (sublist_of_mem_splitOn (h.subset hmem)).2) hne

/-! ## Paths in their normal form -/

/-- The segments of the normal form of a path are the ones kept; a path of which none is kept has
one empty segment. -/
theorem splitOn_removeDots (path : List Char) :
    (removeDots path).splitOn '/' =
      if (path.splitOn '/').foldl keepSegment [] = [] then [[]]
      else (path.splitOn '/').foldl keepSegment [] := by
  rw [removeDots_eq]
  split
  · next hnil => rw [hnil]; rfl
  · next hne => exact splitOn_intercalate hne (foldl_keepSegment_sublist _ [])

/-- The normal form of a path has no dot segments. -/
theorem not_isDots_removeDots (path : List Char) :
    ∀ segment ∈ (removeDots path).splitOn '/', ¬ IsDots segment := by
  rw [splitOn_removeDots]
  split
  · decide
  · exact not_isDots_of_mem_foldl _ [] (fun _ hmem => absurd hmem List.not_mem_nil)

/-- The normal form of a path has no characters but those of the path and slashes. -/
theorem mem_removeDots {path : List Char} {c : Char} (h : c ∈ removeDots path) :
    c = '/' ∨ c ∈ path := by
  refine (mem_segment_of_mem h).imp_right fun ⟨segment, hsegment, hc⟩ => ?_
  rw [splitOn_removeDots] at hsegment
  split at hsegment
  · obtain rfl := List.mem_singleton.mp hsegment
    cases hc
  · have hmem := (foldl_keepSegment_sublist _ []).subset hsegment
    exact (sublist_of_mem_splitOn hmem).1.subset hc

/-- The normal form of a path whose characters stand for themselves needs no encoding. -/
theorem percentEncode_removeDots {path : List Char}
    (h : ∀ c ∈ path, Text.isPathSafe c = true) :
    Text.percentEncode Text.isPathSafe (removeDots path) = removeDots path := by
  refine Text.percentEncode_of_safe fun c hc => ?_
  rcases mem_removeDots hc with rfl | hmem
  · decide
  · exact h c hmem

variable {front rest segment : List Char}

/-- Behind a folder without dot segments, the segments are dealt with as if there were none before
them. -/
theorem removeDots_behind (hfront : ∀ segment ∈ front.splitOn '/', ¬ IsDots segment)
    (rest : List Char) :
    removeDots (front ++ '/' :: rest) = ['/'].intercalate
      ((rest.splitOn '/').foldl keepSegment (front.splitOn '/')) := by
  rw [removeDots_eq, splitOn_append_slash, List.foldl_append,
    foldl_keepSegment_of_dotless hfront, List.nil_append]

/-- A single segment that is none of the dot segments stays behind a folder. -/
theorem removeDots_append_segment (hfront : ∀ segment ∈ front.splitOn '/', ¬ IsDots segment)
    (hslash : '/' ∉ segment) (hdots : ¬ IsDots segment) :
    removeDots (front ++ '/' :: segment) = front ++ '/' :: segment := by
  have hone : segment.splitOn '/' = [segment] := List.splitOn_eq_singleton hslash
  rw [removeDots_behind hfront, hone, List.foldl_cons, List.foldl_nil,
    keepSegment_of_not_isDots hdots, ← hone, ← splitOn_append_slash]
  exact List.intercalate_splitOn '/'

/-- A single segment behind a folder in the normal form of a path was one of the segments behind
that folder in the path, and none of the dot segments. -/
theorem mem_of_removeDots_append (hfront : ∀ segment ∈ front.splitOn '/', ¬ IsDots segment)
    (hslash : '/' ∉ segment)
    (h : removeDots (front ++ '/' :: rest) = front ++ '/' :: segment) :
    segment ∈ rest.splitOn '/' ∧ ¬ IsDots segment := by
  -- Split at its slashes, the path is the folder and one segment more.
  have hsegments : (removeDots (front ++ '/' :: rest)).splitOn '/' =
      front.splitOn '/' ++ [segment] := by
    rw [h, splitOn_append_slash, List.splitOn_eq_singleton hslash]
  have hlast : segment ∈ front.splitOn '/' ++ [segment] :=
    List.mem_append_right _ List.mem_cons_self
  constructor
  · -- What is kept are segments of the folder and of the rest.
    have hkept := foldl_keepSegment_sublist (rest.splitOn '/') (front.splitOn '/')
    rw [splitOn_removeDots, splitOn_append_slash, List.foldl_append,
      foldl_keepSegment_of_dotless hfront, List.nil_append] at hsegments
    split at hsegments
    · next hnil =>
      have hlength := congrArg List.length hsegments
      have hnonempty := List.length_pos_iff.mpr (List.splitOn_ne_nil '/' front)
      rw [List.length_append, List.length_singleton, List.length_singleton] at hlength
      omega
    · rw [hsegments, List.append_sublist_append_left, List.singleton_sublist] at hkept
      exact hkept
  · exact not_isDots_removeDots _ segment (hsegments ▸ hlast)

/-! ## Folders -/

/-- The text of a target that is in its normal form and ends with a slash. -/
structure IsFolder (folder : List Char) : Prop where
  safe : ∀ c ∈ folder, Text.isPathSafe c = true
  front : ∃ front, folder = front ++ ['/'] ∧ ∀ segment ∈ front.splitOn '/', ¬ IsDots segment

/-- A folder in a folder is a folder. -/
theorem IsFolder.append {first second : List Char} (h : IsFolder first) (h' : IsFolder second) :
    IsFolder (first ++ second) := by
  obtain ⟨front, rfl, hfront⟩ := h.front
  obtain ⟨behind, rfl, hbehind⟩ := h'.front
  refine ⟨List.forall_mem_append.mpr ⟨h.safe, h'.safe⟩, front ++ '/' :: behind, by simp, ?_⟩
  rw [splitOn_append_slash, List.forall_mem_append]
  exact ⟨hfront, hbehind⟩

/-- The normal form of a path is a folder if it ends with a slash. -/
theorem isFolder_of_normal {path front : List Char}
    (h : Text.percentEncode Text.isPathSafe (removeDots path) = front ++ ['/']) :
    IsFolder (front ++ ['/']) := by
  have hsafe : ∀ c ∈ front ++ ['/'], Text.isPathSafe c = true := by
    rw [← h]
    exact fun c hc => Text.isPathSafe_of_mem_percentEncode hc
  refine ⟨hsafe, front, rfl, fun segment hsegment => ?_⟩
  have hmem : segment ∈ (front ++ ['/']).splitOn '/' := by
    rw [splitOn_append_slash]
    exact List.mem_append_left _ hsegment
  rw [← h, Text.splitOn_percentEncode] at hmem
  obtain ⟨original, horiginal, hencoded⟩ := List.mem_map.mp hmem
  -- A dot segment is the encoding of itself alone.
  intro hdots
  have hpercent : '%' ∉ segment := by
    rcases hdots with rfl | rfl <;> decide
  have hsame := Text.eq_of_percentEncode hencoded hpercent
  exact not_isDots_removeDots path original horiginal (hsame ▸ hdots)

theorem removeDots_final_slash (path : List Char) :
    removeDots (path ++ ['/']) = [] ∨ ∃ front, removeDots (path ++ ['/']) = front ++ ['/'] := by
  have hsegments : (path ++ ['/']).splitOn '/' = path.splitOn '/' ++ [[]] :=
    splitOn_append_slash path []
  have hlast : keepSegment ((path.splitOn '/').foldl keepSegment []) [] =
      (path.splitOn '/').foldl keepSegment [] ++ [[]] :=
    keepSegment_of_not_isDots (by decide) _
  rw [removeDots_eq, hsegments, List.foldl_append, List.foldl_cons, List.foldl_nil, hlast]
  by_cases hkept : (path.splitOn '/').foldl keepSegment [] = []
  · rw [hkept]
    exact .inl rfl
  · -- The empty last segment is the one behind the slash at the end.
    refine .inr ⟨['/'].intercalate ((path.splitOn '/').foldl keepSegment []), ?_⟩
    have hsplit := splitOn_intercalate hkept (foldl_keepSegment_sublist _ [])
    have hwhole := splitOn_append_slash
      (['/'].intercalate ((path.splitOn '/').foldl keepSegment [])) []
    rw [hsplit, List.splitOn_nil] at hwhole
    rw [← hwhole]
    exact List.intercalate_splitOn '/'

/-! ## The base of a client -/

/-- Behind a scheme the path of a URL is in its normal form. -/
theorem ofParts?_eq_some {scheme path : List Char} {authority : Authority}
    {query : Option (List Char)} {url : Url} (h : ofParts? scheme authority path query = some url)
    (hscheme : scheme ≠ []) :
    url.path = Text.percentEncode Text.isPathSafe (removeDots path) ∧
      url.query = query.map (Text.percentEncode Text.isQuerySafe) := by
  rw [ofParts?] at h
  split at h
  · obtain rfl := Option.some.inj h
    have hpresent : (scheme.isEmpty && authority = .none) = false := by simp [hscheme]
    refine ⟨?_, rfl⟩
    simp only [hpresent, Bool.false_eq_true, if_false]
  · cases h

theorem scheme_of_ofParts? {scheme path : List Char} {authority : Authority}
    {query : Option (List Char)} {url : Url}
    (h : ofParts? scheme authority path query = some url) : url.scheme = scheme := by
  rw [ofParts?] at h
  split at h
  · obtain rfl := Option.some.inj h
    rfl
  · cases h

/-- A URL with another target has the path and the query of that target, in their normal forms. -/
theorem withTarget?_eq_some {base url : Url} {target : List Char}
    (h : base.withTarget? target = some url) (hscheme : base.scheme ≠ []) :
    url.path = Text.percentEncode Text.isPathSafe (removeDots (splitQuery target).1) ∧
      url.query = (splitQuery target).2.map (Text.percentEncode Text.isQuerySafe) := by
  have hparts : ofParts? base.scheme base.authority (splitQuery target).1 (splitQuery target).2 =
    some url := h
  exact ofParts?_eq_some hparts hscheme

/-- A URL with a path in its normal form and without a query is a folder if its target ends with a
slash. -/
theorem isFolder_target {url : Url} {path : List Char}
    (hpath : url.path = Text.percentEncode Text.isPathSafe (removeDots path))
    (hquery : url.query = none) (hslash : url.target.getLast? = some '/') :
    IsFolder url.target := by
  obtain ⟨front, hfront⟩ := List.getLast?_eq_some_iff.mp hslash
  have htarget : url.target = if url.path.isEmpty then ['/'] else url.path := by
    rw [target, hquery]
    exact List.append_nil _
  rw [hfront]
  split at htarget
  · -- The target of an empty path is a slash.
    rw [hfront] at htarget
    obtain rfl : front = [] := List.append_left_eq_self.mp htarget
    exact ⟨List.all_eq_true.mp rfl, [], rfl, by decide⟩
  · -- Any other target is the path, which is free of dots as it was normalized.
    rw [hfront, hpath] at htarget
    exact isFolder_of_normal htarget.symm

end AdmissionControl.Url

namespace AdmissionControl.ApiServer

open Url

theorem exists_ofParts?_of_read? {cs : List Char} {url : Url} (h : read? cs = some url) :
    ∃ scheme authority path query, ofParts? scheme authority path query = some url := by
  rw [read?] at h
  split at h
  · cases h
  · obtain ⟨authority, -, hparts⟩ := Option.bind_eq_some_iff.mp h
    exact ⟨_, _, _, _, hparts⟩

theorem getLast?_target_of_normal {url : Url} {path : List Char} (hquery : url.query = none)
    (hpath : url.path = Text.percentEncode Text.isPathSafe (removeDots (path ++ ['/']))) :
    url.target.getLast? = some '/' := by
  rw [target, hquery, hpath]
  rcases removeDots_final_slash path with hnil | ⟨front, hfront⟩
  · rw [hnil]
    rfl
  · have hslash : Text.percentEncode Text.isPathSafe ['/'] = ['/'] := by decide
    rw [hfront, Text.percentEncode_append, hslash]
    simp

/-- The base that a URL with a scheme and without a query gives is a folder. -/
theorem isFolder_of_baseOf {url : Text} {base : Url} (h : baseOf url = .ok base)
    (hscheme : base.scheme ≠ []) (hquery : base.query = none) : IsFolder base.target := by
  -- The base is what was read, with a slash at the end if it had none.
  obtain ⟨cs, hbase⟩ : ∃ cs, (read? cs).bind withFinalSlash? = some base := by
    rw [baseOf] at h
    split at h
    · cases h
    · next cs _ =>
      split at h
      · next hbase => exact ⟨cs, hbase.trans (congrArg some (Except.ok.inj h))⟩
      · cases h
  obtain ⟨read, hread, hfinal⟩ := Option.bind_eq_some_iff.mp hbase
  rw [withFinalSlash?] at hfinal
  split at hfinal
  · -- The target has its slash.
    next hslash =>
    obtain rfl := Option.some.inj hfinal
    obtain ⟨scheme, authority, path, query, hparts⟩ := exists_ofParts?_of_read? hread
    have hpresent : scheme ≠ [] := scheme_of_ofParts? hparts ▸ hscheme
    exact isFolder_target (ofParts?_eq_some hparts hpresent).1 hquery hslash
  · -- The slash is added, to the path since there is no query.
    have hpresent : read.scheme ≠ [] := scheme_of_ofParts? hfinal ▸ hscheme
    obtain ⟨hpath, hnone⟩ := withTarget?_eq_some hfinal hpresent
    rw [hquery, eq_comm, Option.map_eq_none_iff] at hnone
    have hwhole := splitQuery_append (read.target ++ ['/'])
    rw [hnone, Option.map_none, Option.getD_none, List.append_nil] at hwhole
    rw [hwhole] at hpath
    exact isFolder_target hpath hquery (getLast?_target_of_normal hquery hpath)

end AdmissionControl.ApiServer
