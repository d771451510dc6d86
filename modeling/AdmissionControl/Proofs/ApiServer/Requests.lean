/-
  AdmissionControl.Proofs.ApiServer.Requests

  When the request for a question can be sent.

  Before anything is sent, the reference of the question is followed from the base of the client,
  the host is shown and the body is encoded (`Client.prepare`); any of these may fail.  All
  references are paths, so they go on from the base with its scheme and its authority
  (`Url.follow_path`).  A name in one of them is not escaped: a control character or half of a
  surrogate pair in it is refused (`not_sends_of_control`, `not_sends_of_half`), and so is a URL
  beyond the greatest length.  Everything else can be sent (`sends_of_plain`).
-/

import AdmissionControl.ApiServer.Collaborators
import AdmissionControl.Proofs.Answers

namespace AdmissionControl

/-! ## The length of percent encoding -/

namespace Text

theorem length_percentEncode (safe : Char → Bool) (cs : List Char) :
    (percentEncode safe cs).length ≤ 12 * cs.length := by
  induction cs with
  | nil => simp [percentEncode]
  | cons c rest ih =>
    -- One character has at most four bytes, and a byte takes three characters.
    have hone : (if safe c then [c] else (utf8Char c).flatMap percentByte).length ≤ 12 := by
      split
      · simp
      · have hbytes : (utf8Char c).length ≤ 4 := by
          rw [utf8Char, String.length_utf8EncodeChar]
          exact Char.utf8Size_le_four c
        have hthree : ((utf8Char c).flatMap percentByte).length = 3 * (utf8Char c).length := by
          have hbyte : (fun b => (percentByte b).length) = fun _ => 3 := rfl
          rw [List.length_flatMap, hbyte, List.map_const', List.sum_replicate_nat, Nat.mul_comm]
        omega
    rw [percentEncode, List.flatMap_cons, List.length_append, List.length_cons]
    rw [percentEncode] at ih
    omega

end Text

/-! ## Paths as references -/

namespace Url

/-- A base from which references can be followed and asked: it has a scheme, its target begins with
a slash, and its host can be shown. -/
structure IsBase (base : Url) : Prop where
  scheme : base.scheme ≠ []
  slash : base.target.head? = some '/'
  host : ∃ host, base.hostName = .ok host

/-- The URL that a path is, without anything before it. -/
def ofPath (cs : List Char) : Url where
  scheme := []
  authority := .none
  path := Text.percentEncode Text.isPathSafe (splitQuery (cs.takeWhile (· != '#'))).1
  query := (splitQuery (cs.takeWhile (· != '#'))).2.map (Text.percentEncode Text.isQuerySafe)

/-- Path and query, with the question mark between them, are the whole. -/
theorem splitQuery_append (cs : List Char) :
    (splitQuery cs).1 ++ ((splitQuery cs).2.map ('?' :: ·)).getD [] = cs := by
  have hwhole := List.takeWhile_append_dropWhile (p := (· != '?')) (l := cs)
  cases hbehind : cs.dropWhile (· != '?') with
  | nil =>
    rw [hbehind] at hwhole
    simp only [splitQuery, hbehind]
    exact hwhole
  | cons c query =>
    -- What is left begins with the mark at which the path was taken off.
    have hmark : c = '?' := by
      have hhead := List.head?_dropWhile_not (· != '?') cs
      rw [hbehind] at hhead
      simpa using hhead
    rw [hbehind, hmark] at hwhole
    simp only [splitQuery, hbehind]
    exact hwhole

theorem length_splitQuery (cs : List Char) :
    (splitQuery cs).1.length + (((splitQuery cs).2.map ('?' :: ·)).getD []).length =
      cs.length := by
  rw [← List.length_append, splitQuery_append]

/-- A query is not longer than with its question mark. -/
theorem length_query_le (query : Option (List Char)) :
    (query.getD []).length ≤ ((query.map ('?' :: ·)).getD []).length := by
  cases query <;> simp

/-- Parts that fit together and are not too long are a URL. -/
theorem ofParts?_of_fits {scheme path : List Char} {authority : Authority}
    {query : Option (List Char)} (hpath : path.length ≤ greatestLength)
    (hquery : (query.getD []).length ≤ greatestLength)
    (hok : pathOk scheme authority path = true) :
    ∃ written, ofParts? scheme authority path query =
      some ⟨scheme, authority, Text.percentEncode Text.isPathSafe written,
        query.map (Text.percentEncode Text.isQuerySafe)⟩ ∧
      (scheme = [] → authority = .none → written = path) := by
  rw [ofParts?, if_pos (by simp [hpath, hquery, hok])]
  refine ⟨_, rfl, ?_⟩
  rintro rfl rfl
  rfl

variable {rest : List Char}

theorem read?_path (hcontrol : ∀ c ∈ '/' :: 'a' :: rest, isControl c = false)
    (hlength : ('/' :: 'a' :: rest).length ≤ greatestLength) :
    read? ('/' :: 'a' :: rest) = some (ofPath ('/' :: 'a' :: rest)) := by
  have hvalid : (greatestLength < ('/' :: 'a' :: rest).length ||
      ('/' :: 'a' :: rest).any isControl) = false := by
    rw [Bool.or_eq_false_iff]
    exact ⟨decide_eq_false (Nat.not_lt.mpr hlength), List.any_eq_false.mpr fun c hc => by
      rw [hcontrol c hc]; exact Bool.false_ne_true⟩
  -- Neither a scheme nor an authority is in front of a path.
  have hscheme : splitScheme ('/' :: 'a' :: rest) = ([], '/' :: 'a' :: rest) := rfl
  have hauthority : splitAuthority ('/' :: 'a' :: rest) = ([], '/' :: 'a' :: rest) := rfl
  have hnone : Authority.read? [] = some .none := by decide
  have hinside := (List.takeWhile_sublist (p := (· != '#')) (l := '/' :: 'a' :: rest)).length_le
  have hparts := length_splitQuery (('/' :: 'a' :: rest).takeWhile (· != '#'))
  have hok : pathOk [] .none (splitQuery (('/' :: 'a' :: rest).takeWhile (· != '#'))).1 = true :=
    rfl
  have hquery : ((splitQuery (('/' :: 'a' :: rest).takeWhile (· != '#'))).2.getD []).length ≤
      greatestLength := Nat.le_trans (length_query_le _) (by omega)
  obtain ⟨written, hurl, hwritten⟩ := ofParts?_of_fits (by omega) hquery hok
  rw [hwritten rfl rfl] at hurl
  rw [read?, if_neg (by rw [hvalid]; exact Bool.false_ne_true)]
  simp only [hscheme, hauthority, hnone]
  exact hurl

theorem length_target_ofPath (cs : List Char) :
    (ofPath cs).target.length ≤ 12 * cs.length + 1 := by
  have hinside := (List.takeWhile_sublist (p := (· != '#')) (l := cs)).length_le
  have hparts := length_splitQuery (cs.takeWhile (· != '#'))
  -- A byte is written in at most three symbols, and a character has at most four bytes.
  have hpath : (if (ofPath cs).path.isEmpty then ['/'] else (ofPath cs).path).length ≤
      12 * (splitQuery (cs.takeWhile (· != '#'))).1.length + 1 := by
    split
    · simp
    · exact Nat.le_succ_of_le (Text.length_percentEncode _ _)
  have hquery : (((ofPath cs).query.map ('?' :: ·)).getD []).length ≤
      12 * (((splitQuery (cs.takeWhile (· != '#'))).2.map ('?' :: ·)).getD []).length := by
    rw [ofPath]
    cases (splitQuery (cs.takeWhile (· != '#'))).2 with
    | none => simp
    | some query =>
      have hencoded := Text.length_percentEncode Text.isQuerySafe query
      simp only [Option.map_some, Option.getD_some, List.length_cons]
      omega
  rw [target, List.length_append]
  omega

/-- A path that is not too long is followed from a base; what it leads to has the scheme and the
authority of the base. -/
theorem follow_path {base : Url} (hbase : base.IsBase)
    (hcontrol : ∀ c ∈ '/' :: 'a' :: rest, isControl c = false)
    (hlength : base.target.length + 12 * ('/' :: 'a' :: rest).length < greatestLength) :
    ∃ url, base.follow (Text.ofChars ('/' :: 'a' :: rest)) = .ok url ∧
      url.scheme = base.scheme ∧ url.authority = base.authority := by
  have hrelative := read?_path hcontrol (by omega)
  have hreference := length_target_ofPath ('/' :: 'a' :: rest)
  have hbehind :=
    (List.dropWhile_sublist (p := (· == '/')) (l := (ofPath ('/' :: 'a' :: rest)).target)).length_le
  -- The path of the base stands in front, so the whole begins with its slash.
  obtain ⟨target, htarget⟩ : ∃ target, base.target ++
      (ofPath ('/' :: 'a' :: rest)).target.dropWhile (· == '/') = '/' :: target := by
    have hslash := hbase.slash
    cases hfront : base.target with
    | nil => rw [hfront] at hslash; cases hslash
    | cons c more =>
      rw [hfront] at hslash
      obtain rfl := Option.some.inj hslash
      exact ⟨_, rfl⟩
  have htotal : ('/' :: target).length ≤ greatestLength := by
    rw [← htarget, List.length_append]
    omega
  have hparts := length_splitQuery ('/' :: target)
  -- The path that results is one that its scheme and authority allow.
  have hok : pathOk base.scheme base.authority (splitQuery ('/' :: target)).1 = true := by
    have hscheme : base.scheme.isEmpty = false := by simpa using hbase.scheme
    rw [pathOk]
    split
    · simp [splitQuery]
    · rw [hscheme]; rfl
  have hquery : ((splitQuery ('/' :: target)).2.getD []).length ≤ greatestLength :=
    Nat.le_trans (length_query_le _) (by omega)
  -- All lengths are within the bound, so the parts make up a URL.
  obtain ⟨url, hurl, hscheme, hauthority⟩ : ∃ url, base.withTarget? ('/' :: target) = some url ∧
      url.scheme = base.scheme ∧ url.authority = base.authority := by
    obtain ⟨written, hurl, -⟩ := ofParts?_of_fits (by omega) hquery hok
    exact ⟨_, hurl, rfl, rfl⟩
  have hresolve : base.resolve? ('/' :: 'a' :: rest) = some url := by
    rw [resolve?, hrelative]
    show base.withTarget? (base.target ++
      (ofPath ('/' :: 'a' :: rest)).target.dropWhile (· == '/')) = some url
    rw [htarget]
    exact hurl
  refine ⟨url, ?_, hscheme, hauthority⟩
  rw [follow, Text.chars?_ofChars]
  simp only [hresolve]

/-- What is no URL by itself leads nowhere. -/
theorem follow_of_control {base : Url} {cs : List Char} {c : Char} (hc : c ∈ cs)
    (hcontrol : isControl c = true) : base.follow (Text.ofChars cs) = .error .invalidUrl := by
  have hany : (greatestLength < cs.length || cs.any isControl) = true := by
    rw [Bool.or_eq_true]
    exact .inr (List.any_eq_true.mpr ⟨c, hc, hcontrol⟩)
  have hresolve : base.resolve? cs = none := by
    rw [resolve?, read?, if_pos hany]
    rfl
  rw [follow, Text.chars?_ofChars]
  simp only [hresolve]

end Url

/-! ## Questions as requests -/

open ApiServer

namespace Query

/-- What the request for a question is about. -/
def subject : Query → Subject
  | .user name => userSubject name
  | .setting name => settingSubject name
  | .access check => accessSubject check

/-- What is posted for a question. -/
def body? : Query → Option Json
  | .access check => some (accessReview check)
  | _ => none

/-- What is made of the outcome of the request. -/
def read : (query : Query) → Handled Exchange (Option Json) → Handled Exchange query.Reply
  | .user name => readFound (ApiServer.userOf name)
  | .setting name => readFound (ApiServer.settingOf name)
  | .access check => readVerdict check

theorem handler_eq (client : Client) (query : Query) (exchange : Exchange) :
    client.handler query exchange =
      query.read (client.request query.subject query.body? exchange) := by
  cases query <;> rfl

/-- A failed request is a failed question. -/
theorem read_of_error {query : Query} {handled : Handled Exchange (Option Json)}
    {failure : Failure} (h : handled.reply = .error failure) :
    (query.read handled).reply = .error failure := by
  cases query with
  | user name => simp only [read, readFound, h, Except.error_bind]
  | setting name => simp only [read, readFound, h, Except.error_bind]
  | access check => simp only [read, readVerdict, h]

/-- Every reference is a path. -/
theorem reference_eq (query : Query) :
    ∃ rest, query.subject.reference = ⟨.char '/' :: .char 'a' :: rest⟩ := by
  cases query <;> exact ⟨_, rfl⟩

/-- A question whose request has nothing out of the ordinary: all its texts are characters, none in
the URL is a control character, and the URL is not too long however it is encoded. -/
structure Plain (client : Client) (query : Query) : Prop where
  reference : ∃ cs, query.subject.reference.chars? = some cs ∧
    (∀ c ∈ cs, Url.isControl c = false) ∧
    client.base.target.length + 12 * cs.length < Url.greatestLength
  body : ∀ j ∈ query.body?, j.isEncodable = true

/-- For a concrete question each of these can be computed. -/
theorem plain_of_any {client : Client} {query : Query} {cs : List Char}
    (hreference : query.subject.reference.chars? = some cs)
    (hcontrol : cs.any Url.isControl = false)
    (hlength : client.base.target.length + 12 * cs.length < Url.greatestLength)
    (hbody : ∀ j ∈ query.body?, j.isEncodable = true) : query.Plain client := by
  refine ⟨⟨cs, hreference, fun c hc => ?_, hlength⟩, hbody⟩
  exact Bool.eq_false_iff.mpr (List.any_eq_false.mp hcontrol c hc)

end Query

/-- A symbol that no URL may hold: a control character, or half of a surrogate pair. -/
def Symbol.Refused : Symbol → Prop
  | .char c => Url.isControl c = true
  | .half _ => True

namespace ApiServer.Client

/-- The URL and the request for a question. -/
def prepare (client : Client) (query : Query) : Except Failure (Url × Request) := do
  let url ← client.base.follow query.subject.reference
  return (url, ← client.requestFor query.subject query.body? url)

/-- The request for a question can be built, and goes to a URL with a scheme. -/
def Sends (client : Client) (query : Query) : Prop :=
  ∃ url request, client.prepare query = .ok (url, request) ∧ url.beginsWithScheme = true

variable {client : Client} {query : Query}

theorem request_eq (client : Client) (query : Query) (exchange : Exchange) :
    client.request query.subject query.body? exchange =
      match client.prepare query with
      | .error failure => ⟨[], .error failure, exchange⟩
      | .ok (url, request) =>
        let sent := exchange.send request (client.maxTries - 1)
        let resolved := resolveFrom client.depth url query.subject sent.1
        ⟨resolved.1, resolved.2, sent.2⟩ := by
  rfl

theorem sends_of_plain (hbase : client.base.IsBase) (h : query.Plain client) :
    client.Sends query := by
  obtain ⟨cs, hcs, hcontrol, hlength⟩ := h.reference
  have hreference := Text.eq_ofChars_of_chars? hcs
  obtain ⟨symbols, hpath⟩ := query.reference_eq
  -- The characters of a path are those of its symbols.
  obtain ⟨rest, rfl⟩ : ∃ rest, cs = '/' :: 'a' :: rest := by
    rw [hpath, Text.ofChars, Text.mk.injEq] at hreference
    obtain _ | ⟨c, _ | ⟨d, rest⟩⟩ := cs
    · cases hreference
    · cases hreference
    · simp only [List.map_cons, List.cons.injEq, Symbol.char.injEq] at hreference
      obtain ⟨rfl, rfl, -⟩ := hreference
      exact ⟨rest, rfl⟩
  obtain ⟨url, hurl, hscheme, hauthority⟩ := Url.follow_path hbase hcontrol hlength
  obtain ⟨host, hhost⟩ := hbase.host
  have hshown : url.hostName = .ok host := by
    rw [Url.hostName, hauthority]
    exact hhost
  -- What is posted can be encoded, so nothing stands in the way of the request.
  have hbody : (query.body?.any fun j => !j.isEncodable) = false := by
    cases hposted : query.body? with
    | none => rfl
    | some j =>
      rw [Option.any_some, h.body j hposted]
      rfl
  obtain ⟨request, hrequest⟩ :
      ∃ request, client.requestFor query.subject query.body? url = .ok request := by
    rw [requestFor, hbody, if_neg Bool.false_ne_true, hshown]
    exact ⟨_, rfl⟩
  refine ⟨url, request, ?_, ?_⟩
  · rw [prepare, hreference, hurl, Except.ok_bind, hrequest, Except.ok_bind]
    rfl
  · have hpresent : client.base.scheme.isEmpty = false := by simpa using hbase.scheme
    rw [Url.beginsWithScheme, hscheme, hpresent]
    rfl

/-- No request is built with a name that has a control character or half of a surrogate pair. -/
theorem not_sends_of_refused (h : ∃ symbol ∈ query.subject.reference.symbols, symbol.Refused) :
    ¬ client.Sends query := by
  rintro ⟨url, request, hprepare, -⟩
  obtain ⟨symbol, hmem, hrefused⟩ := h
  -- Half of a surrogate pair has no URL, and neither has a control character.
  cases hcs : query.subject.reference.chars? with
  | none =>
    rw [prepare, Url.follow_of_half client.base hcs] at hprepare
    cases hprepare
  | some cs =>
    have hreference := Text.eq_ofChars_of_chars? hcs
    rw [hreference, Text.ofChars, List.mem_map] at hmem
    obtain ⟨c, hc, rfl⟩ := hmem
    rw [prepare, hreference, Url.follow_of_control hc hrefused] at hprepare
    cases hprepare

/-- What stands in the way of a request is its URL or an encoding. -/
theorem prepare_error {failure : Failure} (h : client.prepare query = .error failure) :
    failure = .invalidUrl ∨ failure = .unencodable ∨ ∃ cause, failure = .invalidHostName cause := by
  -- Either the reference cannot be followed, or no request is put together for its URL.
  cases hurl : client.base.follow query.subject.reference with
  | error cause =>
    rw [prepare, hurl] at h
    cases h
    rw [Url.follow] at hurl
    split at hurl
    · exact .inr (.inl (Except.error.inj hurl).symm)
    · split at hurl
      · cases hurl
      · exact .inl (Except.error.inj hurl).symm
  | ok url =>
    cases hrequest : client.requestFor query.subject query.body? url with
    | ok request =>
      rw [prepare, hurl, Except.ok_bind, hrequest] at h
      cases h
    | error cause =>
      rw [prepare, hurl, Except.ok_bind, hrequest] at h
      cases h
      rw [requestFor] at hrequest
      split at hrequest
      · exact .inr (.inl (Except.error.inj hrequest).symm)
      · cases hshown : url.authority.shownHost with
        | ok host =>
          rw [Url.hostName, hshown] at hrequest
          cases hrequest
        | error label =>
          rw [Url.hostName, hshown] at hrequest
          exact .inr (.inr ⟨label, (Except.error.inj hrequest).symm⟩)

end ApiServer.Client

end AdmissionControl
