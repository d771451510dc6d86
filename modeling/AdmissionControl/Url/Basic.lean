/-
  URLs.

  A URL is a scheme, an authority of user, host and port, a path and a query; all but the path may
  be absent.  `read?` takes a text apart and writes each part in its normal form: the scheme and
  the name of the host in lower case, a name beyond ASCII in its ASCII form, path and query in
  percent encoding and the path without dot segments.  What stands behind a number sign does not
  count.  `resolve?` reads a text as a reference that goes on from a URL.
-/

import AdmissionControl.Text.Blank
import AdmissionControl.Text.DecimalDigit
import AdmissionControl.Text.Percent
import AdmissionControl.Url.Address
import AdmissionControl.Url.DomainName

namespace AdmissionControl

/-- The authority of a URL.  Of the port only its presence is kept. -/
structure Authority where
  /-- The user, perhaps with a password, as it is written. -/
  userinfo : List Char
  /-- The host: a name in percent encoding or in its ASCII form, or a numeric address. -/
  host : List Char
  hasPort : Bool
  deriving DecidableEq

/-- A URL in its normal form. -/
structure Url where
  /-- The scheme, empty for none. -/
  scheme : List Char
  authority : Authority
  path : List Char
  query : Option (List Char)
  deriving DecidableEq

/-! ## Authorities -/

namespace Authority

/-- The characters that stand for themselves in the name of a host. -/
def isHostSafe (c : Char) : Bool :=
  c.isAlphanum || "-._~!$&'()*+,;=%|\x22\x60\x5c\x7b\x7d".toList.contains c

/-- The normal form of a host, if it is a valid one. -/
def normalizeHost? (host : List Char) : Option (List Char) :=
  if host.isEmpty then some []
  else if Url.looksLikeAddress4 host then if Url.isAddress4 host then some host else none
  else if host.head? = some '[' && host.getLast? = some ']' then
    let address := (host.drop 1).dropLast
    if Url.isAddress6 address then some address else none
  else
    let lower := Url.lowerCase host
    if host.all fun c => c.toNat < 0x80 then some (Text.percentEncode isHostSafe lower)
    else Url.toAscii? lower

/-- Whether some characters are the number of a port: perhaps a sign, then digits of any script in
groups that single underscores separate. -/
def isPort (cs : List Char) : Bool :=
  let unsigned := (Decimal.splitSign (Text.strip Text.isBlank cs)).2
  unsigned.length ≤ 4300 &&
    (unsigned.splitOn '_').all fun group => !group.isEmpty && group.all Text.isDecimalDigit

/-- A text without everything up to a separator, if the separator occurs. -/
def afterLast (separator : Char) (cs : List Char) : List Char :=
  (cs.reverse.takeWhile (· != separator)).reverse

/-- The host at the beginning of a text, with its brackets if it stands in them, and the rest. -/
def splitHost (cs : List Char) : List Char × List Char :=
  if cs.head? = some '[' && cs.contains ']' then
    let behind := afterLast ']' cs
    (cs.take (cs.length - behind.length), behind)
  else (cs.takeWhile (· != ':'), cs.dropWhile (· != ':'))

/-- The authority that a text is, if its host and its port are valid. -/
def read? (cs : List Char) : Option Authority := do
  let hostAndPort := afterLast '@' cs
  let userinfo := cs.take (cs.length - hostAndPort.length - 1)
  let (written, behind) := splitHost hostAndPort
  let host ← normalizeHost? written
  let port := if behind.head? = some ':' then behind.drop 1 else behind
  if port.isEmpty then return ⟨userinfo, host, false⟩
  else if isPort port then return ⟨userinfo, host, true⟩
  else none

/-- The authority of a URL that has none. -/
def none : Authority := ⟨[], [], false⟩

/-- The host as it is shown: a name whose first label has an ASCII form is written without such
forms, which have to be valid. -/
def shownHost (authority : Authority) : Except Url.LabelError (List Char) :=
  if authority.host.take 4 = Url.asciiPrefix then Url.toUnicode authority.host
  else .ok authority.host

/-- User and password, if either is given. -/
def credentials? (authority : Authority) : Option (List Char × List Char) :=
  let user := Text.percentDecode (authority.userinfo.takeWhile (· != ':'))
  let password := Text.percentDecode ((authority.userinfo.dropWhile (· != ':')).drop 1)
  if user.isEmpty && password.isEmpty then Option.none else some (user, password)

end Authority

namespace Url

/-! ## Paths -/

/-- A path without dot segments: one dot stands for nothing, two for the loss of the segment
before. -/
def removeDots (path : List Char) : List Char :=
  let kept := (path.splitOn '/').foldl
    (fun kept segment =>
      if segment = ['.'] then kept
      else if segment = ['.', '.'] then
        if kept.isEmpty || kept = [[]] then kept else kept.dropLast
      else kept ++ [segment])
    []
  ['/'].intercalate kept

/-- Whether a path may stand behind a scheme and an authority.  Behind an authority it is empty or
begins with a slash; where neither is there it must not look like one of them. -/
def pathOk (scheme : List Char) (authority : Authority) (path : List Char) : Bool :=
  if authority ≠ .none then path.isEmpty || path.head? = some '/'
  else !scheme.isEmpty || (path.take 2 != ['/', '/'] && path.head? != some ':')

/-- The greatest length of a URL and of each of its parts. -/
def greatestLength : Nat := 65536

/-- The URL of some parts, if the path may stand behind the others.  Dot segments count as such
only behind a scheme or an authority. -/
def ofParts? (scheme : List Char) (authority : Authority) (path : List Char)
    (query : Option (List Char)) : Option Url :=
  if path.length ≤ greatestLength && (query.getD []).length ≤ greatestLength &&
      pathOk scheme authority path then
    let path := if scheme.isEmpty && authority = .none then path else removeDots path
    some ⟨scheme, authority, Text.percentEncode Text.isPathSafe path,
      query.map (Text.percentEncode Text.isQuerySafe)⟩
  else none

/-! ## Reading -/

/-- Whether a character may stand in a scheme behind its first letter. -/
def isSchemeChar (c : Char) : Bool := c.isAlphanum || c == '+' || c == '.' || c == '-'

/-- The scheme in front of a text, and what is behind its colon.  A colon with nothing before it
counts as one without a scheme. -/
def splitScheme (cs : List Char) : List Char × List Char :=
  let scheme := if cs.head?.any Char.isAlpha then cs.takeWhile isSchemeChar else []
  match cs.drop scheme.length with
  | ':' :: rest => (scheme, rest)
  | _ => ([], cs)

/-- The authority in front of a text, behind two slashes, and what is behind it. -/
def splitAuthority (cs : List Char) : List Char × List Char :=
  match cs with
  | '/' :: '/' :: rest =>
    let isInside (c : Char) : Bool := c != '/' && c != '?' && c != '#'
    (rest.takeWhile isInside, rest.dropWhile isInside)
  | _ => ([], cs)

/-- The path in front of a text, and the query behind its question mark. -/
def splitQuery (cs : List Char) : List Char × Option (List Char) :=
  (cs.takeWhile (· != '?'), match cs.dropWhile (· != '?') with
    | [] => none
    | _ :: query => some query)

def isControl (c : Char) : Bool := c.toNat < 0x20 || c.toNat = 0x7f

def read? (cs : List Char) : Option Url :=
  if greatestLength < cs.length || cs.any isControl then none
  else do
    let (scheme, behindScheme) := splitScheme cs
    let (authority, behind) := splitAuthority behindScheme
    let (path, query) := splitQuery (behind.takeWhile (· != '#'))
    ofParts? (scheme.map Char.toLower) (← Authority.read? authority) path query

/-! ## References -/

/-- What is asked of the host: the path, which is a slash when it is empty, and the query. -/
def target (url : Url) : List Char :=
  (if url.path.isEmpty then ['/'] else url.path) ++ (url.query.map ('?' :: ·)).getD []

def withTarget? (url : Url) (target : List Char) : Option Url :=
  let (path, query) := splitQuery target
  ofParts? url.scheme url.authority path query

def withFinalSlash? (url : Url) : Option Url :=
  if url.target.getLast? = some '/' then some url else url.withTarget? (url.target ++ ['/'])

/-- The URL that a reference names from a base, whose target has a slash at its end.  A reference
with a scheme and a host stands for itself; any other goes on behind the target of the base,
wherever it begins. -/
def resolve? (base : Url) (reference : List Char) : Option Url := do
  let relative ← read? reference
  if !relative.scheme.isEmpty && !relative.authority.host.isEmpty then return relative
  else base.withTarget? (base.target ++ relative.target.dropWhile (· == '/'))

/-- Whether the written form of a URL begins with what can be taken for a scheme: characters before
a colon and before any slash. -/
def beginsWithScheme (url : Url) : Bool :=
  !url.scheme.isEmpty ||
    (url.authority = .none &&
      let front := url.target.takeWhile fun c => c != ':' && c != '/'
      !front.isEmpty && (url.target.drop front.length).head? = some ':')

end Url

end AdmissionControl
