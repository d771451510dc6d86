/-
  From tokens to JSON values.

  The reader keeps the containers that are open, innermost first, and what may come next.  It is
  fed with the tokens as the scanner finishes them, so that of several errors in a text the first
  counts.  A text is one value with nothing behind it.  No comma may stand before a closing
  bracket.  Of members with one name, the first gives the place and the last the value.
  Containers may stand in each other to some depth, which whoever reads has to say.
-/

import AdmissionControl.Json.Lexer
import AdmissionControl.Text.Encoding

namespace AdmissionControl.Json

/-- An open container with what was read of it, last first. -/
inductive Frame where
  | array (items : List Json)
  | object (members : List (Text × Json))
  /-- An object whose member of this name is being read. -/
  | member (members : List (Text × Json)) (name : Text)

inductive Expected where
  | value
  | valueOrEnd
  | nameOrEnd
  | name
  | colon
  | commaOrEnd
  | nothing (result : Json)

/-- The state of the reader: the open containers, innermost first, and what may come next. -/
structure Reading where
  frames : List Frame := []
  expected : Expected := .value

namespace Reading

/-- The reader after a complete value inside the given containers. -/
def close (value : Json) : List Frame → Except JsonError Reading
  | [] => .ok ⟨[], .nothing value⟩
  | .array items :: outer => .ok ⟨.array (value :: items) :: outer, .commaOrEnd⟩
  | .member members name :: outer =>
    .ok ⟨.object ((name, value) :: members) :: outer, .commaOrEnd⟩
  | .object _ :: _ => .error .malformed

def enter (depth : Nat) (frame : Frame) (expected : Expected) (frames : List Frame) :
    Except JsonError Reading :=
  if frames.length < depth then .ok ⟨frame :: frames, expected⟩ else .error .tooDeep

/-- The reader where a value begins with the given token. -/
def beginValue (depth : Nat) (frames : List Frame) : Token → Except JsonError Reading
  | .beginArray => enter depth (.array []) .valueOrEnd frames
  | .beginObject => enter depth (.object []) .nameOrEnd frames
  | .text s => close (.str s) frames
  | .word (.ok value) => close value frames
  | .word (.error error) => .error error
  | _ => .error .malformed

/-- The reader after the bracket that closes the innermost container. -/
def endContainer : List Frame → Token → Except JsonError Reading
  | .array items :: outer, .endArray => close (.arr items.reverse) outer
  | .object members :: outer, .endObject => close (ofMembers members.reverse) outer
  | _, _ => .error .malformed

def beginMember : List Frame → Token → Except JsonError Reading
  | .object members :: outer, .text name => .ok ⟨.member members name :: outer, .colon⟩
  | _, _ => .error .malformed

def step (depth : Nat) (reading : Reading) (token : Token) : Except JsonError Reading :=
  match reading.expected, token with
  | .value, _ => beginValue depth reading.frames token
  | .valueOrEnd, .endArray => endContainer reading.frames token
  | .valueOrEnd, _ => beginValue depth reading.frames token
  | .nameOrEnd, .endObject => endContainer reading.frames token
  | .nameOrEnd, _ => beginMember reading.frames token
  | .name, _ => beginMember reading.frames token
  | .colon, .colon => .ok ⟨reading.frames, .value⟩
  | .commaOrEnd, .comma =>
    match reading.frames with
    | .array _ :: _ => .ok ⟨reading.frames, .value⟩
    | _ => .ok ⟨reading.frames, .name⟩
  | .commaOrEnd, _ => endContainer reading.frames token
  | _, _ => .error .malformed

def result (reading : Reading) : Except JsonError Json :=
  match reading.expected with
  | .nothing value => .ok value
  | _ => .error .malformed

end Reading

/-- A text under way: where the scanner is, and the reader behind it. -/
structure Progress where
  scan : Scan := .between
  reading : Reading := {}

namespace Progress

/-- The reader after the tokens of a step, or an error where the scanner has none. -/
def feed (depth : Nat) (reading : Reading) : Option (List Token) → Except JsonError Reading
  | some tokens => tokens.foldlM (Reading.step depth) reading
  | none => .error .malformed

def step (depth : Nat) (progress : Progress) (s : Symbol) : Except JsonError Progress :=
  match progress.scan.step s with
  | some (tokens, scan) => (feed depth progress.reading (some tokens)).map (⟨scan, ·⟩)
  | none => .error .malformed

def finish (depth : Nat) (progress : Progress) : Except JsonError Json :=
  (feed depth progress.reading progress.scan.finish).bind Reading.result

end Progress

/-- The value of a JSON text, in which containers stand in each other to no more than a depth. -/
def ofText (depth : Nat) (t : Text) : Except JsonError Json :=
  (t.symbols.foldlM (Progress.step depth) {}).bind (Progress.finish depth)

/-- The value of JSON text given as bytes in one of the Unicode encoding forms. -/
def ofBytes (depth : Nat) (bytes : List UInt8) : Except JsonError Json :=
  match Text.decode? bytes with
  | some t => ofText depth t
  | none => .error .notText

end AdmissionControl.Json
