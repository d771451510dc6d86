/-
  Decoding of JSON values into domain types.

  A decoder checks every part of its input and collects all errors, in the order of the fields
  and of the entries as written.  An error names the place of the offending value by the names
  and indexes that lead to it; in the names of entries halves of surrogate pairs are replaced, so
  two such places can look the same.  A field may have a second accepted name; the wire name wins
  when both are present, and the location shows the name that was found.
-/

import AdmissionControl.Json.Basic

namespace AdmissionControl

/-- A step from a value into one of its parts. -/
inductive PathStep where
  | name (s : Text)
  | index (n : Nat)
  deriving DecidableEq

/-- What is wrong with a value. -/
inductive Defect where
  | stringType
  | objectType
  | listType
  | modelType
  | enumValue
  | missing
  | boolParsing
  | boolType
  | intParsing
  | intType
  | intFromFloat
  | intParsingSize
  | floatParsing
  | floatType
  | finiteNumber
  | greaterThan
  | greaterThanEqual
  | lessThanEqual
  | pathType
  | valueError
  deriving DecidableEq

def Defect.code : Defect → String
  | .stringType => "string_type"
  | .objectType => "dict_type"
  | .listType => "list_type"
  | .modelType => "model_type"
  | .enumValue => "enum"
  | .missing => "missing"
  | .boolParsing => "bool_parsing"
  | .boolType => "bool_type"
  | .intParsing => "int_parsing"
  | .intType => "int_type"
  | .intFromFloat => "int_from_float"
  | .intParsingSize => "int_parsing_size"
  | .floatParsing => "float_parsing"
  | .floatType => "float_type"
  | .finiteNumber => "finite_number"
  | .greaterThan => "greater_than"
  | .greaterThanEqual => "greater_than_equal"
  | .lessThanEqual => "less_than_equal"
  | .pathType => "path_type"
  | .valueError => "value_error"

/-- One error: a defect and where it is. -/
structure Detail where
  loc : List PathStep
  defect : Defect
  deriving DecidableEq

/-- The outcome of decoding: a value, or one error and possibly more. -/
inductive Decoded (α : Type) where
  | value (a : α)
  | errors (first : Detail) (more : List Detail)

/-- A failed decoding: the name of the model and every error found. -/
structure DecodeReport where
  model : String
  first : Detail
  more : List Detail
  deriving DecidableEq

namespace DecodeReport

def details (report : DecodeReport) : List Detail := report.first :: report.more

/-- The first line of a report.  The lines behind it, which describe each error in words, are left
out. -/
def message (report : DecodeReport) : String :=
  let count := report.details.length
  toString count ++ " validation error" ++ (if count = 1 then "" else "s") ++ " for " ++
    report.model

end DecodeReport

namespace Decoded

def details : Decoded α → List Detail
  | .value _ => []
  | .errors first more => first :: more

def fail (defect : Defect) : Decoded α := .errors ⟨[], defect⟩ []

def map (f : α → β) : Decoded α → Decoded β
  | .value a => .value (f a)
  | .errors first more => .errors first more

/-- Two outcomes together: both values, or the errors of both in order. -/
def ap : Decoded (α → β) → Decoded α → Decoded β
  | .value f, .value a => .value (f a)
  | .value _, .errors first more => .errors first more
  | .errors first more, right => .errors first (more ++ right.details)

instance : Functor Decoded where
  map := map

instance : Applicative Decoded where
  pure := .value
  seq f a := f.ap (a ())

/-- The outcome for a part, its errors located from the whole. -/
def under (step : PathStep) : Decoded α → Decoded α
  | .value a => .value a
  | .errors first more =>
    .errors ⟨step :: first.loc, first.defect⟩
      (more.map fun detail => ⟨step :: detail.loc, detail.defect⟩)

/-- The outcome for a whole model. -/
def report (model : String) : Decoded α → Except DecodeReport α
  | .value a => .ok a
  | .errors first more => .error ⟨model, first, more⟩

theorem details_ap (f : Decoded (α → β)) (a : Decoded α) :
    (f.ap a).details = f.details ++ a.details := by
  cases f <;> cases a <;> simp [ap, details]

theorem details_map (f : α → β) (a : Decoded α) : (a.map f).details = a.details := by
  cases a <;> rfl

theorem details_under (step : PathStep) (a : Decoded α) :
    (a.under step).details = a.details.map fun detail => ⟨step :: detail.loc, detail.defect⟩ := by
  cases a <;> rfl

end Decoded

/-! ## Decoders -/

abbrev Decoder (α : Type) := Json → Decoded α

namespace Decoder

def text : Decoder Text
  | .str s => .value s
  | _ => .fail .stringType

/-- The items of an array, located from the given index on. -/
def items (item : Decoder α) : Nat → List Json → Decoded (List α)
  | _, [] => .value []
  | n, j :: rest => List.cons <$> (item j).under (.index n) <*> items item (n + 1) rest

/-- An array with items of one kind. -/
def list (item : Decoder α) : Decoder (List α)
  | .arr js => items item 0 js
  | _ => .fail .listType

/-- The entries of an object. -/
def entries (value : Decoder α) : List (Text × Json) → Decoded (List (Text × α))
  | [] => .value []
  | (name, j) :: rest =>
    (fun a more => (name, a) :: more) <$> (value j).under (.name name.replaced) <*>
      entries value rest

/-- An object with any names and values of one kind, in the order of its members. -/
def object (value : Decoder α) : Decoder (List (Text × α))
  | .obj members => entries value members
  | _ => .fail .objectType

def any : Decoder Json := .value

/-- An object whose fields are decoded together. -/
def model (fields : List (Text × Json) → Decoded α) : Decoder α
  | .obj members => fields members
  | _ => .fail .modelType

/-- A value that counts as a default when it is null. -/
def orNull (default : α) (decoder : Decoder α) : Decoder α
  | .null => .value default
  | j => decoder j

/-- A value that counts as a default when it is trivial. -/
def orTrivial (default : α) (decoder : Decoder α) : Decoder α := fun j =>
  if j.isTrivial then .value default else decoder j

def optional (decoder : Decoder α) : Decoder (Option α)
  | .null => .value none
  | j => some <$> decoder j

/-- A name out of a fixed set. -/
def name (ofName? : Text → Option α) : Decoder α
  | .str s => match ofName? s with
    | some a => .value a
    | none => .fail .enumValue
  | _ => .fail .enumValue

/-- The bound, 2^63, of signed integers that fit a word of 64 bits. -/
def wordBound : Int := 9223372036854775808

/-- The integer that a float is, if it is one strictly inside the bounds of a word. -/
def wholeFloat? (x : Binary64) : Option Int :=
  x.toRat?.bind fun q =>
    if q.den = 1 && -wordBound < q.num && q.num < wordBound then some q.num else none

/-- The words for true and false, in any case of letters. -/
def boolWord? (s : Text) : Option Bool := do
  let word := String.ofList ((← s.chars?).map Char.toLower)
  if ["1", "on", "t", "true", "y", "yes"].contains word then some true
  else if ["0", "off", "f", "false", "n", "no"].contains word then some false
  else none

/-- The truth value of an integer: zero and one have one.  Other words of 64 bits are taken for a
misspelling, and anything beyond for a value of another kind. -/
def boolOfInt (n : Int) : Decoded Bool :=
  if n = 0 then .value false
  else if n = 1 then .value true
  else if -wordBound ≤ n && n < wordBound then .fail .boolParsing
  else .fail .boolType

/-- A truth value: itself, one of its words, or a number equal to zero or one. -/
def bool : Decoder Bool
  | .bool b => .value b
  | .str s => match boolWord? s with
    | some b => .value b
    | none => .fail .boolParsing
  | .int n => boolOfInt n
  | .float x => match wholeFloat? x with
    | some n => boolOfInt n
    | none => .fail .boolType
  | _ => .fail .boolType

end Decoder

/-! ## Fields -/

/-- The names under which a field is accepted; the first is the wire name. -/
structure FieldName where
  wire : Text
  other : Option Text := none

namespace FieldName

/-- The value of a field and the name under which it stands. -/
def find? (field : FieldName) (members : List (Text × Json)) : Option (Text × Json) :=
  match members.lookup field.wire with
  | some j => some (field.wire, j)
  | none => field.other.bind fun name => (members.lookup name).map (name, ·)

/-- A field with a default for when it is absent. -/
def decode (field : FieldName) (default : α) (decoder : Decoder α)
    (members : List (Text × Json)) : Decoded α :=
  match field.find? members with
  | some (name, j) => (decoder j).under (.name name)
  | none => .value default

/-- A field that must be present. -/
def require (field : FieldName) (decoder : Decoder α) (members : List (Text × Json)) :
    Decoded α :=
  match field.find? members with
  | some (name, j) => (decoder j).under (.name name)
  | none => .errors ⟨[.name field.wire], .missing⟩ []

end FieldName

end AdmissionControl
