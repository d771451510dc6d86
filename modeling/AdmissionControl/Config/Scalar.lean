/-
  Numbers and paths in settings.

  A setting comes as text from the environment or as a value from the caller, and both are read
  alike.  `plainInteger?` takes the zeros in front, a fraction of zeros and single underscores out
  of the text of an integer; what is left is a sign and digits.  `normalizePath` writes a path in
  its shortest form that needs no look at the file system.
-/

import AdmissionControl.Decoding
import AdmissionControl.Text.Blank

namespace AdmissionControl

namespace Config

/-! ## Integers -/

/-- Whether a character is a zero or an underscore, as they may stand in front of a number. -/
def isFiller (c : Char) : Bool := c == '0' || c == '_'

/-- A number without the zeros in front of it and the underscores among them.  Of nothing but
these the last is left, and so is the one before a point.  A minus sign may stand before the zeros
or behind them; anything else than a digit may not. -/
def dropLeadingZeros? : List Char → Option (List Char)
  | '-' :: rest => (dropLeadingZeros? rest).map ('-' :: ·)
  | '0' :: rest =>
    let filler := '0' :: rest.takeWhile isFiller
    match rest.dropWhile isFiller with
    | [] => some filler.getLast?.toList
    | '.' :: fraction => some (filler.getLast?.toList ++ '.' :: fraction)
    | c :: rest => if c.isDigit || c = '-' then some (c :: rest) else none
  | c :: rest => if c.isDigit then some (c :: rest) else none
  | [] => none

/-- A number without its fraction, if that is there and all zeros. -/
def dropZeroFraction (cs : List Char) : List Char :=
  match cs.dropWhile (· != '.') with
  | '.' :: c :: fraction =>
    if (c :: fraction).all (· == '0') then cs.takeWhile (· != '.') else cs
  | _ => cs

/-- A text whose parts single underscores join, without them. -/
def joinGroups? (cs : List Char) : Option (List Char) :=
  let groups := cs.splitOn '_'
  if groups.any List.isEmpty then none else some groups.flatten

/-- A text without a plus sign in front; no minus sign may follow that. -/
def dropPlus? : List Char → Option (List Char)
  | '+' :: '-' :: _ => none
  | '+' :: rest => some rest
  | cs => some cs

/-- The text of an integer without everything that does not count for its value. -/
def plainInteger? (cs : List Char) : Option (List Char) := do
  let unsigned ← dropPlus? (Text.strip Text.isWhiteSpace cs)
  joinGroups? (dropZeroFraction (← dropLeadingZeros? unsigned))

/-- The greatest length of the text of an integer, once it is plain. -/
def greatestIntegerLength : Nat := 4300

/-- The integer of a plain text: digits, perhaps behind a minus sign, of which only zero begins
with a zero. -/
def ofPlainInteger? (cs : List Char) : Option Int :=
  let digits := if cs.head? = some '-' then cs.drop 1 else cs
  if digits.isEmpty || !digits.all Char.isDigit || (digits.head? = some '0' && digits != ['0']) then
    none
  else
    let magnitude : Int := Decimal.asciiValue digits
    some (if cs.head? = some '-' then -magnitude else magnitude)

def integerOfText (s : Text) : Decoded Int :=
  match s.chars?.bind plainInteger? with
  | none => .fail .intParsing
  | some plain =>
    if greatestIntegerLength < plain.length then .fail .intParsingSize
    else match ofPlainInteger? plain with
      | some n => .value n
      | none => .fail .intParsing

/-- An integer: itself, a truth value, a float without a fraction, or a text that names one. -/
def integer : Decoder Int
  | .int n => .value n
  | .bool b => .value (if b then 1 else 0)
  | .float x => match Decoder.wholeFloat? x, x.toRat? with
    | some n, _ => .value n
    | none, some q => if q.den = 1 then .fail .intParsingSize else .fail .intFromFloat
    | none, none => .fail .finiteNumber
  | .str s => integerOfText s
  | _ => .fail .intType

/-- An integer from `low` on, and up to `high` if that is given. -/
def integerBetween (low : Int) (high : Option Int) : Decoder Int := fun j =>
  match integer j with
  | .value n =>
    if n < low then .fail .greaterThanEqual
    else if high.any (· < n) then .fail .lessThanEqual
    else .value n
  | .errors first more => .errors first more

/-! ## Floats -/

/-- The number that a text names, with white space around it or with single underscores inside. -/
def floatOfText? (cs : List Char) : Option Binary64 :=
  (Binary64.read? (Text.strip Text.isWhiteSpace cs)).or ((joinGroups? cs).bind Binary64.read?)

/-- A float: itself, an integer in range, a truth value, or a text that names one. -/
def float : Decoder Binary64
  | .float x => .value x
  | .int n => match Binary64.ofRat n with
    | .infinity _ => .fail .floatType
    | x => .value x
  | .bool b => .value (Binary64.ofRat (if b then 1 else 0))
  | .str s => match s.chars?.bind floatOfText? with
    | some x => .value x
    | none => .fail .floatParsing
  | _ => .fail .floatType

def isPositive : Binary64 → Bool
  | .nan => false
  | .infinity negative => !negative
  | x => x.toRat?.any (0 < ·)

def positiveFloat : Decoder Binary64 := fun j =>
  match float j with
  | .value x => if isPositive x then .value x else .fail .greaterThan
  | .errors first more => .errors first more

/-! ## Paths -/

/-- The separator of a path's parts. -/
def slash : Symbol := '/'

/-- What a path begins with: nothing, one slash, or exactly two. -/
def pathRoot (symbols : List Symbol) : List Symbol :=
  let slashes := symbols.takeWhile (· == slash)
  if slashes.length = 2 then slashes else slashes.take 1

/-- A path without repeated slashes, slashes at its end, and parts that are one dot; two dots
stay.  The path of nothing is one dot. -/
def normalizePath (path : Text) : Text :=
  let parts := (path.symbols.splitOn slash).filter fun part => part != [] && part != [.char '.']
  let normal : Text := ⟨pathRoot path.symbols ++ [slash].intercalate parts⟩
  if normal.isEmpty then "." else normal

def path : Decoder Text
  | .str s => .value (normalizePath s)
  | _ => .fail .pathType

def existingPath (exists? : Text → Bool) : Decoder Text := fun j =>
  match path j with
  | .value p => if exists? p then .value p else .fail .valueError
  | .errors first more => .errors first more

end Config

end AdmissionControl
