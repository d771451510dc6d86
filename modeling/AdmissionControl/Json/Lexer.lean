/-
  From JSON text to tokens.

  The scanner reads one symbol at a time.  Between tokens it skips blanks; inside a string it
  resolves escapes; and every longest run of other characters is a word, which must be a literal
  name or a number as a whole.  Beyond the literals of the standard, the words for infinities
  and for no number are accepted.  A number with a point or an exponent is a float, any other an
  integer, which may have so many digits and no more.
-/

import AdmissionControl.Json.Basic
import AdmissionControl.Text.Hexadecimal

namespace AdmissionControl

/-- Why a text, or the bytes of one, are not read as JSON. -/
inductive JsonError where
  /-- The bytes are not well formed in their encoding form. -/
  | notText
  | malformed
  /-- An integer has too many digits. -/
  | integerTooLong
  /-- Containers stand too deep in each other. -/
  | tooDeep
  deriving DecidableEq

namespace Json

inductive Token where
  | beginArray
  | endArray
  | beginObject
  | endObject
  | colon
  | comma
  | text (s : Text)
  /-- A word, as the value that it denotes. -/
  | word (value : Except JsonError Json)

/-! ## Words -/

/-- Digits without a leading zero, unless zero is all there is. -/
def isIntegral (digits : List Char) : Bool :=
  match digits with
  | [] => false
  | ['0'] => true
  | first :: rest => first != '0' && first.isDigit && rest.all Char.isDigit

/-- The float that digits and the text behind them denote, if that is a fraction or an exponent. -/
def readFloat? (negative : Bool) (whole rest : List Char) : Option Json :=
  let fractionOk := match rest with
    | '.' :: tail => (tail.head?.map Char.isDigit).getD false
    | _ => true
  if fractionOk then
    (Decimal.readUnsigned? negative (whole ++ rest)).map fun d => .float d.toBinary64
  else none

/-- Whether the text behind the digits of a number begins with a fraction or an exponent that is
complete, so that the digits are not an integer of their own. -/
def continuesNumber : List Char → Bool
  | '.' :: c :: _ => c.isDigit
  | e :: sign :: c :: _ =>
    (e == 'e' || e == 'E') && (sign.isDigit || ((sign == '+' || sign == '-') && c.isDigit))
  | [e, c] => (e == 'e' || e == 'E') && c.isDigit
  | _ => false

/-- An unsigned number: an integer, or a float when a point or an exponent follows.  Too many
digits of an integer are an error before anything that may be wrong behind them. -/
def readNumber (negative : Bool) (cs : List Char) : Except JsonError Json :=
  let whole := cs.takeWhile Char.isDigit
  let rest := cs.dropWhile Char.isDigit
  if !isIntegral whole then .error .malformed
  else if greatestDigitCount < whole.length && !continuesNumber rest then .error .integerTooLong
  else if rest.isEmpty then
    let n : Int := Decimal.asciiValue whole
    .ok (.int (if negative then -n else n))
  else match readFloat? negative whole rest with
    | some value => .ok value
    | none => .error .malformed

def readWord (cs : List Char) : Except JsonError Json :=
  match String.ofList cs with
  | "null" => .ok .null
  | "true" => .ok (.bool true)
  | "false" => .ok (.bool false)
  | "NaN" => .ok (.float .nan)
  | "Infinity" => .ok (.float (.infinity false))
  | "-Infinity" => .ok (.float (.infinity true))
  | _ =>
    match cs with
    | '-' :: rest => readNumber true rest
    | _ => readNumber false cs

/-! ## Strings -/

/-- The symbols of a string read so far, last first, and whether the last of them was given by its
number. -/
structure StringScan where
  symbols : List Symbol := []
  byNumber : Bool := false

namespace StringScan

def push (scan : StringScan) (s : Symbol) : StringScan := ⟨s :: scan.symbols, false⟩

/-- A symbol given by its number further.  It makes one character with the symbol before, when
that was given by its number too and the two are halves that belong together. -/
def pushNumber (scan : StringScan) (s : Symbol) : StringScan :=
  match scan.byNumber, scan.symbols with
  | true, before :: rest =>
    match Symbol.pair? before s with
    | some c => ⟨.char c :: rest, false⟩
    | none => ⟨s :: scan.symbols, true⟩
  | _, _ => ⟨s :: scan.symbols, true⟩

def finish (scan : StringScan) : Text := ⟨scan.symbols.reverse⟩

end StringScan

/-- The character that a one letter escape stands for. -/
def escaped? : Char → Option Char
  | '\x22' => some '\x22'
  | '\x5c' => some '\x5c'
  | '/' => some '/'
  | 'b' => some '\x08'
  | 'f' => some '\x0c'
  | 'n' => some '\n'
  | 'r' => some '\r'
  | 't' => some '\t'
  | _ => none

/-! ## The scanner -/

/-- Where the scanner is: what it has read of the token at hand. -/
inductive Scan where
  | between
  /-- Inside a word, its characters last first. -/
  | word (chars : List Char)
  | text (scan : StringScan)
  | escape (scan : StringScan)
  /-- Inside an escape by number: the digits read so far and their value. -/
  | number (scan : StringScan) (count value : Nat)

def isSeparator (c : Char) : Bool := c == ' ' || c == '\t' || c == '\n' || c == '\r'

def punctuation? : Char → Option Token
  | '[' => some .beginArray
  | ']' => some .endArray
  | '\x7b' => some .beginObject
  | '\x7d' => some .endObject
  | ':' => some .colon
  | ',' => some .comma
  | _ => none

/-- The scanner between tokens, at a character. -/
def startToken (c : Char) : List Token × Scan :=
  if isSeparator c then ([], .between)
  else if c = '\x22' then ([], .text {})
  else match punctuation? c with
    | some token => ([token], .between)
    | none => ([], .word [c])

def endsWord (c : Char) : Bool := isSeparator c || c == '\x22' || (punctuation? c).isSome

def wordToken (reversedChars : List Char) : Token := .word (readWord reversedChars.reverse)

/-- One step of the scanner at a character: the tokens finished by it, and where the scanner is
then. -/
def Scan.stepChar (c : Char) : Scan → Option (List Token × Scan)
  | .between => some (startToken c)
  | .word chars =>
    if endsWord c then
      let (tokens, next) := startToken c
      some (wordToken chars :: tokens, next)
    else some ([], .word (c :: chars))
  | .text scan =>
    if c = '\x22' then some ([.text scan.finish], .between)
    else if c = '\x5c' then some ([], .escape scan)
    else if c.toNat < 0x20 then none
    else some ([], .text (scan.push c))
  | .escape scan =>
    if c = 'u' then some ([], .number scan 0 0)
    else (escaped? c).map fun e => ([], .text (scan.push e))
  | .number scan count value =>
    (Text.hexValue? c).bind fun digit =>
      let value := 16 * value + digit
      if count = 3 then (Symbol.ofCode? value).map fun s => ([], .text (scan.pushNumber s))
      else some ([], .number scan (count + 1) value)

/-- One step of the scanner at half of a surrogate pair, which may stand in a string and nowhere
else. -/
def Scan.stepHalf (half : Symbol) : Scan → Option (List Token × Scan)
  | .text scan => some ([], .text (scan.push half))
  | .word chars => some ([wordToken chars, .word (.error .malformed)], .between)
  | _ => none

def Scan.step (s : Symbol) (scan : Scan) : Option (List Token × Scan) :=
  match s with
  | .char c => scan.stepChar c
  | .half _ => scan.stepHalf s

/-- The tokens that the end of the text finishes; a string must not be open. -/
def Scan.finish : Scan → Option (List Token)
  | .between => some []
  | .word chars => some [wordToken chars]
  | _ => none

end Json

end AdmissionControl
