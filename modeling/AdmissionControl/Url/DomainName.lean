/-
  Internationalized domain names.

  A name is a sequence of labels between dots.  A label beyond ASCII has an ASCII form: a prefix
  and its Punycode.  `toAscii?` gives the ASCII form of a name and `toUnicode` what such a form
  stands for, where each label keeps the rules for its characters, its hyphens and the direction
  in which it is written.
-/

import AdmissionControl.Url.DomainTable
import AdmissionControl.Url.Punycode

namespace AdmissionControl.Url

/-- Why some characters are no label, or not the ASCII form of one. -/
inductive LabelError where
  /-- Any reason but the others: a joiner out of place is one. -/
  | malformed
  /-- A character that no label permits. -/
  | character
  /-- A character that only labels of another kind permit. -/
  | characterHere
  /-- The directions of the characters do not agree. -/
  | directions
  deriving DecidableEq

/-! ## Case -/

/-- The lowercase form of a character. -/
def lowerChar (c : Char) : Char :=
  if c.toNat < 0x80 then c.toLower
  else match capitalRanges.find? fun entry => entry.1.contains c.toNat with
    | some (_, distance) => Char.ofNat (c.toNat + distance).toNat
    | none => c

def hasCase (c : Char) : Bool :=
  c.isLower || lowerChar c != c ||
    capitalRanges.any fun entry => entry.1.contains ((c.toNat : Int) - entry.2).toNat

/-- Whether a character does not count for where a word begins and ends. -/
def isInsideWord (c : Char) : Bool :=
  "'.:^\x60\u00a8\u00ad\u00b7\u00b8".toList.contains c || liesIn markRanges c

/-- Whether a sigma between two texts ends a word. -/
def isFinalSigma (before behind : List Char) : Bool :=
  (before.reverse.dropWhile isInsideWord).head?.any hasCase &&
    !(behind.dropWhile isInsideWord).head?.any hasCase

/-- What is behind a part of a text in lower case.  A sigma at the end of a word has a form of its
own, and the capital i with a dot becomes two characters. -/
def lowerBehind (before : List Char) : List Char → List Char
  | [] => []
  | '\u03a3' :: behind =>
    (if isFinalSigma before behind then '\u03c2' else '\u03c3') ::
      lowerBehind (before ++ ['\u03a3']) behind
  | '\u0130' :: behind => 'i' :: '\u0307' :: lowerBehind (before ++ ['\u0130']) behind
  | c :: behind => lowerChar c :: lowerBehind (before ++ [c]) behind

def lowerCase (cs : List Char) : List Char := lowerBehind [] cs

/-! ## Labels -/

def asciiPrefix : List Char := ['x', 'n', '-', '-']

/-- Whether a character may stand in any label. -/
def isPermitted (c : Char) : Bool :=
  c.isLower || c.isDigit || c == '-' || (0x80 ≤ c.toNat && liesIn permittedRanges c)

/-- Whether one of the two kinds of Arabic digits is that of a character. -/
def isArabicDigit (extended : Bool) (c : Char) : Bool :=
  let start := if extended then 0x6f0 else 0x660
  start ≤ c.toNat && c.toNat ≤ start + 9

/-- Whether a character that some labels permit may stand between what is before and behind it. -/
def isPermittedBetween (before : List Char) (c : Char) (behind : List Char) : Bool :=
  let label := before ++ c :: behind
  let previous := before.getLast?
  match c with
  | '\u200c' | '\u200d' => previous.any (liesIn viramaRanges)
  | '\u00b7' => previous == some 'l' && behind.head? == some 'l'
  | '\u0375' => behind.head?.any (liesIn greekRanges)
  | '\u05f3' | '\u05f4' => previous.any (liesIn hebrewRanges)
  | '\u30fb' => label.any fun d => d != c && liesIn japaneseRanges d
  | _ =>
    (isArabicDigit false c && !label.any (isArabicDigit true)) ||
      (isArabicDigit true c && !label.any (isArabicDigit false))

/-- Whether a character is one of the two that say whether letters join. -/
def isJoiner (c : Char) : Bool := c == '\u200c' || c == '\u200d'

/-- Whether a character, other than a joiner, is one that some labels permit. -/
def isSometimesPermitted (c : Char) : Bool :=
  "\u00b7\u0375\u05f3\u05f4\u30fb".toList.contains c ||
    isArabicDigit false c || isArabicDigit true c

/-- Checks that all characters behind a part of a label may stand where they do. -/
def checkCharacters (before : List Char) : List Char → Except LabelError Unit
  | [] => .ok ()
  | c :: behind =>
    if isPermitted c || isPermittedBetween before c behind then
      checkCharacters (before ++ [c]) behind
    else if isJoiner c then .error .malformed
    else .error (if isSometimesPermitted c then .characterHere else .character)

/-- Whether a label begins and ends without a hyphen and has no two hyphens in third and fourth
place. -/
def hyphensOk (label : List Char) : Bool :=
  label.head? != some '-' && label.getLast? != some '-' && (label.drop 2).take 2 != ['-', '-']

/-- Whether no two characters of a label would make another one together. -/
def isComposed : List Char → Bool
  | c :: d :: rest =>
    !((composing.lookup d.toNat).getD []).contains c.toNat && isComposed (d :: rest)
  | _ => true

def isRightToLeft (c : Char) : Bool := liesIn rightToLeftRanges c

/-- Whether a character is a digit whose direction is that of European digits. -/
def isEuropeanDigit (c : Char) : Bool := c.isDigit || isArabicDigit true c

/-- Whether a character has no direction of its own. -/
def isNeutral (c : Char) : Bool := c == '-' || liesIn markRanges c

/-- Whether the directions of a label's characters agree.  They do in a label without letters from
right to left and without Arabic digits.  Any other begins with a letter.  If that is one from
right to left there are no letters from left to right and digits of one kind; and else there are
none from right to left.  It ends with a letter or a digit, and perhaps marks behind it. -/
def directionsOk (label : List Char) : Bool :=
  if !label.any fun c => isRightToLeft c || isArabicDigit false c then true
  else
    let hasDigit := isEuropeanDigit
    let ending := label.reverse.dropWhile (liesIn markRanges)
    match label.head? with
    | none => true
    | some first =>
      if isRightToLeft first then
        label.all (fun c =>
            isRightToLeft c || isArabicDigit false c || hasDigit c || isNeutral c) &&
          !(label.any hasDigit && label.any (isArabicDigit false)) && ending.head? != some '-'
      else false

def checkLabel (label : List Char) : Except LabelError Unit :=
  if label.isEmpty || !isComposed label || !hyphensOk label ||
      label.head?.any (fun c => isPermitted c && liesIn markRanges c) then
    .error .malformed
  else do
    checkCharacters [] label
    if directionsOk label then .ok () else .error .directions

/-- The label that an ASCII form stands for. -/
def labelOfAscii (ascii : List Char) : Except LabelError (List Char) :=
  let lower := ascii.map Char.toLower
  if lower.take 4 = asciiPrefix then
    if (lower.drop 4).isEmpty || lower.getLast? == some '-' then .error .malformed
    else match Punycode.decode? (lower.drop 4) with
      | some label => (checkLabel label).map fun _ => label
      | none => .error .malformed
  else (checkLabel lower).map fun _ => lower

/-- The ASCII form of a label, of at most 63 characters. -/
def asciiOfLabel (label : List Char) : Except LabelError (List Char) := do
  let ascii ←
    if label.all fun c => c.toNat < 0x80 then (labelOfAscii label).map fun _ => label
    else (checkLabel label).map fun _ => asciiPrefix ++ Punycode.encode label
  if ascii.length ≤ 63 then .ok ascii else .error .malformed

/-! ## Names -/

def dots : List Char := ['.', '\u3002', '\uff0e', '\uff61']

/-- The labels of a name; a dot at the end begins no label. -/
def labelsOf (name : List Char) : List (List Char) :=
  let labels := name.splitOnP dots.contains
  if labels.getLast? = some [] then labels.dropLast else labels

/-- A name with each of its labels put into another form.  A name without labels has none. -/
def mapLabels (convert : List Char → Except LabelError (List Char)) (name : List Char) :
    Except LabelError (List Char) := do
  if name.isEmpty then throw .malformed
  let labels ← (labelsOf name).mapM convert
  let final := if name.getLast?.any dots.contains then ['.'] else []
  return ['.'].intercalate labels ++ final

/-- The greatest length of a name, without a dot at its end. -/
def greatestNameLength : Nat := 253

def toAscii? (name : List Char) : Option (List Char) :=
  (mapLabels asciiOfLabel name).toOption.filter fun ascii =>
    ascii.length ≤ greatestNameLength + (if ascii.getLast? = some '.' then 1 else 0)

/-- The name that an ASCII form stands for. -/
def toUnicode (ascii : List Char) : Except LabelError (List Char) := mapLabels labelOfAscii ascii

end AdmissionControl.Url
