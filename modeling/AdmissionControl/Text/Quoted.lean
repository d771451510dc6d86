/-
  Quoted text, the form in which names and values appear inside messages.

  The text stands between single quotes, or between double quotes when it holds a single quote
  and no double one.  The enclosing quote and the backslash are escaped, and a symbol that is not
  printable is written as an escape of its code point.  Half of a surrogate pair is never
  printable, so quoted text is a string whatever the text was.
-/

import AdmissionControl.Text.Basic
import AdmissionControl.Text.Hexadecimal
import AdmissionControl.Text.Printable

namespace AdmissionControl.Text

def quoteFor (symbols : List Symbol) : Char :=
  if symbols.contains (.char '\x27') && !symbols.contains (.char '\x22') then '\x22' else '\x27'

/-- The escape of a code point, in as few digits as there is a form for. -/
def escapeCode (n : Nat) : List Char :=
  if n < 0x100 then ['\x5c', 'x'] ++ hex 2 n
  else if n < 0x10000 then ['\x5c', 'u'] ++ hex 4 n
  else ['\x5c', 'U'] ++ hex 8 n

/-- One symbol of a text between the given quotes. -/
def quoteSymbol (quote : Char) : Symbol → List Char
  | .half offset => escapeCode (Symbol.half offset).code
  | .char c =>
    if c = quote || c = '\x5c' then ['\x5c', c]
    else if c = '\n' then ['\x5c', 'n']
    else if c = '\r' then ['\x5c', 'r']
    else if c = '\t' then ['\x5c', 't']
    else if isPrintable c then [c]
    else escapeCode c.toNat

def quoted (t : Text) : String :=
  let quote := quoteFor t.symbols
  String.ofList (quote :: t.symbols.flatMap (quoteSymbol quote) ++ [quote])

end AdmissionControl.Text
