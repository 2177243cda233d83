import MudClient.Text.Printable

/-!
# Quoted text

* `Text.quoteFor`: the delimiter a text is quoted with
* `Text.quotedChar`: how one character is written between the delimiters
* `Text.quoted`: the text between delimiters, with everything unprintable written as a number
-/

set_option autoImplicit false

namespace MudClient.Text

/-- The last `width` hexadecimal digits of a number, in small letters. -/
def hexDigits : Nat → Nat → Text
  | 0, _ => []
  | width + 1, n => hexDigits width (n / 16) ++ [Nat.digitChar (n % 16)]

/-- A single quote, unless the text holds one and no double quote. -/
def quoteFor (t : Text) : Char :=
  if t.contains '\'' && !t.contains '"' then '"' else '\''

/-- A backslash goes before the delimiter and before a backslash; line ends and tabs have their
letters; any other unprintable character is its number in two, four or eight digits. -/
def quotedChar (quote c : Char) : Text :=
  if c = quote || c = '\\' then ['\\', c]
  else if c = '\n' then ['\\', 'n']
  else if c = '\r' then ['\\', 'r']
  else if c = '\t' then ['\\', 't']
  else if isPrintable c then [c]
  else if c.toNat < 0x100 then '\\' :: 'x' :: hexDigits 2 c.toNat
  else if c.toNat < 0x10000 then '\\' :: 'u' :: hexDigits 4 c.toNat
  else '\\' :: 'U' :: hexDigits 8 c.toNat

def quoted (t : Text) : Text :=
  let quote := quoteFor t
  quote :: t.flatMap (quotedChar quote) ++ [quote]

end MudClient.Text
