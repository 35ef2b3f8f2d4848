import TopicShell.Text.Printable

/-!
# Quoted literals

A text between quotes, with a backslash before backslashes and the quote, short escapes for tab,
line feed and carriage return, and numeric escapes for other characters that are not printable.
Single quotes are used unless the text holds a single quote and no double quote.
-/

namespace TopicShell.Text.Literal

def hexDigit (n : Nat) : Char :=
  Nat.digitChar n

/-- `width` hexadecimal digits of a number. -/
def hex : Nat → Nat → List Char
  | 0, _ => []
  | width + 1, n => hex width (n / 16) ++ [hexDigit (n % 16)]

def escape (quote c : Char) : List Char :=
  if c = '\\' || c = quote then ['\\', c]
  else if c = '\n' then ['\\', 'n']
  else if c = '\r' then ['\\', 'r']
  else if c = '\t' then ['\\', 't']
  else if isPrintable c then [c]
  else if c.toNat < 0x100 then '\\' :: 'x' :: hex 2 c.toNat
  else if c.toNat < 0x10000 then '\\' :: 'u' :: hex 4 c.toNat
  else '\\' :: 'U' :: hex 8 c.toNat

def quoteFor (cs : List Char) : Char :=
  if cs.contains '\'' && !cs.contains '"' then '"' else '\''

def write (cs : List Char) : List Char :=
  let quote := quoteFor cs
  quote :: (cs.flatMap (escape quote) ++ [quote])

def ofText (s : String) : String :=
  String.ofList (write s.toList)

example : ofText "it's" = "\"it's\"" := by decide +kernel
example : ofText "a\n\x01" = "'a\\n\\x01'" := by decide +kernel

end TopicShell.Text.Literal
