import TemplateTypes.Text.Combining

/-!
# Quoted texts — texts as they stand in a message

Each text stands between double quotes and shows every character: what cannot be seen on its own
is written by name or by number.  A list of texts stands in square brackets.
-/

namespace TemplateTypes.Text.Quoted

def hexDigits (n : Nat) : Text :=
  Nat.toDigits 16 n

/-- The number of a character, as `\u` and its hexadecimal digits in braces. -/
def byNumber (c : Char) : Text :=
  ['\\', 'u', '\x7b'] ++ hexDigits c.toNat ++ ['\x7d']

def encodeChar (c : Char) : Text :=
  if c = '\x00' then ['\\', '0']
  else if c = '\t' then ['\\', 't']
  else if c = '\n' then ['\\', 'n']
  else if c = '\r' then ['\\', 'r']
  else if c = '"' then ['\\', '"']
  else if c = '\\' then ['\\', '\\']
  else if isCombining c || !isPrintable c then byNumber c
  else [c]

def encode (t : Text) : Text :=
  '"' :: t.flatMap encodeChar ++ ['"']

def encodeList (ts : List Text) : Text :=
  '[' :: join [',', ' '] (ts.map encode) ++ [']']

end TemplateTypes.Text.Quoted
