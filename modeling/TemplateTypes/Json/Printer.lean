import TemplateTypes.Json.Basic

/-!
# JSON — printing

Two layouts of a value: on one line without spaces, or with one item or member on each line,
indented by two spaces a level.  A string that is no text is written as half of a surrogate pair,
and a number, whose value is not kept, as zero; both read back as what they are.
-/

namespace TemplateTypes.Json

def hexDigit (n : Nat) : Char :=
  if n < 10 then Char.ofNat (48 + n) else Char.ofNat (87 + n)

/-- Quote, backslash and the controls below the space are escaped; all else stands as it is. -/
def escapeChar (c : Char) : Text :=
  if c = '"' then ['\\', '"']
  else if c = '\\' then ['\\', '\\']
  else if c = '\x08' then ['\\', 'b']
  else if c = '\x0c' then ['\\', 'f']
  else if c = '\n' then ['\\', 'n']
  else if c = '\r' then ['\\', 'r']
  else if c = '\t' then ['\\', 't']
  else if c.toNat < 0x20 then
    ['\\', 'u', '0', '0', hexDigit (c.toNat / 16), hexDigit (c.toNat % 16)]
  else [c]

def quote : Option Text → Text
  | some t => '"' :: t.flatMap escapeChar ++ ['"']
  | none => "\"\\ud800\"".toList

def boolText (b : Bool) : Text :=
  if b then "true".toList else "false".toList

/-! ## 1. On one line -/

mutual

def compact : Json → Text
  | .null => "null".toList
  | .bool b => boolText b
  | .number => ['0']
  | .string s => quote s
  | .list items => '[' :: Text.join [','] (compactItems items) ++ [']']
  | .object members => '{' :: Text.join [','] (compactMembers members) ++ ['}']

def compactItems : List Json → List Text
  | [] => []
  | v :: vs => compact v :: compactItems vs

def compactMembers : List (Option Text × Json) → List Text
  | [] => []
  | (name, v) :: ms => (quote name ++ ':' :: compact v) :: compactMembers ms

end

/-! ## 2. On many lines -/

def indent (level : Nat) : Text :=
  List.replicate (2 * level) ' '

/-- Lays out the printed items of a container; an empty one stays on its line. -/
def enclose (opening closing : Char) (level : Nat) (items : List Text) : Text :=
  if items = [] then [opening, closing]
  else
    let inner := '\n' :: indent (level + 1)
    opening :: inner ++ Text.join (',' :: inner) items ++ '\n' :: indent level ++ [closing]

mutual

def prettyAt (level : Nat) : Json → Text
  | .null => "null".toList
  | .bool b => boolText b
  | .number => ['0']
  | .string s => quote s
  | .list items => enclose '[' ']' level (prettyItems (level + 1) items)
  | .object members => enclose '{' '}' level (prettyMembers (level + 1) members)

def prettyItems (level : Nat) : List Json → List Text
  | [] => []
  | v :: vs => prettyAt level v :: prettyItems level vs

def prettyMembers (level : Nat) : List (Option Text × Json) → List Text
  | [] => []
  | (name, v) :: ms =>
    (quote name ++ ':' :: ' ' :: prettyAt level v) :: prettyMembers level ms

end

def pretty (v : Json) : Text :=
  prettyAt 0 v

end TemplateTypes.Json
