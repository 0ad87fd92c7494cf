import TemplateTypes.Json.Basic
import TemplateTypes.Json.Token

/-!
# JSON — reading

The tokens of a value drive a machine whose state says what may come next and which lists and
objects are still open.  The text is read when the machine has finished one value and no token is
left.  Open containers keep what they hold in reverse.
-/

namespace TemplateTypes.Json

/-- A container that waits for the value under way. -/
inductive Frame where
  | list (items : List Json)
  | object (members : List (Option Text × Json)) (name : Option Text)

inductive State where
  | value (stack : List Frame)
  | listStart (stack : List Frame)
  | afterItem (items : List Json) (stack : List Frame)
  | objectStart (stack : List Frame)
  | memberName (members : List (Option Text × Json)) (stack : List Frame)
  | afterName (members : List (Option Text × Json)) (name : Option Text) (stack : List Frame)
  | afterMember (members : List (Option Text × Json)) (stack : List Frame)
  | done (v : Json)

/-- A finished value goes into the container that waits for it. -/
def State.give (v : Json) : List Frame → State
  | [] => .done v
  | .list items :: st => .afterItem (v :: items) st
  | .object members name :: st => .afterMember ((name, v) :: members) st

/-- The first token of a value. -/
def State.start (st : List Frame) : Token → Option State
  | .openList => some (.listStart st)
  | .openObject => some (.objectStart st)
  | .null => some (.give .null st)
  | .bool b => some (.give (.bool b) st)
  | .number => some (.give .number st)
  | .string s => some (.give (.string s) st)
  | _ => none

def State.step : State → Token → Option State
  | .value st, k => State.start st k
  | .listStart st, .closeList => some (.give (.list []) st)
  | .listStart st, k => State.start (.list [] :: st) k
  | .afterItem items st, .comma => some (.value (.list items :: st))
  | .afterItem items st, .closeList => some (.give (.list items.reverse) st)
  | .objectStart st, .closeObject => some (.give (.object []) st)
  | .objectStart st, .string s => some (.afterName [] s st)
  | .memberName members st, .string s => some (.afterName members s st)
  | .afterName members name st, .colon => some (.value (.object members name :: st))
  | .afterMember members st, .comma => some (.memberName members st)
  | .afterMember members st, .closeObject => some (.give (.object members.reverse) st)
  | _, _ => none

def State.run (s : State) (ks : List Token) : Option State :=
  ks.foldlM State.step s

def ofTokens? (ks : List Token) : Option Json :=
  match (State.value []).run ks with
  | some (.done v) => some v
  | _ => none

/-- The value that the elements of a JSON text spell. -/
def ofElements? (t : List (Option Char)) : Option Json :=
  (tokens t).bind ofTokens?

/-- Reads a text. -/
def parse? (t : Text) : Option Json :=
  ofElements? (t.map some)

/-- Reads bytes; only a string may hold bytes that spell nothing. -/
def parseBytes? (b : Bytes) : Option Json :=
  ofElements? (Text.Utf8.decode b)

theorem parseBytes?_encode (t : Text) : parseBytes? (Text.Utf8.encode t) = parse? t := by
  rw [parseBytes?, Text.Utf8.decode_encode, parse?]

end TemplateTypes.Json
