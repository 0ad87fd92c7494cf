import TemplateTypes.Json.Reader

/-!
# Replies — what a completion engine answers

An engine answers with a list of completions or of parameters.  Each is read from a JSON object by
the names of its members, or from a JSON list by position.  Members nobody asks for are passed
over; a member that is asked for may stand once only.  Printed records list their members in
alphabetical order.
-/

namespace TemplateTypes

/-! ## 1. Records -/

namespace Json

/-- The value of the member `name`: at most one, where it may be missing.  Nothing where the member
is repeated. -/
def member? (members : List (Option Text × Json)) (name : Text) : Option (Option Json) :=
  match members.filter (fun m => m.1 = some name) with
  | [] => some none
  | [m] => some (some m.2)
  | _ => none

/-- The values under the given names, each of which may be missing. -/
def fields? (names : List Text) : Json → Option (List (Option Json))
  | .object members =>
    if members.all (fun m => m.1.isSome) then names.mapM (member? members) else none
  | .list items =>
    if items.length ≤ names.length then
      some (items.map some ++ List.replicate (names.length - items.length) none)
    else none
  | _ => none

/-- A text that must be there. -/
def required? : Option Json → Option Text
  | some (.string s) => s
  | _ => none

/-- A text that is empty where it is missing. -/
def textOrEmpty? : Option Json → Option Text
  | none => some []
  | some (.string s) => s
  | _ => none

/-- A text that may be missing or null. -/
def optional? : Option Json → Option (Option Text)
  | none => some none
  | some .null => some none
  | some (.string s) => s.map some
  | _ => none

end Json

/-! ## 2. Completions -/

/-- Something that can follow an expression. -/
structure Completion where
  name : Text
  kind : Text
  docstring : Text
deriving DecidableEq, Inhabited

namespace Completion

def fieldNames : List Text := ["name".toList, "type".toList, "docstring".toList]

def ofFields? : List (Option Json) → Option Completion
  | [name, kind, docstring] =>
    (Json.required? name).bind fun name =>
      (Json.required? kind).bind fun kind =>
        (Json.textOrEmpty? docstring).map fun docstring => ⟨name, kind, docstring⟩
  | _ => none

def ofJson? (j : Json) : Option Completion :=
  (j.fields? fieldNames).bind ofFields?

def toJson (c : Completion) : Json :=
  .record [("docstring".toList, .text c.docstring), ("name".toList, .text c.name),
    ("type".toList, .text c.kind)]

end Completion

/-! ## 3. Parameters -/

/-- One parameter of a callable; the docstring is that of the callable. -/
structure Parameter where
  name : Text
  kind : Text
  default : Option Text
  type : Text
  docstring : Text
deriving DecidableEq, Inhabited

namespace Parameter

def fieldNames : List Text :=
  ["name".toList, "kind".toList, "default".toList, "annotation".toList, "docstring".toList]

def ofFields? : List (Option Json) → Option Parameter
  | [name, kind, default, type, docstring] =>
    (Json.required? name).bind fun name =>
      (Json.textOrEmpty? kind).bind fun kind =>
        (Json.optional? default).bind fun default =>
          (Json.textOrEmpty? type).bind fun type =>
            (Json.textOrEmpty? docstring).map fun docstring =>
              ⟨name, kind, default, type, docstring⟩
  | _ => none

def ofJson? (j : Json) : Option Parameter :=
  (j.fields? fieldNames).bind ofFields?

def toJson (p : Parameter) : Json :=
  .record [("annotation".toList, .text p.type), ("default".toList, .textOrNull p.default),
    ("docstring".toList, .text p.docstring), ("kind".toList, .text p.kind),
    ("name".toList, .text p.name)]

end Parameter

/-! ## 4. Lists of records -/

namespace Json

/-- A list all of whose items can be read. -/
def listOf? {α : Type} (read : Json → Option α) : Json → Option (List α)
  | .list items => items.mapM read
  | _ => none

end Json

end TemplateTypes
