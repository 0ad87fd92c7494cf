import TemplateTypes.Text.Basic

/-!
# JSON — values

A JSON text can hold strings that are no text, such as one half of a surrogate pair.  Reading keeps
such a string as `none`, so that it disturbs only a reader that looks at it.  Nobody looks at a
number, so numbers are kept without their value.  Objects keep the order and the repetitions of
their members.
-/

namespace TemplateTypes

inductive Json where
  | null
  | bool (b : Bool)
  | number
  | string (content : Option Text)
  | list (items : List Json)
  | object (members : List (Option Text × Json))
deriving Inhabited

namespace Json

def text (t : Text) : Json := .string (some t)

/-- A text, or null where there is none. -/
def textOrNull : Option Text → Json
  | none => .null
  | some t => .text t

/-- An object all of whose names are texts. -/
def record (members : List (Text × Json)) : Json :=
  .object (members.map fun m => (some m.1, m.2))

end Json

end TemplateTypes
