import TemplateTypes.Text.Line
import TemplateTypes.Text.Identifier
import TemplateTypes.Comment

/-!
# Macro signatures — the callables of a template

Every `@typedmacro` block describes one callable: the first line that is not blank is its
signature, an identifier with parameters in parentheses; the other lines are its description.
The parameters reach to the last closing parenthesis of the line.  A block whose first line is no
signature describes nothing.
-/

namespace TemplateTypes

structure MacroSignature where
  name : Text
  params : Text
  docstring : Option Text
deriving DecidableEq, Inhabited

namespace MacroSignature

def label : Text := "@typedmacro".toList

/-- Name and parameters of a signature line; what follows the last parenthesis is dropped. -/
def signature? (line : Text) : Option (Text × Text) :=
  match Text.cutIdentifier? line with
  | some (name, '(' :: t) => (Text.cutLast? ')' t).map fun s => (name, s.1)
  | _ => none

/-- The description: its lines joined by single spaces. -/
def describe : List Text → Option Text
  | [] => none
  | ls => some (Text.join [' '] ls)

/-- The lines of a block that hold something, trimmed. -/
def contentLines (interior : Text) : List Text :=
  ((Text.lines interior).map Text.trim).filter (· ≠ [])

def ofInterior? (interior : Text) : Option MacroSignature :=
  match contentLines interior with
  | [] => none
  | first :: rest => (signature? first).map fun s => ⟨s.1, s.2, describe rest⟩

/-- The callables that a template describes, in order. -/
def ofDocument (document : Text) : List MacroSignature :=
  (Comment.interiors label document).filterMap ofInterior?

end MacroSignature

end TemplateTypes
