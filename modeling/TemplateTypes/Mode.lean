import TemplateTypes.Text.Basic

/-!
# Modes — the three kinds of query

What an editor may ask about an expression: what can follow it after a dot, which parameters it
takes, and what is declared about it.
-/

namespace TemplateTypes

inductive Mode where
  | complete
  | signature
  | hover
deriving DecidableEq, Inhabited

namespace Mode

def name : Mode → Text
  | .complete => "complete".toList
  | .signature => "signature".toList
  | .hover => "hover".toList

def ofName? (t : Text) : Option Mode :=
  [Mode.complete, .signature, .hover].find? fun m => m.name = t

theorem ofName?_name (m : Mode) : ofName? m.name = some m := by
  cases m <;> decide

/-- Why a text names no mode. -/
def unknownMessage (t : Text) : Text :=
  "invalid variant: ".toList ++ t

end Mode

end TemplateTypes
