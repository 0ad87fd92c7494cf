import TemplateTypes.TypesBlock
import TemplateTypes.Mode

/-!
# Probes — the source text that a completion engine looks at

A probe holds the imports of a stub, then its declarations without their comments, then an
assignment of the expression in question with a dot or an opening parenthesis behind it.  The
cursor stands at the end of that last line, so the engine answers for the expression.
-/

namespace TemplateTypes

/-- Lines count from one, columns from zero. -/
structure Cursor where
  line : Nat
  column : Nat
deriving DecidableEq, Inhabited

structure Probe where
  source : Text
  cursor : Cursor
deriving DecidableEq, Inhabited

namespace Probe

def target : Text := "__typedjinja_target__".toList

def trigger : Mode → Char
  | .signature => '('
  | _ => '.'

/-- A line with a colon that does not begin like an import, whatever follows that beginning. -/
def isDeclaration (line : Text) : Bool :=
  line.contains ':' && !Text.beginsWith "import".toList line && !Text.beginsWith "from".toList line

def withoutComment (line : Text) : Text :=
  Text.trim (Text.upTo '#' line)

def targetLine (expr : Text) (mode : Mode) : Text :=
  target ++ " = ".toList ++ expr ++ [trigger mode]

/-- The lines of a stub that come before the target line. -/
def context (stub : Text) : List Text :=
  let ls := Text.lines stub
  ls.filter BlockLine.isImport ++ (ls.filter isDeclaration).map withoutComment

/-- The cursor counts the target line as one line, whatever the expression holds. -/
def ofStub (stub expr : Text) (mode : Mode) : Probe where
  source := Text.join ['\n'] (context stub ++ [targetLine expr mode])
  cursor := ⟨(context stub).length + 1, (targetLine expr mode).length⟩

end Probe

end TemplateTypes
