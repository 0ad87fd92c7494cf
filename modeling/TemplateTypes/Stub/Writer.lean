import TemplateTypes.TypesBlock

/-!
# Stubs — writing

A stub lists the imports, then a blank line if there were any, then one line `name: type` for each
declared name.  Every line ends in a line feed; a stub without any line is a single line feed.
-/

namespace TemplateTypes.Stub

def declarationLine (entry : Text × Text) : Text :=
  entry.1 ++ [':', ' '] ++ entry.2

def importLines (imports : List Text) : List Text :=
  if imports = [] then [] else imports ++ [[]]

def bodyLines (imports : List Text) (annotations : Annotations) : List Text :=
  importLines imports ++ annotations.entries.map declarationLine

def render (imports : List Text) (annotations : Annotations) : Text :=
  Text.join ['\n'] (bodyLines imports annotations) ++ ['\n']

/-- The stub of a block; its malformed lines have no part in it. -/
def ofBlock (b : TypesBlock) : Text :=
  render b.imports b.annotations

/-- The stub of a template, or the lines of its block that nobody can read. -/
def ofDocument (document : Text) : Except (List Text) Text :=
  let b := TypesBlock.ofDocument document
  if b.malformed = [] then .ok (ofBlock b) else .error b.malformed

end TemplateTypes.Stub
