import TemplateTypes.Text.Line
import TemplateTypes.Comment
import TemplateTypes.Dictionary

/-!
# Types blocks — what a template declares about its variables

The interior of the first `@types` block is read line by line.  A line is an import, a comment,
a docstring, a declaration `name: type`, blank, or malformed.  A docstring belongs to the next
declaration and is kept behind its type; a later docstring takes its place, and an empty one
takes it away.
-/

namespace TemplateTypes

/-! ## 1. Lines of a block -/

inductive BlockLine where
  | blank
  | comment
  | importing (line : Text)
  | docstring (content : Text)
  | declaring (name type : Text)
  | malformed (raw : Text)
deriving DecidableEq

namespace BlockLine

def isImport (line : Text) : Bool :=
  Text.beginsWith "import ".toList line || Text.beginsWith "from ".toList line

/-- What stands between two triples of the quote `q`, which must be all of the line. -/
def betweenTriples? (q : Char) (line : Text) : Option Text :=
  (Text.after? [q, q, q] line).bind fun t =>
    (Text.after? [q, q, q] t.reverse).map List.reverse

def docstring? (line : Text) : Option Text :=
  ((betweenTriples? '"' line).or (betweenTriples? '\x27' line)).map Text.trim

/-- The two sides of the only colon. -/
def declaration? (line : Text) : Option (Text × Text) :=
  (Text.cut? ':' line).bind fun s =>
    if ':' ∈ s.2 then none else some (Text.trim s.1, Text.trim s.2)

/-- Reads one raw line.  The kinds are tried in this order: a comment is never an import, an import
is never a docstring, a docstring is never a declaration. -/
def ofRaw (raw : Text) : BlockLine :=
  let line := Text.trim raw
  if line = [] then .blank
  else if line.head? = some '#' then .comment
  else if isImport line then .importing line
  else
    match docstring? line with
    | some content => .docstring content
    | none =>
      match declaration? line with
      | some (name, type) => .declaring name type
      | none => .malformed raw

def import? : BlockLine → Option Text
  | .importing line => some line
  | _ => none

def malformed? : BlockLine → Option Text
  | .malformed raw => some raw
  | _ => none

end BlockLine

/-! ## 2. Docstrings and declarations -/

/-- Stands between a type and the docstring that belongs to it. -/
def docSeparator : Text := "  # ".toList

def withDoc (type : Text) : Option Text → Text
  | none => type
  | some doc => type ++ docSeparator ++ doc

/-- The declarations in order, each with the docstring that waits for it.  `pending` is the
docstring read since the last declaration. -/
def declarations (pending : Option Text) : List BlockLine → List (Text × Text)
  | [] => []
  | .docstring content :: ls => declarations (if content = [] then none else some content) ls
  | .declaring name type :: ls => (name, withDoc type pending) :: declarations none ls
  | _ :: ls => declarations pending ls

/-! ## 3. The block -/

structure TypesBlock where
  imports : List Text
  annotations : Annotations
  malformed : List Text
deriving DecidableEq, Inhabited

namespace TypesBlock

def empty : TypesBlock := ⟨[], .empty, []⟩

def isEmpty (b : TypesBlock) : Bool :=
  b.imports.isEmpty && b.annotations.isEmpty && b.malformed.isEmpty

def ofLines (ls : List BlockLine) : TypesBlock where
  imports := ls.filterMap BlockLine.import?
  annotations := .ofList (declarations none ls)
  malformed := ls.filterMap BlockLine.malformed?

def ofInterior (interior : Text) : TypesBlock :=
  ofLines ((Text.lines interior).map BlockLine.ofRaw)

def label : Text := "@types".toList

/-- The interior of the first types block of a template. -/
def interior? (document : Text) : Option Text :=
  Comment.first? label document

/-- A template without a types block declares nothing. -/
def ofDocument (document : Text) : TypesBlock :=
  match interior? document with
  | some interior => ofInterior interior
  | none => empty

end TypesBlock

end TemplateTypes
