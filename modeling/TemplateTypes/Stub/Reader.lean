import TemplateTypes.Text.Line
import TemplateTypes.Text.Identifier
import TemplateTypes.Dictionary

/-!
# Stubs — reading

A stub line is an identifier, perhaps white space, a colon, a type without a hash, and perhaps a
hash with a comment behind it.  All other lines are passed over.  A name that stands on several
lines has the entry of the last.
-/

namespace TemplateTypes.Stub

structure Entry where
  type : Text
  doc : Option Text
deriving DecidableEq, Inhabited

/-- The trimmed comment, unless nothing is left of it. -/
def docOf? (comment : Text) : Option Text :=
  let doc := Text.trim comment
  if doc = [] then none else some doc

/-- Reads what stands behind the colon.  At least one character must stand before the hash. -/
def readBody (t : Text) : Option Entry :=
  let type := Text.upTo '#' t
  if type = [] then none
  else some ⟨Text.trim type, (Text.fromFirst '#' t).tail? |>.bind docOf?⟩

def readLine (line : Text) : Option (Text × Entry) :=
  match Text.cutIdentifier? line with
  | none => none
  | some (name, t) =>
    match Text.trimLeft t with
    | ':' :: body => (readBody body).map fun e => (name, e)
    | _ => none

/-- The entries of the stub lines, names in order of first appearance. -/
def entries (stub : Text) : Dictionary Text Entry :=
  .ofList ((Text.lines stub).filterMap readLine)

def lookup (stub : Text) (name : Text) : Option Entry :=
  (entries stub).get? name

end TemplateTypes.Stub
