import TemplateTypes.FileTree.Basic
import TemplateTypes.Stub.Writer
import TemplateTypes.Text.Quoted

/-!
# Stubs — from a template file to a stub file

The stub of a template file takes the place of whatever file is at the output path.  Reading the
template, its block, and writing the stub can each go wrong, and nothing is written then.
-/

namespace TemplateTypes.Stub

/-- Why a template file has got no stub file. -/
inductive Error where
  | unreadable (path : Path) (cause : Cause)
  | malformed (lines : List Text)
  | unwritable (path : Path) (cause : Cause)
deriving DecidableEq, Inhabited

namespace Error

def message : Error → Text
  | .unreadable path _ => "failed to read ".toList ++ path
  | .malformed lines =>
    "malformed type annotation lines: ".toList ++ Text.Quoted.encodeList lines
  | .unwritable path _ => "failed to write ".toList ++ path

def cause? : Error → Option Cause
  | .unreadable _ cause => some cause
  | .malformed _ => none
  | .unwritable _ cause => some cause

/-- The message followed by the message of its cause. -/
def chain (e : Error) : List Text :=
  e.message :: (e.cause?.map Cause.message).toList

end Error

/-- Writes the stub of the file at `template` to the file at `out`. -/
def writeFile (t : FileTree) (template out : Path) : Except Error FileTree :=
  match t.readText template with
  | .error cause => .error (.unreadable template cause)
  | .ok document =>
    match ofDocument document with
    | .error lines => .error (.malformed lines)
    | .ok stub =>
      match t.write out (Text.Utf8.encode stub) with
      | .error cause => .error (.unwritable out cause)
      | .ok t' => .ok t'

end TemplateTypes.Stub
