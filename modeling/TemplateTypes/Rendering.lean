import TemplateTypes.Json.Printer
import TemplateTypes.MacroSignature
import TemplateTypes.Stub.File

/-!
# Renderings — what a template is turned into

A template has a rendering in each of two formats.  The stub refuses a block with malformed lines;
the JSON report lists them, and the macros as well.  Rendering a file reads it, renders it and
writes the result, and touches the file tree only in that last step.  Stubs have a way of their own
from file to file.
-/

namespace TemplateTypes

inductive Format where
  | stub
  | json
deriving DecidableEq, Inhabited

namespace Format

def ofName? (t : Text) : Option Format :=
  if t = "pyi".toList ∨ t = "stub".toList then some .stub
  else if t = "json".toList then some .json
  else none

def extension : Format → Text
  | .stub => "pyi".toList
  | .json => "json".toList

end Format

/-! ## 1. The report of a template -/

structure Report where
  block : TypesBlock
  macros : List MacroSignature
deriving DecidableEq, Inhabited

namespace Report

def ofDocument (document : Text) : Report :=
  ⟨TypesBlock.ofDocument document, MacroSignature.ofDocument document⟩

def declarationToJson (entry : Text × Text) : Json :=
  .record [("name".toList, .text entry.1), ("type".toList, .text entry.2)]

def signatureToJson (m : MacroSignature) : Json :=
  .record [("name".toList, .text m.name), ("params".toList, .text m.params),
    ("docstring".toList, .textOrNull m.docstring)]

def toJson (r : Report) : Json :=
  .record [("imports".toList, .list (r.block.imports.map .text)),
    ("annotations".toList, .list (r.block.annotations.entries.map declarationToJson)),
    ("malformed".toList, .list (r.block.malformed.map .text)),
    ("macros".toList, .list (r.macros.map signatureToJson))]

def render (r : Report) : Text :=
  r.toJson.pretty ++ ['\n']

end Report

/-! ## 2. Failures -/

inductive RenderError where
  | unknownFormat (name : Text)
  | unreadable (path : Path) (cause : Cause)
  | malformed (lines : List Text)
  | unwritable (path : Path) (cause : Cause)
deriving DecidableEq, Inhabited

namespace RenderError

/-- What happened. -/
def message : RenderError → Text
  | .unknownFormat name => "unknown format: ".toList ++ name ++ ". Use pyi or json".toList
  | .unreadable path _ => "failed to read ".toList ++ path
  | .malformed lines =>
    "malformed type annotation lines: ".toList ++ Text.Quoted.encodeList lines
  | .unwritable path _ => "failed to write ".toList ++ path

/-- Why it happened, where the file tree is to blame. -/
def cause? : RenderError → Option Cause
  | .unreadable _ cause => some cause
  | .unwritable _ cause => some cause
  | _ => none

/-- The message followed by the messages of its causes. -/
def chain (e : RenderError) : List Text :=
  e.message :: (e.cause?.map Cause.message).toList

def ofStub : Stub.Error → RenderError
  | .unreadable path cause => .unreadable path cause
  | .malformed lines => .malformed lines
  | .unwritable path cause => .unwritable path cause

end RenderError

/-- A chain of messages on one line. -/
def oneLine (chain : List Text) : Text :=
  Text.join [':', ' '] chain

/-! ## 3. Rendering -/

namespace Format

def named (name : Text) : Except RenderError Format :=
  match ofName? name with
  | some f => .ok f
  | none => .error (.unknownFormat name)

def render (f : Format) (document : Text) : Except RenderError Text :=
  match f with
  | .stub =>
    match Stub.ofDocument document with
    | .ok text => .ok text
    | .error lines => .error (.malformed lines)
  | .json => .ok (Report.ofDocument document).render

/-- Renders the file at `template` into the file at `out`: the way that suits any format. -/
def renderFile (f : Format) (t : FileTree) (template out : Path) : Except RenderError FileTree :=
  match t.readText template with
  | .error cause => .error (.unreadable template cause)
  | .ok document =>
    match f.render document with
    | .error e => .error e
    | .ok rendering =>
      match t.write out (Text.Utf8.encode rendering) with
      | .error cause => .error (.unwritable out cause)
      | .ok t' => .ok t'

/-- Renders the file at `template` into the file at `out`, each format in its own way. -/
def writeFile (f : Format) (t : FileTree) (template out : Path) : Except RenderError FileTree :=
  match f with
  | .stub => (Stub.writeFile t template out).mapError RenderError.ofStub
  | .json => renderFile .json t template out

end Format

end TemplateTypes
