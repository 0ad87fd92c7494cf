import TemplateTypes.CommandLine.Options
import TemplateTypes.Glob.Expansion
import TemplateTypes.Rendering

/-!
# The stub command — rendering templates from the command line

Without operands the command renders its standard input.  Otherwise the operands are expanded into
template paths (files, the templates directly inside directories, and what patterns match), which
are put in order and rendered one by one.  A template that fails is reported and the others are
still rendered; an output written in this run is not written again.
-/

namespace TemplateTypes.StubCommand

open CommandLine

/-! ## 1. Arguments -/

structure Arguments where
  files : List Text
  output : Option Path
  format : Text
deriving DecidableEq, Inhabited

def optionSpecs : List OptionSpec := [
  ⟨some 'o', "output".toList, true⟩,
  ⟨some 'f', "format".toList, true⟩,
  ⟨some 'v', "verbose".toList, false⟩]

/-- An output directory must have a name. -/
def Arguments.ofTexts? (args : List Text) : Option Arguments :=
  (scan? optionSpecs args).bind fun gs =>
    let output := valueOf? gs "output".toList
    if distinctOptions gs && output ≠ some [] then
      some ⟨operands gs, output, (valueOf? gs "format".toList).getD "pyi".toList⟩
    else none

/-! ## 2. Failures of a run -/

inductive Failure where
  | unreadableInput
  | standardInput (e : RenderError)
  | noFormat (e : RenderError)
  | noOutputDirectory (path : Path) (cause : Cause)
  | badPattern (pattern : Text) (e : Glob.PatternError)
  | templates (failed total : Nat)
deriving DecidableEq, Inhabited

def natText (n : Nat) : Text :=
  (toString n).toList

/-- The message and the messages of its causes. -/
def Failure.chain : Failure → List Text
  | .unreadableInput => ["failed to read stdin".toList, Cause.message .notText]
  | .standardInput e => "<stdin>".toList :: e.chain
  | .noFormat e => e.chain
  | .noOutputDirectory path cause =>
    ["failed to create output directory: ".toList ++ path, cause.message]
  | .badPattern pattern e => ["invalid glob pattern: ".toList ++ pattern, e.message]
  | .templates failed total =>
    [natText failed ++ " of ".toList ++ natText total ++ " templates failed".toList]

/-- The last words of a run that fails. -/
def Failure.report (f : Failure) : Text :=
  match f.chain with
  | [] => []
  | top :: causes =>
    "Error: ".toList ++ top ++ ['\n'] ++
      (if causes = [] then [] else "\nCaused by:\n".toList) ++
      causes.flatMap fun c => "    ".toList ++ c ++ ['\n']

/-! ## 3. Template paths -/

/-- The extensions of templates in a directory. -/
def templateExtensions : List Text :=
  ["jinja".toList, "jinja2".toList, "j2".toList, "html".toList, "txt".toList]

def isTemplateName (p : Path) : Bool :=
  match Path.extension? p with
  | some e => templateExtensions.contains e
  | none => false

def templatesIn (t : FileTree) (directory : Path) : List Path :=
  (((t.children directory).map (Path.join directory)).filter t.isFile).filter isTemplateName

/-- The paths that one operand stands for.  A name that exists is no pattern. -/
def expandOne (t : FileTree) (operand : Text) : Except Glob.PatternError (List Path) :=
  if t.isFile operand then .ok [operand]
  else if t.isDirectory operand then .ok (templatesIn t operand)
  else (Glob.expand t operand).map (·.filter t.isFile)

/-- Whether an operand is a pattern that nothing matches. -/
def matchesNothing (t : FileTree) (operand : Text) (found : List Path) : Bool :=
  !t.isFile operand && !t.isDirectory operand && found.isEmpty

/-- The paths that the operands stand for, in their order, and the operands that match nothing.
The first faulty pattern ends it; what was warned of before it stays. -/
def expandAll (t : FileTree) : List Text → List Text × Except Failure (List Path)
  | [] => ([], .ok [])
  | operand :: rest =>
    match expandOne t operand with
    | .error e => ([], .error (.badPattern operand e))
    | .ok found =>
      let more := expandAll t rest
      ((if matchesNothing t operand found then [operand] else []) ++ more.1,
        more.2.map (found ++ ·))

def warning (operand : Text) : Text :=
  "warning: no files matched: ".toList ++ operand ++ ['\n']

/-- The templates of a run, in order. -/
def templates (t : FileTree) (files : List Text) : Except Failure (List Path) :=
  (expandAll t files).2.map Path.sorted

/-! ## 4. Rendering the templates -/

inductive Result where
  | written (out : Path)
  | taken (out other : Path)
  | failed (e : RenderError)
deriving DecidableEq, Inhabited

def Result.isFailure : Result → Bool
  | .written _ => false
  | _ => true

/-- The path of the rendering of a template: in the output directory, or beside the template. -/
def outputPath (f : Format) (output : Option Path) (template : Path) : Path :=
  let directory := output.getD ((Path.parent? template).getD ['.'])
  Path.join directory (Path.stem template ++ '.' :: f.extension)

/-- The template whose rendering went to a path, if one did. -/
def writerOf? (results : List (Path × Result)) (out : Path) : Option Path :=
  results.findSome? fun
    | (template, .written out') => if Path.same out' out then some template else none
    | _ => none

/-- Renders one template after others have been rendered. -/
def renderOne (f : Format) (output : Option Path) (t : FileTree) (before : List (Path × Result))
    (template : Path) : FileTree × Result :=
  let out := outputPath f output template
  match writerOf? before out with
  | some other => (t, .taken out other)
  | none =>
    match f.writeFile t template out with
    | .ok t' => (t', .written out)
    | .error e => (t, .failed e)

/-- Renders the templates in order.  `before` holds the results so far. -/
def renderAll (f : Format) (output : Option Path) (t : FileTree) (before : List (Path × Result)) :
    List Path → FileTree × List (Path × Result)
  | [] => (t, before)
  | template :: rest =>
    let r := renderOne f output t before template
    renderAll f output r.1 (before ++ [(template, r.2)]) rest

/-- The line that reports a template that was not rendered. -/
def errorLine : Path × Result → Text
  | (_, .written _) => []
  | (template, .taken out other) =>
    "error: ".toList ++ template ++ ": output ".toList ++ out ++ " already written by ".toList ++
      other ++ ['\n']
  | (template, .failed e) => "error: ".toList ++ template ++ [':', ' '] ++ oneLine e.chain ++ ['\n']

def failures (results : List (Path × Result)) : Nat :=
  results.countP fun r => r.2.isFailure

/-- How a run over these results ends. -/
def conclude (results : List (Path × Result)) : Except Failure Unit :=
  if failures results = 0 then .ok () else .error (.templates (failures results) results.length)

/-! ## 5. Runs -/

def outcomeOf (stdout stderr : Text) : Except Failure Unit → Outcome
  | .ok () => ⟨0, stdout, stderr⟩
  | .error e => ⟨1, [], stderr ++ e.report⟩

/-- Renders standard input. -/
def renderInput (format : Text) (input : Bytes) : Except Failure Text :=
  match Text.Utf8.decode? input with
  | none => .error .unreadableInput
  | some document =>
    match Format.named format with
    | .error e => .error (.noFormat e)
    | .ok f =>
      match f.render document with
      | .error e => .error (.standardInput e)
      | .ok rendering => .ok rendering

def runOnInput (format : Text) (input : Bytes) : Outcome :=
  match renderInput format input with
  | .ok rendering => outcomeOf rendering [] (.ok ())
  | .error e => outcomeOf [] [] (.error e)

/-- Makes the output directory, which comes before everything else. -/
def prepare (t : FileTree) : Option Path → FileTree × Option Failure
  | none => (t, none)
  | some directory =>
    let r := t.makeDirectories directory
    (r.1, r.2.map (.noOutputDirectory directory))

/-- Renders the templates that the operands stand for, in a tree with an output directory. -/
def renderFiles (f : Format) (a : Arguments) (t : FileTree) : Outcome × FileTree :=
  let warnings := (expandAll t a.files).1.flatMap warning
  match templates t a.files with
  | .error e => (outcomeOf [] warnings (.error e), t)
  | .ok paths =>
    let r := renderAll f a.output t [] paths
    (outcomeOf [] (warnings ++ r.2.flatMap errorLine) (conclude r.2), r.1)

def runOnFiles (a : Arguments) (t : FileTree) : Outcome × FileTree :=
  match Format.named a.format with
  | .error e => (outcomeOf [] [] (.error (.noFormat e)), t)
  | .ok f =>
    match prepare t a.output with
    | (t', some e) => (outcomeOf [] [] (.error e), t')
    | (t', none) => renderFiles f a t'

/-! ## 6. What a run looks at -/

def readsInput (args : List Text) : Bool :=
  match Arguments.ofTexts? args with
  | some a => a.files.isEmpty
  | none => false

/-- The places below which a run reads and writes. -/
def placesOf (args : List Text) : List Path :=
  match Arguments.ofTexts? args with
  | some a => a.files.map Glob.base ++ a.output.toList
  | none => []

/-! ## 7. One run -/

def usage : Text :=
  "usage: [-o DIRECTORY] [-f pyi|json] [-v] [FILE]...\n".toList

/-- One run of the command in a file tree. -/
def run (args : List Text) (input : Bytes) (t : FileTree) : Outcome × FileTree :=
  match Arguments.ofTexts? args with
  | none => (.usage usage, t)
  | some a => if a.files = [] then (runOnInput a.format input, t) else runOnFiles a t

end TemplateTypes.StubCommand
