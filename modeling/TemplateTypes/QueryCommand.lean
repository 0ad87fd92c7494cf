import TemplateTypes.CommandLine.Options
import TemplateTypes.FileTree.Basic
import TemplateTypes.Interpreter.Exchange
import TemplateTypes.Query

/-!
# The query command — one question from the command line

The command reads a stub, asks its question, and prints the answer as one line of JSON.  Only a
stub that cannot be read makes it fail.
-/

namespace TemplateTypes.QueryCommand

open CommandLine

/-! ## 1. Arguments -/

/-- The position in the template is accepted and not used. -/
structure Arguments where
  mode : Mode
  stub : Path
  expr : Text
  line : Nat
  column : Nat
  python : Option Text
deriving DecidableEq, Inhabited

def optionSpecs : List OptionSpec := [
  ⟨none, "python".toList, true⟩,
  ⟨some 'v', "verbose".toList, false⟩]

def digit? (c : Char) : Option Nat :=
  if '0' ≤ c ∧ c ≤ '9' then some (c.toNat - '0'.toNat) else none

/-- The value of a run of digits behind digits of value `n`. -/
def digits? (n : Nat) : Text → Option Nat
  | [] => some n
  | c :: t => (digit? c).bind fun d => digits? (10 * n + d) t

/-- A count in decimal, perhaps behind a plus sign, that fits into 64 bits. -/
def count? (t : Text) : Option Nat :=
  let body := match t with
    | '+' :: u => u
    | u => u
  if body = [] then none
  else (digits? 0 body).bind fun n => if n < UInt64.size then some n else none

/-- The operands are the mode, the stub, the expression, and perhaps line and column. -/
def ofOperands? (python : Option Text) : List Text → Option Arguments
  | mode :: stub :: expr :: position =>
    (Mode.ofName? mode).bind fun mode =>
      if stub = [] then none
      else
        match position with
        | [] => some ⟨mode, stub, expr, 0, 0, python⟩
        | [line] => (count? line).map fun line => ⟨mode, stub, expr, line, 0, python⟩
        | [line, column] =>
          (count? line).bind fun line =>
            (count? column).map fun column => ⟨mode, stub, expr, line, column, python⟩
        | _ => none
  | _ => none

def Arguments.ofTexts? (args : List Text) : Option Arguments :=
  (scan? optionSpecs args).bind fun gs =>
    if distinctOptions gs then ofOperands? (valueOf? gs "python".toList) (operands gs) else none

/-! ## 2. Runs -/

/-- A run is done by itself, or it makes one call and goes on when the exchange has ended. -/
inductive Run where
  | done (outcome : Outcome)
  | calls (call : Interpreter.Call) (resume : Exchange → Outcome)
deriving Inhabited

namespace Run

def call? : Run → Option Interpreter.Call
  | .done _ => none
  | .calls c _ => some c

/-- The outcome of a run, where `meet` tells what comes of a call.  While an exchange goes on there
is none. -/
def outcome? (meet : Interpreter.Call → Option Exchange) : Run → Option Outcome
  | .done o => some o
  | .calls c resume => (meet c).map resume

end Run

def query (a : Arguments) (stub : Text) : Query :=
  ⟨a.mode, stub, a.expr⟩

/-- The interpreter named by the arguments takes the place of the given one. -/
def interpreter (python : Text) (a : Arguments) : Interpreter :=
  ⟨a.python.getD python, a.stub⟩

def printed (answer : Answer) : Outcome :=
  ⟨0, answer.render ++ ['\n'], []⟩

/-- A query that asks no engine is answered as it would be if none could be started. -/
def answered (python : Text) (a : Arguments) (stub : Text) : Run :=
  let i := interpreter python a
  let resume (x : Exchange) := printed ((query a stub).answer (i.engine fun _ => x))
  match (query a stub).request? with
  | some r => .calls (i.call r) resume
  | none => .done (resume .notStarted)

def unreadable (path : Path) (cause : Cause) : Outcome :=
  ⟨1, [], "TYPEDJINJA_ERROR: failed to read stub ".toList ++ path ++ [':', ' '] ++ cause.message ++
    ['\n']⟩

def usage : Text :=
  "usage: [--python PROGRAM] [-v] complete|signature|hover STUB EXPR [LINE] [COLUMN]\n".toList

/-- The only file that a run reads. -/
def placesOf (args : List Text) : List Path :=
  match Arguments.ofTexts? args with
  | some a => [a.stub]
  | none => []

/-- One run of the command over a file tree; `python` is the program to start if the arguments name
none. -/
def run (python : Text) (args : List Text) (t : FileTree) : Run :=
  match Arguments.ofTexts? args with
  | none => .done (.usage usage)
  | some a =>
    match t.readText a.stub with
    | .error cause => .done (unreadable a.stub cause)
    | .ok stub => answered python a stub

end TemplateTypes.QueryCommand
