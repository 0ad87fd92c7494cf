import TemplateTypes.Engine
import TemplateTypes.Text.Utf8

/-!
# Interpreters — an engine in a process of its own

A query starts the interpreter afresh, hands it the source of the probe on standard input, and
reads a JSON list from its standard output.  How the exchange goes lies with the program and with
the system it runs on; here it is judged once it has come to its end.  What can go wrong is judged
in a fixed order: that nothing started; then that the process ended badly; then that the source
could not be delivered; then that the output is no list of results.
-/

namespace TemplateTypes

/-! ## 1. Exchanges -/

inductive Ending where
  | exit (status : Nat)
  | signal
deriving DecidableEq, Inhabited

/-- Only the low eight bits of a status reach the parent. -/
def Ending.status? : Ending → Option Nat
  | .exit status => some (status % 256)
  | .signal => none

/-- How a process behaved, as its parent saw it.  Whether the whole source was delivered does not
follow from the rest: a process can print results and end well without its input, and the pipe may
or may not have taken what it left. -/
structure Behaviour where
  delivered : Bool
  stdout : Bytes
  stderr : Bytes
  ending : Ending
deriving DecidableEq, Inhabited

/-- An exchange that has come to its end. -/
inductive Exchange where
  | notStarted
  | ended (behaviour : Behaviour)
deriving DecidableEq, Inhabited

namespace Exchange

/-- The output of the program, or the first cause of failure. -/
def outputOf (program : Text) : Exchange → Except EngineError Bytes
  | .notStarted => .error (.notStarted program)
  | .ended b =>
    if b.ending.status? ≠ some 0 then
      .error (.failed (b.ending.status?.map Int.ofNat) (Text.Utf8.decodeLossy b.stderr))
    else if !b.delivered then .error .exchange
    else .ok b.stdout

/-- The results that the output lists. -/
def resultsFor {α : Type} (read : Json → Option α) (program : Text) (x : Exchange) :
    Except EngineError (List α) :=
  match x.outputOf program with
  | .ok output => Engine.resultsOf read (Json.parseBytes? output)
  | .error e => .error e

end Exchange

/-! ## 2. Calls -/

/-- A program, and the path under which it hears of the source. -/
structure Interpreter where
  program : Text
  path : Text
deriving DecidableEq, Inhabited

namespace Interpreter

/-- What a program is started with: the arguments behind the helper program, and the source on
standard input. -/
structure Call where
  program : Text
  mode : Text
  path : Text
  line : Nat
  column : Nat
  source : Text
deriving DecidableEq, Inhabited

def modeOf : Question → Text
  | .complete => Mode.name .complete
  | .signatures => Mode.name .signature

def call (i : Interpreter) (r : Request) : Call :=
  ⟨i.program, modeOf r.question, i.path, r.probe.cursor.line, r.probe.cursor.column,
    r.probe.source⟩

/-- The engine that an interpreter is where every exchange comes to an end; `meet` tells which. -/
def engine (i : Interpreter) (meet : Call → Exchange) : Engine where
  complete p := (meet (i.call ⟨.complete, p⟩)).resultsFor Completion.ofJson? i.program
  signatures p := (meet (i.call ⟨.signatures, p⟩)).resultsFor Parameter.ofJson? i.program

end Interpreter

end TemplateTypes
