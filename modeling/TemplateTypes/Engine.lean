import TemplateTypes.Probe
import TemplateTypes.Reply

/-!
# Engines — who answers for a probe

An engine answers the two questions that need knowledge of the language: what can follow the
cursor, and which parameters the call at the cursor takes.  It may fail, for one of four causes.
-/

namespace TemplateTypes

inductive EngineError where
  | notStarted (program : Text)
  | exchange
  | failed (status : Option Int) (stderr : Text)
  | undecodable
deriving DecidableEq, Inhabited

namespace EngineError

def statusText : Option Int → Text
  | some status => "exit status ".toList ++ (toString status).toList
  | none => "terminated by signal".toList

/-- A detail that is only white space is left out. -/
def message : EngineError → Text
  | .notStarted program => "failed to start `".toList ++ program ++ "`".toList
  | .exchange => "engine I/O failed".toList
  | .failed status stderr =>
    let detail := Text.trim stderr
    "engine failed (".toList ++ statusText status ++
      (if detail = [] then [] else [':', ' '] ++ detail) ++ [')']
  | .undecodable => "engine returned malformed output".toList

end EngineError

inductive Question where
  | complete
  | signatures
deriving DecidableEq, Inhabited

structure Request where
  question : Question
  probe : Probe
deriving DecidableEq, Inhabited

structure Engine where
  complete : Probe → Except EngineError (List Completion)
  signatures : Probe → Except EngineError (List Parameter)

namespace Engine

/-- Fails on every request. -/
def failing (e : EngineError) : Engine where
  complete _ := .error e
  signatures _ := .error e

/-- The results that a JSON value lists. -/
def resultsOf {α : Type} (read : Json → Option α) (j : Option Json) :
    Except EngineError (List α) :=
  match j.bind (Json.listOf? read) with
  | some rs => .ok rs
  | none => .error .undecodable

/-- Gives the same JSON value to every request. -/
def replaying (j : Option Json) : Engine where
  complete _ := resultsOf Completion.ofJson? j
  signatures _ := resultsOf Parameter.ofJson? j

end Engine

end TemplateTypes
