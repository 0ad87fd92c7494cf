import TemplateTypes.Engine
import TemplateTypes.Stub.Reader
import TemplateTypes.Json.Printer

/-!
# Queries — an editor's question about an expression

Completion and signature queries send the engine one request, a probe made from the stub.  A
failing engine is not an error of the query: the answer is then the empty list.  Hover queries
need no engine, the stub itself knows the answer.
-/

namespace TemplateTypes

inductive Answer where
  | completions (cs : List Completion)
  | parameters (ps : List Parameter)
  | entry (e : Option Stub.Entry)
deriving DecidableEq, Inhabited

namespace Answer

def entryToJson : Option Stub.Entry → Json
  | none => .object []
  | some e => .record [("doc".toList, .textOrNull e.doc), ("type".toList, .text e.type)]

def toJson : Answer → Json
  | .completions cs => .list (cs.map Completion.toJson)
  | .parameters ps => .list (ps.map Parameter.toJson)
  | .entry e => entryToJson e

/-- The answer on one line. -/
def render (a : Answer) : Text :=
  a.toJson.compact

end Answer

structure Query where
  mode : Mode
  stub : Text
  expr : Text
deriving DecidableEq, Inhabited

namespace Query

def probe (q : Query) : Probe :=
  .ofStub q.stub q.expr q.mode

/-- What the engine is asked, if it is asked at all. -/
def request? (q : Query) : Option Request :=
  match q.mode with
  | .complete => some ⟨.complete, q.probe⟩
  | .signature => some ⟨.signatures, q.probe⟩
  | .hover => none

/-- A failure counts as no results. -/
def resultsOrNone {α : Type} : Except EngineError (List α) → List α
  | .ok rs => rs
  | .error _ => []

def answer (q : Query) (engine : Engine) : Answer :=
  match q.mode with
  | .complete => .completions (resultsOrNone (engine.complete q.probe))
  | .signature => .parameters (resultsOrNone (engine.signatures q.probe))
  | .hover => .entry (Stub.lookup q.stub q.expr)

end Query

end TemplateTypes
