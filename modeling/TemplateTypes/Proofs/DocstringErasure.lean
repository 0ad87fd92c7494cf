import TemplateTypes.Proofs.ProbeContext
import TemplateTypes.Query

/-!
# Docstring erasure — the engine does not hear of docstrings

A docstring is kept behind the type of a name and written to the stub with it, so it may hold
colons, hashes and words of an import line.  A probe cuts every declaration at its first hash, and
no docstring stands in front of one.  Main statement: templates that agree once their docstring
lines are left out get the same probes, hence the same requests and the same answers.
-/

namespace TemplateTypes

/-! ## 1. Lines without docstrings -/

def BlockLine.isDocstring : BlockLine → Bool
  | .docstring _ => true
  | _ => false

namespace TypesBlock

/-- The filled lines of the first types block that are not docstrings. -/
def undocumented (document : Text) : List Text :=
  (blockLines document).filter fun raw => !(BlockLine.ofRaw raw).isDocstring

theorem map_ofRaw_undocumented (document : Text) :
    (undocumented document).map BlockLine.ofRaw =
      ((blockLines document).map BlockLine.ofRaw).filter fun l => !l.isDocstring := by
  rw [List.filter_map]
  rfl

theorem filterMap_filter_isDocstring {β : Type} {f : BlockLine → Option β}
    (hf : ∀ content, f (.docstring content) = none) (ls : List BlockLine) :
    (ls.filter fun l => !l.isDocstring).filterMap f = ls.filterMap f := by
  apply filterMap_filter_of_eq_none
  intro l hl
  cases l with
  | docstring content => exact hf content
  | _ => cases hl

theorem imports_ofDocument (document : Text) :
    (ofDocument document).imports =
      ((undocumented document).map BlockLine.ofRaw).filterMap BlockLine.import? := by
  rw [map_ofRaw_undocumented, filterMap_filter_isDocstring fun _ => rfl, ofDocument_eq_ofLines]
  rfl

theorem malformed_ofDocument (document : Text) :
    (ofDocument document).malformed =
      ((undocumented document).map BlockLine.ofRaw).filterMap BlockLine.malformed? := by
  rw [map_ofRaw_undocumented, filterMap_filter_isDocstring fun _ => rfl, ofDocument_eq_ofLines]
  rfl

end TypesBlock

namespace Probe

open TypesBlock

/-! ## 2. Declarations up to their first hash -/

theorem declaredLine_eq (e : Text × Text) :
    declaredLine e = withoutComment (Stub.declarationLine e) := rfl

theorem declaredLine_withDoc (name type : Text) (pending : Option Text) :
    declaredLine (name, withDoc type pending) = declaredLine (name, type) := by
  cases pending with
  | none => rfl
  | some doc =>
    have hline : Stub.declarationLine (name, withDoc type (some doc)) =
        Stub.declarationLine (name, type) ++ [' ', ' '] ++ '#' :: ' ' :: doc := by
      rw [Stub.declarationLine, Stub.declarationLine, withDoc_some]
      simp
    rw [declaredLine_eq, declaredLine_eq, withoutComment, withoutComment, hline]
    by_cases h : '#' ∈ Stub.declarationLine (name, type)
    · -- The name or the type holds the first hash already.
      rw [List.append_assoc, Text.upTo_append_of_mem h]
    · -- The docstring brings the first hash, and the blanks in front of it are trimmed away.
      have hblanks : '#' ∉ Stub.declarationLine (name, type) ++ [' ', ' '] := by
        rw [List.mem_append, not_or]
        exact ⟨h, by decide⟩
      rw [Text.upTo_append hblanks, Text.upTo_of_notMem h]
      exact Text.trim_append_blanks (Text.allBlank_spaces 2) _

/-- What an engine hears of a name and its value. -/
def heard (e : Text × Text) : Text × Text :=
  (e.1, declaredLine e)

/-- Only the waiting docstring differs along the two lists of lines, and it is not heard. -/
theorem map_heard_declarations (pending pending' : Option Text) (ls : List BlockLine) :
    (declarations pending ls).map heard =
      (declarations pending' (ls.filter fun l => !l.isDocstring)).map heard := by
  induction ls generalizing pending pending' with
  | nil => rfl
  | cons l ls ih =>
    rw [declarations_cons, List.map_append]
    cases l with
    | docstring content =>
      -- Only what waits changes, and the induction is for whatever waits on either side.
      rw [List.filter_cons_of_neg (by simp [BlockLine.isDocstring])]
      exact ih _ pending'
    | declaring name type =>
      have hline : heard (name, withDoc type pending) = heard (name, withDoc type pending') := by
        rw [heard, heard, declaredLine_withDoc, declaredLine_withDoc]
      rw [List.filter_cons_of_pos rfl, declarations_cons, List.map_append, ih]
      simp only [BlockLine.declares, List.map_singleton, hline]
      rfl
    | _ =>
      rw [List.filter_cons_of_pos rfl, declarations_cons, List.map_append, ih]
      rfl

theorem map_heard_entries (document : Text) :
    (ofDocument document).annotations.entries.map heard =
      (Dictionary.ofList ((declarations none
        ((undocumented document).map BlockLine.ofRaw)).map heard)).entries := by
  rw [map_ofRaw_undocumented, ← map_heard_declarations none none, ofDocument_eq_ofLines]
  exact (Dictionary.entries_ofList_map declaredLine _).symm

/-! ## 3. Probes without docstrings -/

theorem context_ofBlock_eq_heard (document : Text) :
    context (Stub.ofBlock (ofDocument document)) =
      (ofDocument document).imports ++
        (((ofDocument document).annotations.entries.map heard).filter
          fun e => decide (¬ BeginsLikeImport e.1)).map Prod.snd := by
  rw [context_ofBlock, List.filter_map, List.map_map]
  rfl

theorem context_eq_of_undocumented_eq {document other : Text}
    (h : undocumented document = undocumented other) :
    context (Stub.ofBlock (ofDocument document)) = context (Stub.ofBlock (ofDocument other)) := by
  rw [context_ofBlock_eq_heard, context_ofBlock_eq_heard, map_heard_entries, map_heard_entries,
    imports_ofDocument, imports_ofDocument, h]

theorem ofStub_eq_of_context_eq {stub other : Text} (h : context stub = context other)
    (expr : Text) (mode : Mode) : ofStub stub expr mode = ofStub other expr mode := by
  rw [ofStub, ofStub, h]

end Probe

namespace Query

open TypesBlock

/-- A query that is not about hovering knows its stub by the probe alone. -/
theorem request?_answer_eq_of_probe_eq {q r : Query} (hm : q.mode = r.mode)
    (hh : q.mode ≠ .hover) (hp : q.probe = r.probe) :
    (∃ request, q.request? = some request ∧ r.request? = some request) ∧
      ∀ engine, q.answer engine = r.answer engine := by
  rw [request?, request?]
  simp only [answer, ← hm, ← hp]
  cases hq : q.mode with
  | complete => exact ⟨⟨_, rfl, rfl⟩, fun _ => rfl⟩
  | signature => exact ⟨⟨_, rfl, rfl⟩, fun _ => rfl⟩
  | hover => exact absurd hq hh

theorem requests_eq_of_undocumented_eq {document other : Text}
    (h : undocumented document = undocumented other) :
    (ofDocument document).malformed = (ofDocument other).malformed ∧
      (∀ expr mode, Probe.ofStub (Stub.ofBlock (ofDocument document)) expr mode =
        Probe.ofStub (Stub.ofBlock (ofDocument other)) expr mode) ∧
      ∀ expr mode, mode ≠ .hover →
        (∃ request,
          (mk mode (Stub.ofBlock (ofDocument document)) expr).request? = some request ∧
          (mk mode (Stub.ofBlock (ofDocument other)) expr).request? = some request) ∧
        ∀ engine, (mk mode (Stub.ofBlock (ofDocument document)) expr).answer engine =
          (mk mode (Stub.ofBlock (ofDocument other)) expr).answer engine := by
  have hprobe : ∀ expr mode, Probe.ofStub (Stub.ofBlock (ofDocument document)) expr mode =
      Probe.ofStub (Stub.ofBlock (ofDocument other)) expr mode :=
    Probe.ofStub_eq_of_context_eq (Probe.context_eq_of_undocumented_eq h)
  refine ⟨?_, hprobe, ?_⟩
  · rw [malformed_ofDocument, malformed_ofDocument, h]
  · intro expr mode hm
    exact request?_answer_eq_of_probe_eq rfl hm (hprobe expr mode)

/-- One docstring like an import and one like a declaration, taken away and put elsewhere: the stubs
differ, the requests do not. -/
theorem requests_eq_of_undocumented_eq_user :
    let document := asDocument
      "\"\"\"import a: b # c\"\"\"\nuser: User\noops\n\x27\x27\x27x: int\x27\x27\x27\n".toList
    let other := asDocument "user: User\n\x27\x27\x27from d\x27\x27\x27\n\noops\n".toList
    undocumented document = undocumented other ∧
      Stub.ofBlock (ofDocument document) ≠ Stub.ofBlock (ofDocument other) ∧
      (∃ request,
        (mk .complete (Stub.ofBlock (ofDocument document)) "user".toList).request? =
          some request ∧
        (mk .complete (Stub.ofBlock (ofDocument other)) "user".toList).request? =
          some request) := by
  have h : undocumented (asDocument
      "\"\"\"import a: b # c\"\"\"\nuser: User\noops\n\x27\x27\x27x: int\x27\x27\x27\n".toList) =
      undocumented (asDocument "user: User\n\x27\x27\x27from d\x27\x27\x27\n\noops\n".toList) := by
    decide +kernel
  refine ⟨h, by decide +kernel, ?_⟩
  exact ((requests_eq_of_undocumented_eq h).2.2 "user".toList .complete (by decide)).1

end Query

end TemplateTypes
