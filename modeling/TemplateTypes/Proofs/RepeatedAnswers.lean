import TemplateTypes.Proofs.QueryAnswers

/-!
# Repeated answers — an answer as the output of an interpreter

The records of an answer are printed in one spelling: all fields, by name, in alphabetical order.
The readers accept this spelling among others.  Main statement: an interpreter that prints the
answer to a query gives the query its results back, so the query gives the same answer again; and
results told in any spelling are the results read from the answer that prints them.
-/

namespace TemplateTypes

/-- Takes the whole source, prints the text and ends well, whatever it is called with. -/
def Interpreter.printing (text : Text) (stderr : Bytes) (_ : Call) : Exchange :=
  .ended ⟨true, Text.Utf8.encode text, stderr, .exit 0⟩

/-- Reads all its input and only then writes. -/
def Child.printing (text : Text) (stderr : Bytes) : Child where
  actions := [.readAll, .write .stdout (Text.Utf8.encode text), .write .stderr stderr]
  ending := .exit 0

theorem Child.eq_printing_of_meet {room : Nat} {turns : List Turn} {source text : Text}
    {stderr : Bytes} {x : Exchange}
    (h : (Child.printing text stderr).meet room turns source = some x) (c : Interpreter.Call) :
    x = Interpreter.printing text stderr c := by
  rw [eq_ended_of_readAll rfl h, Interpreter.printing]
  simp [Pipes.output, Pipes.actionOutput, Child.printing]

theorem Child.exists_meet_printing {room : Nat} (hroom : 0 < room) (text : Text) (stderr : Bytes)
    (source : Text) (turns : List Turn) (c : Interpreter.Call) :
    ∃ more, (Child.printing text stderr).meet room (turns ++ more) source =
      some (Interpreter.printing text stderr c) := by
  obtain ⟨more, x, hx⟩ := exists_meet (c := Child.printing text stderr) hroom
    (fun stream => Nat.zero_le _) source turns
  exact ⟨more, hx.trans (congrArg some (eq_printing_of_meet hx c))⟩

namespace Interpreter

variable {α : Type} {read : Json → Option α} {write : α → Json}

/-- The source is taken and nothing goes wrong, so only the printed text counts. -/
theorem resultsFor_printing (read : Json → Option α) (text : Text) (stderr : Bytes) (c : Call)
    (program : Text) :
    (printing text stderr c).resultsFor read program =
      Engine.resultsOf read (Json.parse? text) := by
  have ho : (printing text stderr c).outputOf program = .ok (Text.Utf8.encode text) :=
    Exchange.outputOf_of_delivered rfl rfl
  rw [Exchange.resultsFor, ho, ← Json.parseBytes?_encode]

theorem resultsFor_printing_list (h : ∀ x, read (write x) = some x) {text : Text} {xs : List α}
    (ht : Json.parse? text = some (.list (xs.map write))) (stderr : Bytes) (c : Call)
    (program : Text) :
    (printing text stderr c).resultsFor read program = .ok xs := by
  have hl : (Json.parse? text).bind (Json.listOf? read) = some xs := by
    rw [ht, Option.bind_some, Json.listOf?_list_map h]
  rw [resultsFor_printing, Engine.resultsOf, hl]

theorem complete_printing (i : Interpreter) {text : Text} {cs : List Completion}
    (ht : Json.parse? text = some (Answer.completions cs).toJson) (stderr : Bytes) (p : Probe) :
    (i.engine (printing text stderr)).complete p = .ok cs :=
  resultsFor_printing_list Completion.ofJson?_toJson ht stderr (i.call ⟨.complete, p⟩) i.program

theorem signatures_printing (i : Interpreter) {text : Text} {ps : List Parameter}
    (ht : Json.parse? text = some (Answer.parameters ps).toJson) (stderr : Bytes) (p : Probe) :
    (i.engine (printing text stderr)).signatures p = .ok ps :=
  resultsFor_printing_list Parameter.ofJson?_toJson ht stderr (i.call ⟨.signatures, p⟩) i.program

end Interpreter

namespace Query

open Interpreter

/-- The text may be any that has the value of the answer, also one that ends its line. -/
theorem answer_printing {q : Query} {engine : Engine} {text : Text} (i : Interpreter)
    (stderr : Bytes) :
    Json.parse? text = some (q.answer engine).toJson →
      q.answer (i.engine (printing text stderr)) = q.answer engine := by
  unfold answer
  cases q.mode with
  | complete =>
    intro ht
    show Answer.completions (resultsOrNone _) = _
    rw [complete_printing i ht stderr q.probe]
    rfl
  | signature =>
    intro ht
    show Answer.parameters (resultsOrNone _) = _
    rw [signatures_printing i ht stderr q.probe]
    rfl
  | hover => exact fun _ => rfl

/-- What the command prints ends its line, and an interpreter that prints this line makes the
command print it again. -/
theorem outcome?_printing {python : Text} {a : QueryCommand.Arguments} {stub : Text}
    {meet : Call → Option Exchange} {o : CommandLine.Outcome} (stderr : Bytes)
    (ho : (QueryCommand.answered python a stub).outcome? meet = some o) :
    (QueryCommand.answered python a stub).outcome?
      (fun c => some (printing o.stdout stderr c)) = some o := by
  by_cases hm : a.mode = .hover
  · rw [QueryCommand.answered_of_hover hm] at ho ⊢
    exact ho
  · rw [QueryCommand.answered_of_ne_hover hm] at ho ⊢
    obtain ⟨x, -, rfl⟩ := Option.map_eq_some_iff.1 ho
    have ht := Json.parse?_compact_append_lineFeed ((QueryCommand.query a stub).answer
      ((QueryCommand.interpreter python a).engine fun _ => x)).toJson
    exact congrArg (fun answer => some (QueryCommand.printed answer))
      (answer_printing (QueryCommand.interpreter python a) stderr ht)

theorem answer_eq_completions {q : Query} {engine : Engine} {cs : List Completion}
    (hm : q.mode = .complete) (h : engine.complete q.probe = .ok cs) :
    q.answer engine = .completions cs := by
  rw [answer, hm]
  exact congrArg (fun r => Answer.completions (resultsOrNone r)) h

theorem answer_eq_parameters {q : Query} {engine : Engine} {ps : List Parameter}
    (hm : q.mode = .signature) (h : engine.signatures q.probe = .ok ps) :
    q.answer engine = .parameters ps := by
  rw [answer, hm]
  exact congrArg (fun r => Answer.parameters (resultsOrNone r)) h

theorem answer_engine_printing (q : Query) (i : Interpreter) (stderr : Bytes) :
    (∀ engine : Engine,
      q.answer (i.engine (printing (q.answer engine).render stderr)) = q.answer engine) ∧
    (∀ python (a : QueryCommand.Arguments) stub meet o,
      (QueryCommand.answered python a stub).outcome? meet = some o →
        (QueryCommand.answered python a stub).outcome?
          (fun c => some (printing o.stdout stderr c)) = some o) ∧
    (q.mode = .complete →
      (∀ (engine : Engine) cs, engine.complete q.probe = .ok cs →
        q.answer engine = .completions cs ∧
          ∀ p, (i.engine (printing (q.answer engine).render stderr)).complete p = .ok cs) ∧
      ∀ (meet : Call → Exchange) cs,
        (meet (i.call ⟨.complete, q.probe⟩)).Ends Completion.IsToldBy i.program (.ok cs) →
          ∀ p, (i.engine (printing (q.answer (i.engine meet)).render stderr)).complete p =
            .ok cs) ∧
    (q.mode = .signature →
      (∀ (engine : Engine) ps, engine.signatures q.probe = .ok ps →
        q.answer engine = .parameters ps ∧
          ∀ p, (i.engine (printing (q.answer engine).render stderr)).signatures p = .ok ps) ∧
      ∀ (meet : Call → Exchange) ps,
        (meet (i.call ⟨.signatures, q.probe⟩)).Ends Parameter.IsToldBy i.program (.ok ps) →
          ∀ p, (i.engine (printing (q.answer (i.engine meet)).render stderr)).signatures p =
            .ok ps) := by
  have hcomplete : q.mode = .complete → ∀ (engine : Engine) cs,
      engine.complete q.probe = .ok cs → q.answer engine = .completions cs ∧
        ∀ p, (i.engine (printing (q.answer engine).render stderr)).complete p = .ok cs := by
    intro hm engine cs hcs
    have ha := answer_eq_completions hm hcs
    rw [ha]
    exact ⟨rfl, complete_printing i (Json.parse?_compact _) stderr⟩
  have hsignature : q.mode = .signature → ∀ (engine : Engine) ps,
      engine.signatures q.probe = .ok ps → q.answer engine = .parameters ps ∧
        ∀ p, (i.engine (printing (q.answer engine).render stderr)).signatures p = .ok ps := by
    intro hm engine ps hps
    have ha := answer_eq_parameters hm hps
    rw [ha]
    exact ⟨rfl, signatures_printing i (Json.parse?_compact _) stderr⟩
  refine ⟨fun engine => answer_printing i stderr (Json.parse?_compact _),
    fun python a stub meet o ho => outcome?_printing stderr ho,
    fun hm => ⟨hcomplete hm, fun meet cs hends => ?_⟩,
    fun hm => ⟨hsignature hm, fun meet ps hends => ?_⟩⟩
  · have hcs := (Exchange.resultsFor_eq_iff Completion.ofJson?_eq_some_iff).2 hends
    exact (hcomplete hm (i.engine meet) cs hcs).2
  · have hps := (Exchange.resultsFor_eq_iff Parameter.ofJson?_eq_some_iff).2 hends
    exact (hsignature hm (i.engine meet) ps hps).2

/-- Fields stand in any order, may be missing, null or unknown, and a list tells them by place. -/
theorem answer_engine_printing_told :
    let complete : Query := ⟨.complete, "x: int\n".toList, "x".toList⟩
    let signature : Query := ⟨.signature, "x: int\n".toList, "x".toList⟩
    let i : Interpreter := ⟨"python3".toList, "s.pyi".toList⟩
    let cs : List Completion :=
      [⟨"aA".toList, "function".toList, []⟩, ⟨"b".toList, "module".toList, []⟩]
    let ps : List Parameter := [⟨"sep".toList, [], none, [], []⟩,
      ⟨"end".toList, "k".toList, some "'\n'".toList, [], []⟩]
    let completions : Call → Exchange :=
      printing ("[\x7b\"n\": 1, \"type\": \"function\", \"name\": \"a\\u0041\"\x7d, ".toList ++
        "[\"b\", \"module\"]]".toList) []
    let parameters : Call → Exchange :=
      printing ("[\x7b\"default\": null, \"name\": \"sep\"\x7d, ".toList ++
        "[\"end\", \"k\", \"'\\n'\"]]".toList) []
    let completing := i.call ⟨.complete, complete.probe⟩
    let signing := i.call ⟨.signatures, signature.probe⟩
    ((completions completing).Ends Completion.IsToldBy i.program (.ok cs) ∧
      (i.engine (printing (complete.answer (i.engine completions)).render [])).complete
        complete.probe = .ok cs) ∧
    (parameters signing).Ends Parameter.IsToldBy i.program (.ok ps) ∧
      (i.engine (printing (signature.answer (i.engine parameters)).render [])).signatures
        signature.probe = .ok ps := by
  intro complete signature i cs ps completions parameters completing signing
  have hcs : (completions completing).resultsFor Completion.ofJson? i.program = .ok cs := by
    decide +kernel
  have hps : (parameters signing).resultsFor Parameter.ofJson? i.program = .ok ps := by
    decide +kernel
  have hcstold := (Exchange.resultsFor_eq_iff Completion.ofJson?_eq_some_iff).1 hcs
  have hpstold := (Exchange.resultsFor_eq_iff Parameter.ofJson?_eq_some_iff).1 hps
  have hcomplete := (answer_engine_printing complete i []).2.2.1 rfl
  have hsignature := (answer_engine_printing signature i []).2.2.2 rfl
  exact ⟨⟨hcstold, hcomplete.2 completions cs hcstold complete.probe⟩, hpstold,
    hsignature.2 parameters ps hpstold signature.probe⟩

end Query

end TemplateTypes
