import TemplateTypes.QueryCommand
import TemplateTypes.Proofs.JsonRoundTrip
import TemplateTypes.Proofs.PipeExchanges
import TemplateTypes.Proofs.Replies

/-!
# Query answers — what the query command prints

An exchange with an interpreter ends in one of five ways, and which one it is is judged in a fixed
order.  Only the last way gives results; each of the others counts as none.  Main statement: on a
readable stub the command calls an interpreter once, or in hover mode not at all, and whatever the
interpreter has done when it ends, the run succeeds and prints one JSON value on one line
(`run_prints_value`).  A run whose interpreter never ends does not end either, and one that fills
its output before it takes its input never ends (`outcome?_eq_none_of_overfills`).
-/

namespace TemplateTypes

/-! ## 1. One exchange -/

/-- The process says that all went well: not a signal, and the status that arrives is zero. -/
def Behaviour.Succeeds (b : Behaviour) : Prop :=
  b.ending.status? = some 0

/-- The output is a JSON text, and its value lists the results. -/
def Behaviour.Prints {α : Type} (tells : Json → α → Prop) (b : Behaviour) (rs : List α) : Prop :=
  ∃ j, Json.parseBytes? b.stdout = some j ∧ Json.Lists tells j rs

namespace Exchange

/-- What an exchange comes to.  Where several things go wrong, the one listed first counts. -/
inductive Ends {α : Type} (tells : Json → α → Prop) (program : Text) :
    Exchange → Except EngineError (List α) → Prop
  | notStarted : Ends tells program .notStarted (.error (.notStarted program))
  | failed {b : Behaviour} : ¬ b.Succeeds → Ends tells program (.ended b)
      (.error (.failed (b.ending.status?.map Int.ofNat) (Text.Utf8.decodeLossy b.stderr)))
  | undelivered {b : Behaviour} : b.Succeeds → b.delivered = false →
      Ends tells program (.ended b) (.error .exchange)
  | undecodable {b : Behaviour} : b.Succeeds → b.delivered = true → (¬ ∃ rs, b.Prints tells rs) →
      Ends tells program (.ended b) (.error .undecodable)
  | answered {b : Behaviour} {rs : List α} : b.Succeeds → b.delivered = true → b.Prints tells rs →
      Ends tells program (.ended b) (.ok rs)

variable {α : Type} {read : Json → Option α} {tells : Json → α → Prop} {program : Text}

theorem resultsOf_eq_ok_iff (h : ∀ j r, read j = some r ↔ tells j r) {b : Behaviour} {rs : List α} :
    Engine.resultsOf read (Json.parseBytes? b.stdout) = .ok rs ↔ b.Prints tells rs := by
  unfold Engine.resultsOf Behaviour.Prints
  simp only [← Json.listOf?_eq_some_iff h, ← Option.bind_eq_some_iff]
  split
  · rename_i rs' hrs
    simp [hrs]
  · rename_i hn
    simp [hn]

/-- Output that lists no results has only one way to be wrong. -/
theorem resultsOf_eq_error_iff (h : ∀ j r, read j = some r ↔ tells j r) {b : Behaviour}
    {e : EngineError} :
    Engine.resultsOf read (Json.parseBytes? b.stdout) = .error e ↔
      e = .undecodable ∧ ¬ ∃ rs, b.Prints tells rs := by
  simp only [← resultsOf_eq_ok_iff h]
  unfold Engine.resultsOf
  split
  · simp
  · simp [eq_comm]

/-! The order in which an exchange is judged, one step after the other. -/

theorem outputOf_of_not_succeeds {b : Behaviour} (hs : ¬ b.Succeeds) :
    outputOf program (.ended b) =
      .error (.failed (b.ending.status?.map Int.ofNat) (Text.Utf8.decodeLossy b.stderr)) :=
  if_pos hs

theorem outputOf_of_not_delivered {b : Behaviour} (hs : b.Succeeds) (hd : b.delivered = false) :
    outputOf program (.ended b) = .error .exchange := by
  refine (if_neg (not_not_intro hs)).trans (if_pos ?_)
  rw [hd]
  rfl

theorem outputOf_of_delivered {b : Behaviour} (hs : b.Succeeds) (hd : b.delivered = true) :
    outputOf program (.ended b) = .ok b.stdout := by
  refine (if_neg (not_not_intro hs)).trans (if_neg ?_)
  rw [hd]
  decide

theorem resultsFor_eq_iff (h : ∀ j r, read j = some r ↔ tells j r) {x : Exchange}
    {result : Except EngineError (List α)} :
    x.resultsFor read program = result ↔ x.Ends tells program result := by
  unfold resultsFor
  constructor
  · rintro rfl
    cases x with
    | notStarted => exact .notStarted
    | ended b =>
      by_cases hs : b.Succeeds
      · cases hd : b.delivered with
        | true =>
          rw [outputOf_of_delivered hs hd]
          show Ends tells program _ (Engine.resultsOf read (Json.parseBytes? b.stdout))
          cases hr : Engine.resultsOf read (Json.parseBytes? b.stdout) with
          | ok rs => exact .answered hs hd ((resultsOf_eq_ok_iff h).1 hr)
          | error e =>
            obtain ⟨rfl, hn⟩ := (resultsOf_eq_error_iff h).1 hr
            exact .undecodable hs hd hn
        | false =>
          rw [outputOf_of_not_delivered hs hd]
          exact .undelivered hs hd
      · rw [outputOf_of_not_succeeds hs]
        exact .failed hs
  · intro hr
    cases hr with
    | notStarted => rfl
    | failed hs => rw [outputOf_of_not_succeeds hs]
    | undelivered hs hd => rw [outputOf_of_not_delivered hs hd]
    | undecodable hs hd hn =>
      rw [outputOf_of_delivered hs hd]
      exact (resultsOf_eq_error_iff h).2 ⟨rfl, hn⟩
    | answered hs hd hp =>
      rw [outputOf_of_delivered hs hd]
      exact (resultsOf_eq_ok_iff h).2 hp

/-- An exchange comes to one thing only. -/
theorem Ends.unique (h : ∀ j r, read j = some r ↔ tells j r) {x : Exchange}
    {result result' : Except EngineError (List α)} (hr : x.Ends tells program result)
    (hr' : x.Ends tells program result') : result = result' := by
  rw [← (resultsFor_eq_iff h).2 hr, ← (resultsFor_eq_iff h).2 hr']

/-- What is printed after an exchange: its results, or no results if it failed. -/
def IsPrintedAs (tells : Json → α → Prop) (toJson : α → Json) (program : Text) (x : Exchange)
    (v : Json) : Prop :=
  (∃ rs, x.Ends tells program (.ok rs) ∧ v = .list (rs.map toJson)) ∨
    ∃ e, x.Ends tells program (.error e) ∧ v = .list []

theorem isPrintedAs_resultsOrNone (h : ∀ j r, read j = some r ↔ tells j r) (toJson : α → Json)
    (program : Text) (x : Exchange) :
    x.IsPrintedAs tells toJson program
      (.list ((Query.resultsOrNone (x.resultsFor read program)).map toJson)) := by
  have hr := (resultsFor_eq_iff h).1 (rfl : x.resultsFor read program = _)
  cases hres : x.resultsFor read program with
  | ok rs =>
    rw [hres] at hr
    exact .inl ⟨rs, hr, rfl⟩
  | error e =>
    rw [hres] at hr
    exact .inr ⟨e, hr, rfl⟩

end Exchange

/-! ## 2. The value of an answer -/

namespace Query

/-- What is printed about an entry of the stub. -/
def IsEntry (q : Query) (v : Json) : Prop :=
  (∃ e, Stub.lookup q.stub q.expr = some e ∧
      v = .record [("doc".toList, .textOrNull e.doc), ("type".toList, .text e.type)]) ∨
    Stub.lookup q.stub q.expr = none ∧ v = .object []

/-- What a query prints: what came of the exchange, or the entry of the stub. -/
def IsAnsweredBy (q : Query) (program : Text) (x : Exchange) (v : Json) : Prop :=
  match q.mode with
  | .complete => x.IsPrintedAs Completion.IsToldBy Completion.toJson program v
  | .signature => x.IsPrintedAs Parameter.IsToldBy Parameter.toJson program v
  | .hover => q.IsEntry v

theorem isEntry_entryToJson (q : Query) :
    q.IsEntry (Answer.entryToJson (Stub.lookup q.stub q.expr)) := by
  unfold IsEntry
  cases Stub.lookup q.stub q.expr with
  | none => exact .inr ⟨rfl, rfl⟩
  | some e => exact .inl ⟨e, rfl, rfl⟩

theorem isAnsweredBy_answer (q : Query) (i : Interpreter) (x : Exchange) :
    q.IsAnsweredBy i.program x (q.answer (i.engine fun _ => x)).toJson := by
  unfold IsAnsweredBy answer
  cases q.mode with
  | complete => exact x.isPrintedAs_resultsOrNone Completion.ofJson?_eq_some_iff _ _
  | signature => exact x.isPrintedAs_resultsOrNone Parameter.ofJson?_eq_some_iff _ _
  | hover => exact q.isEntry_entryToJson

end Query

/-! ## 3. A run -/

namespace QueryCommand

/-- Success, and one JSON value on one line. -/
structure PrintsValue (o : CommandLine.Outcome) (v : Json) : Prop where
  code : o.code = 0
  stdout : o.stdout = v.compact ++ ['\n']
  oneLine : '\n' ∉ v.compact
  value : Json.parse? v.compact = some v

theorem printsValue_printed (answer : Answer) : PrintsValue (printed answer) answer.toJson where
  code := rfl
  stdout := rfl
  oneLine := (Json.noControl_compact _).lineFeed_notMem
  value := Json.parse?_compact _

theorem run_of_readText {args : List Text} {t : FileTree} {a : Arguments} {stub : Text}
    (ha : Arguments.ofTexts? args = some a) (hs : t.readText a.stub = .ok stub) (python : Text) :
    run python args t = answered python a stub := by
  simp only [run, ha, hs]

/-- What the interpreter of a query in this mode is started with. -/
def callOf (python : Text) (a : Arguments) (stub : Text) : Interpreter.Call where
  program := a.python.getD python
  mode := a.mode.name
  path := a.stub
  line := (query a stub).probe.cursor.line
  column := (query a stub).probe.cursor.column
  source := (query a stub).probe.source

theorem answered_of_hover {a : Arguments} (hm : a.mode = .hover) (python stub : Text) :
    answered python a stub =
      .done (printed ((query a stub).answer
        ((interpreter python a).engine fun _ => .notStarted))) := by
  unfold answered Query.request?
  rw [show (query a stub).mode = .hover from hm]

theorem answered_of_ne_hover {a : Arguments} (hm : a.mode ≠ .hover) (python stub : Text) :
    answered python a stub = .calls (callOf python a stub) fun x =>
      printed ((query a stub).answer ((interpreter python a).engine fun _ => x)) := by
  unfold answered Query.request? callOf
  rw [show (query a stub).mode = a.mode from rfl]
  cases h : a.mode with
  | complete => rfl
  | signature => rfl
  | hover => exact absurd h hm

/-- The run is over, and printed what the exchange came to. -/
def PrintsAnswer (python : Text) (a : Arguments) (stub : Text) (x : Exchange)
    (outcome : Option CommandLine.Outcome) : Prop :=
  ∃ o v, outcome = some o ∧ PrintsValue o v ∧
    (query a stub).IsAnsweredBy (a.python.getD python) x v

variable {args : List Text} {t : FileTree} {a : Arguments} {stub : Text}

theorem outcome?_of_ne_hover (ha : Arguments.ofTexts? args = some a)
    (hs : t.readText a.stub = .ok stub) (hm : a.mode ≠ .hover) (python : Text)
    (meet : Interpreter.Call → Option Exchange) :
    (run python args t).outcome? meet = (meet (callOf python a stub)).map fun x =>
      printed ((query a stub).answer ((interpreter python a).engine fun _ => x)) := by
  rw [run_of_readText ha hs, answered_of_ne_hover hm]
  rfl

theorem printsAnswer_outcome? (ha : Arguments.ofTexts? args = some a)
    (hs : t.readText a.stub = .ok stub) (hm : a.mode ≠ .hover) (python : Text)
    {meet : Interpreter.Call → Option Exchange} {x : Exchange}
    (hx : meet (callOf python a stub) = some x) :
    PrintsAnswer python a stub x ((run python args t).outcome? meet) := by
  refine ⟨_, _, ?_, printsValue_printed _,
    (query a stub).isAnsweredBy_answer (interpreter python a) x⟩
  rw [outcome?_of_ne_hover ha hs hm, hx, Option.map_some]

variable {room : Nat}

/-- A run waits for ever if its interpreter writes too much before it takes the source. -/
theorem outcome?_eq_none_of_overfills (ha : Arguments.ofTexts? args = some a)
    (hs : t.readText a.stub = .ok stub) (hm : a.mode ≠ .hover) (python : Text)
    {start : Interpreter.Call → Child}
    (hf : (start (callOf python a stub)).Overfills room (query a stub).probe.source)
    (turns : List Turn) :
    (run python args t).outcome? (fun c => (start c).meet room turns c.source) = none := by
  rw [outcome?_of_ne_hover ha hs hm]
  exact congrArg (Option.map _) (Child.meet_eq_none hf turns)

/-- A run can always come to its end if the output of its interpreter finds room. -/
theorem exists_outcome?_of_fitsInto (hroom : 0 < room) (ha : Arguments.ofTexts? args = some a)
    (hs : t.readText a.stub = .ok stub) (hm : a.mode ≠ .hover) (python : Text)
    {start : Interpreter.Call → Child} (hf : (start (callOf python a stub)).FitsInto room)
    (turns : List Turn) :
    ∃ more x, PrintsAnswer python a stub x
      ((run python args t).outcome? fun c => (start c).meet room (turns ++ more) c.source) := by
  obtain ⟨more, x, hx⟩ := Child.exists_meet hroom hf (query a stub).probe.source turns
  exact ⟨more, x, printsAnswer_outcome? ha hs hm python hx⟩

end QueryCommand

end TemplateTypes
