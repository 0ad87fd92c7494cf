import Mathlib.Data.List.Nodup
import TemplateTypes.Proofs.StubLines

/-!
# Stub re-reading — a stub as the interior of a types block

A stub has imports and lines `name: type` as a types block has, so it can be read as one.  A line
that was stored without a docstring always comes back.  A docstring stands on the line of its type
afterwards, and there its colon is a second colon, and its quotes can close quotes in front of the
name.  Main statement: the imports always come back, the whole block does where no docstring of a
type has such a colon or such quotes, and it never does where one has.
-/

namespace TemplateTypes

namespace Stub

/-! ## 1. The line of one name -/

/-- Without a value the blank behind the colon is lost, and nothing else ever is. -/
theorem exists_trim_declarationLine {e : Text × Text} (hn : Text.IsTrimmed e.1)
    (hv : ∀ c ∈ e.2.getLast?, Text.isBlank c = false) :
    ∃ b, Text.trim (declarationLine e) = e.1 ++ ':' :: b ∧ Text.trim b = Text.trim e.2 ∧
      (':' ∈ b ↔ ':' ∈ e.2) ∧
      (BlockLine.QuotesMeet e.1 b ↔ BlockLine.QuotesMeet e.1 e.2) := by
  have hb : Text.AllBlank [' '] := Text.allBlank_spaces 1
  have hc : Text.IsTrimmed (e.1 ++ [':']) := hn.concat (by decide)
  by_cases he : e.2 = []
  · -- The line is blank behind the colon, so trimming takes it back to the colon.
    have hl : declarationLine e = (e.1 ++ [':']) ++ [' '] := by
      rw [declarationLine_eq, he]
      simp
    refine ⟨[], ?_, ?_, ?_, ?_⟩
    · rw [hl, Text.trim_append_blanks hb, hc.trim_eq]
    · rw [he]
    · rw [he]
    · rw [he]
  · have hl : declarationLine e = (e.1 ++ [':']) ++ [' '] ++ e.2 := by
      rw [declarationLine_eq]
      simp
    have ht : Text.IsTrimmed (declarationLine e) := by
      rw [hl]
      exact hc.append hv (by simp) he [' ']
    have hq : ¬ BlockLine.IsQuote ' ' := by simp [BlockLine.IsQuote]
    refine ⟨' ' :: e.2, ?_, ?_, ?_, ?_⟩
    · rw [ht.trim_eq, declarationLine_eq]
    · exact Text.trim_blanks_append hb e.2
    · simp
    · exact BlockLine.quotesMeet_append_cons_iff (a := []) hq

/-- A line is read back as it was written, unless the value brings a colon or closes quotes. -/
theorem ofRaw_declarationLine {e : Text × Text} (hn : IsNameText e.1) (hv : Text.IsTrimmed e.2)
    (hc : ':' ∉ e.2) (hq : ¬ BlockLine.QuotesMeet e.1 e.2) :
    BlockLine.ofRaw (declarationLine e) = .declaring e.1 e.2 := by
  obtain ⟨b, hl, hb, hcb, hqb⟩ := exists_trim_declarationLine hn.trimmed hv.last
  rw [hv.trim_eq] at hb
  apply BlockLine.Reads.ofRaw_eq
  apply BlockLine.Reads.declaring
  · rw [hl]
    exact hn.not_isComment_append_colon
  · rw [hl]
    exact hn.not_isImport_append_colon
  · intro content h
    rw [hl] at h
    exact hq (hqb.1 (BlockLine.exists_isDocstring_iff.1 ⟨content, h⟩))
  · exact ⟨e.1, b, hl, hn.colon_notMem, fun h => hc (hcb.1 h), hn.trimmed.trim_eq.symm, hb.symm⟩

/-- The other way round: a line that declares something declares its own name. -/
theorem of_ofRaw_declarationLine {e : Text × Text} {name type : Text} (hn : IsNameText e.1)
    (hv : ∀ c ∈ e.2.getLast?, Text.isBlank c = false)
    (h : BlockLine.ofRaw (declarationLine e) = .declaring name type) :
    name = e.1 ∧ ':' ∉ e.2 ∧ ¬ BlockLine.QuotesMeet e.1 e.2 := by
  obtain ⟨b, hl, -, hcb, hqb⟩ := exists_trim_declarationLine hn.trimmed hv
  cases BlockLine.ofRaw_eq_iff.1 h with
  | declaring _ _ hd h =>
    obtain ⟨n, t, hnt, hcn, hct, rfl, -⟩ := h
    rw [hl] at hnt hd
    -- Neither name holds a colon, so both are what stands before the first one.
    have hcut := Text.cut?_append hn.colon_notMem b
    rw [hnt, Text.cut?_append hcn, Option.some.injEq, Prod.mk.injEq] at hcut
    obtain ⟨rfl, rfl⟩ := hcut
    refine ⟨hn.trimmed.trim_eq, fun h => hct (hcb.2 h), fun h => ?_⟩
    obtain ⟨content, hc⟩ := BlockLine.exists_isDocstring_iff.2 (hqb.2 h)
    exact hd content hc

theorem import?_ofRaw_declarationLine {e : Text × Text} (hn : IsNameText e.1)
    (hv : ∀ c ∈ e.2.getLast?, Text.isBlank c = false) :
    (BlockLine.ofRaw (declarationLine e)).import? = none := by
  obtain ⟨b, hl, -⟩ := exists_trim_declarationLine hn.trimmed hv
  cases h : BlockLine.ofRaw (declarationLine e) with
  | importing line =>
    cases BlockLine.ofRaw_eq_iff.1 h with
    | importing _ hi =>
      rw [hl] at hi
      exact absurd hi hn.not_isImport_append_colon
  | _ => rfl

theorem ofRaw_of_isImportText {line : Text} (h : IsImportText line) :
    BlockLine.ofRaw line = .importing line := by
  have hc : ¬ BlockLine.IsComment line := by
    rcases h.isImport with ⟨r, rfl⟩ | ⟨r, rfl⟩ <;> simp [BlockLine.IsComment]
  have hr : BlockLine.Reads line (.importing (Text.trim line)) := by
    apply BlockLine.Reads.importing
    · rwa [h.trimmed.trim_eq]
    · rw [h.trimmed.trim_eq]
      exact h.isImport
  rw [hr.ofRaw_eq, h.trimmed.trim_eq]

/-! ## 2. The lines of the stub -/

/-- The stub of a template, read as the only block of a template of its own. -/
def reread (document : Text) : TypesBlock :=
  TypesBlock.ofDocument (TypesBlock.asDocument (ofBlock (TypesBlock.ofDocument document)))

theorem trim_declarationLine_ne_nil (e : Text × Text) : Text.trim (declarationLine e) ≠ [] := by
  intro h
  rw [Text.trim_eq_nil_iff, declarationLine_eq] at h
  exact absurd (h ':' (by simp)) (by decide)

theorem filledLines_render {imports : List Text} {annotations : Annotations}
    (hi : ∀ l ∈ imports, IsImportText l)
    (ha : ∀ e ∈ annotations.entries, FitsLine (declarationLine e)) :
    TypesBlock.filledLines ('\n' :: render imports annotations) =
      imports ++ annotations.entries.map declarationLine := by
  have hline : Text.lines ('\n' :: render imports annotations) =
      [] :: Text.lines (render imports annotations) :=
    Text.lines_append_lineFeed Text.oneLine_nil _
  rw [TypesBlock.filledLines, hline, List.filter_cons_of_neg (by decide),
    filter_lines_render _ (by decide) (fun l h => (hi l h).fits.oneLine)
      fun e h => (ha e h).oneLine,
    List.filter_eq_self.2, List.filter_eq_self.2]
  · intro l hl
    obtain ⟨e, -, rfl⟩ := List.mem_map.1 hl
    exact decide_eq_true (trim_declarationLine_ne_nil e)
  · intro l hl
    rw [(hi l hl).trimmed.trim_eq, decide_eq_true_eq]
    rintro rfl
    exact BlockLine.not_isImport_nil (hi [] hl).isImport

/-- The lines of a stub, read as a types block: its imports, and what its declarations turn into. -/
theorem readsAs_render {imports : List Text} {annotations : Annotations}
    (hi : ∀ l ∈ imports, IsImportText l)
    (ha : ∀ e ∈ annotations.entries, FitsLine (declarationLine e)) :
    TypesBlock.ReadsAs (TypesBlock.asDocument (render imports annotations))
      (imports.map .importing ++
        annotations.entries.map fun e => BlockLine.ofRaw (declarationLine e)) := by
  have hu : Comment.Unclosed (render imports annotations) :=
    unclosed_render (fun l h => (hi l h).fits.unclosed) fun e h => (ha e h).unclosed
  rw [TypesBlock.readsAs_iff]
  refine ⟨_, TypesBlock.interior?_asDocument hu, ?_⟩
  rw [filledLines_render hi ha, List.map_append, List.map_map]
  congr 1
  apply List.map_congr_left
  intro l h
  exact (ofRaw_of_isImportText (hi l h)).symm

theorem readsAs_reread (document : Text) :
    TypesBlock.ReadsAs
      (TypesBlock.asDocument (ofBlock (TypesBlock.ofDocument document)))
      ((TypesBlock.ofDocument document).imports.map .importing ++
        (TypesBlock.ofDocument document).annotations.entries.map
          fun e => BlockLine.ofRaw (declarationLine e)) :=
  readsAs_render (fun _ h => isImportText_of_mem_imports h) fun _ h => fitsLine_of_mem_entries h

/-- A list of imports and of declarations without docstrings is a block as it stands. -/
theorem ofLines_importing_append_declaring (imports : List Text) (declared : List (Text × Text)) :
    TypesBlock.ofLines (imports.map .importing ++ declared.map fun e => .declaring e.1 e.2) =
      ⟨imports, .ofList declared, []⟩ := by
  have hdecl : ∀ es : List (Text × Text),
      declarations none (es.map fun e => .declaring e.1 e.2) = es := by
    intro es
    induction es with
    | nil => rfl
    | cons e es ih => rw [List.map_cons, declarations, ih]; rfl
  -- No docstring waits behind the imports, so the values stay as they are.
  have hpass : ∀ ls : List Text, (ls.map BlockLine.importing).foldl BlockLine.passOn none = none ∧
      declarations none (ls.map .importing) = [] := by
    intro ls
    induction ls with
    | nil => exact ⟨rfl, rfl⟩
    | cons l ls ih => exact ih
  rw [TypesBlock.ofLines, TypesBlock.mk.injEq, declarations_append, (hpass imports).1,
    (hpass imports).2, hdecl, List.nil_append]
  refine ⟨?_, rfl, ?_⟩
  · simp [BlockLine.import?, Function.comp_def]
  · simp [BlockLine.malformed?, Function.comp_def]

/-! ## 3. Values with a docstring -/

theorem colon_mem_withDoc_iff {type doc : Text} (h : ':' ∉ type) :
    ':' ∈ withDoc type (some doc) ↔ ':' ∈ doc := by
  rw [withDoc_some]
  simp [h]

theorem quotesMeet_withDoc_iff {name type doc : Text} :
    BlockLine.QuotesMeet name (withDoc type (some doc)) ↔ BlockLine.QuotesMeet name doc := by
  have hw : withDoc type (some doc) = (type ++ [' ', ' ', '#']) ++ ' ' :: doc := by
    rw [withDoc_some]
    simp
  rw [hw]
  exact BlockLine.quotesMeet_append_cons_iff (by simp [BlockLine.IsQuote])

/-- A value ends as its docstring or its type does. -/
theorem last_of_mem_entries {document : Text} {e : Text × Text}
    (he : e ∈ (TypesBlock.ofDocument document).annotations.entries) :
    ∀ c ∈ e.2.getLast?, Text.isBlank c = false := by
  obtain ⟨type, doc?, h⟩ := exists_isDeclared he
  rw [h.value_eq]
  cases doc? with
  | none => exact h.isType.trimmed.last
  | some doc =>
    have hdoc : IsDocText doc := h.isDoc doc rfl
    rw [withDoc, List.getLast?_append_of_ne_nil _ hdoc.ne_nil]
    exact hdoc.trimmed.last

/-- It begins as its type does, or with the separator where there is no type. -/
theorem isTrimmed_withDoc {type doc : Text} (ht : Text.IsTrimmed type) (hd : IsDocText doc)
    (hn : type ≠ []) : Text.IsTrimmed (withDoc type (some doc)) :=
  ht.append hd.trimmed.last hn hd.ne_nil docSeparator

/-! ## 4. When the lines come back -/

theorem imports_reread (document : Text) :
    (reread document).imports = (TypesBlock.ofDocument document).imports := by
  have hd : ((TypesBlock.ofDocument document).annotations.entries.map
      fun e => BlockLine.ofRaw (declarationLine e)).filterMap BlockLine.import? = [] := by
    rw [List.filterMap_eq_nil_iff]
    intro l hl
    obtain ⟨e, he, rfl⟩ := List.mem_map.1 hl
    exact import?_ofRaw_declarationLine (isNameText_of_mem_entries he) (last_of_mem_entries he)
  rw [reread, TypesBlock.ofDocument_of_readsAs (readsAs_reread document), TypesBlock.ofLines,
    List.filterMap_append, hd, List.append_nil]
  simp [BlockLine.import?, Function.comp_def]

/-- A name that is stored again was declared by its own line, because names are distinct. -/
theorem exists_ofRaw_of_reread_eq {document : Text}
    (h : reread document = TypesBlock.ofDocument document) {e : Text × Text}
    (he : e ∈ (TypesBlock.ofDocument document).annotations.entries) :
    ∃ type, BlockLine.ofRaw (declarationLine e) = .declaring e.1 type := by
  -- The name is known again, so some line of the stub declares it, and only its own line can.
  have hget : (reread document).annotations.get? e.1 = some e.2 := by
    rw [h]
    exact Dictionary.get?_eq_some_iff_mem.2 he
  rw [reread, TypesBlock.ofDocument_of_readsAs (readsAs_reread document)] at hget
  obtain ⟨before, type, ⟨after, hls, -⟩, -⟩ := get?_ofList_declarations_iff.1 hget
  have hmem : .declaring e.1 type ∈ before ++ .declaring e.1 type :: after := by simp
  rw [← hls, List.mem_append] at hmem
  rcases hmem with hmem | hmem
  · obtain ⟨l, -, hl⟩ := List.mem_map.1 hmem
    cases hl
  · obtain ⟨e', he', hl⟩ := List.mem_map.1 hmem
    have hname : e.1 = e'.1 :=
      (of_ofRaw_declarationLine (isNameText_of_mem_entries he') (last_of_mem_entries he') hl).1
    have hsame : e = e' :=
      List.inj_on_of_nodup_map (TypesBlock.ofDocument document).annotations.distinct he he' hname
    rw [hsame] at hl ⊢
    exact ⟨type, hl⟩

theorem of_reread_eq {document : Text} (h : reread document = TypesBlock.ofDocument document)
    {name type doc : Text} (hdoc : Documented document name type doc) :
    ':' ∉ doc ∧ ¬ BlockLine.QuotesMeet name doc := by
  obtain ⟨he, htype⟩ := hdoc.mem_entries
  obtain ⟨t, hl⟩ := exists_ofRaw_of_reread_eq h he
  obtain ⟨-, hv⟩ :=
    of_ofRaw_declarationLine (isNameText_of_mem_entries he) (last_of_mem_entries he) hl
  rwa [colon_mem_withDoc_iff htype.colon_notMem, quotesMeet_withDoc_iff] at hv

theorem ofRaw_declarationLine_of_isDeclared {document type : Text} {e : Text × Text}
    {doc? : Option Text} (h : IsDeclared document e.1 e.2 type doc?)
    (hd : ∀ doc ∈ doc?, type ≠ [] ∧ ':' ∉ doc ∧ ¬ BlockLine.QuotesMeet e.1 doc) :
    BlockLine.ofRaw (declarationLine e) = .declaring e.1 e.2 := by
  cases doc? with
  | none =>
    -- Without a docstring the value is the type, which came from a line of this very shape.
    have hv : e.2 = type := h.value_eq
    apply ofRaw_declarationLine h.isName
    · rw [hv]
      exact h.isType.trimmed
    · rw [hv]
      exact h.isType.colon_notMem
    · rw [hv]
      exact h.quotes
  | some doc =>
    obtain ⟨hn, hc, hq⟩ := hd doc rfl
    apply ofRaw_declarationLine h.isName
    · rw [h.value_eq]
      exact isTrimmed_withDoc h.isType.trimmed (h.isDoc doc rfl) hn
    · rwa [h.value_eq, colon_mem_withDoc_iff h.isType.colon_notMem]
    · rwa [h.value_eq, quotesMeet_withDoc_iff]

theorem reread_eq_of_documented {document : Text}
    (hm : (TypesBlock.ofDocument document).malformed = [])
    (hd : ∀ name type doc, Documented document name type doc →
      type ≠ [] ∧ ':' ∉ doc ∧ ¬ BlockLine.QuotesMeet name doc) :
    reread document = TypesBlock.ofDocument document := by
  have hline : (TypesBlock.ofDocument document).annotations.entries.map
      (fun e => BlockLine.ofRaw (declarationLine e)) =
        (TypesBlock.ofDocument document).annotations.entries.map
          fun e => .declaring e.1 e.2 := by
    apply List.map_congr_left
    intro e he
    obtain ⟨type, doc?, h⟩ := exists_isDeclared he
    apply ofRaw_declarationLine_of_isDeclared h
    rintro doc rfl
    exact hd e.1 type doc (documented_of_isDeclared h)
  have hinsert : Dictionary.ofList (TypesBlock.ofDocument document).annotations.entries =
      (TypesBlock.ofDocument document).annotations :=
    Dictionary.ofList_entries _
  rw [reread, TypesBlock.ofDocument_of_readsAs (readsAs_reread document), hline,
    ofLines_importing_append_declaring, hinsert, ← hm]

/-! ## 5. The stub of a template -/

theorem reread_ofDocument (document : Text)
    (hm : (TypesBlock.ofDocument document).malformed = []) :
    (reread document).imports = (TypesBlock.ofDocument document).imports ∧
      ((∀ name type doc, Documented document name type doc →
          type ≠ [] ∧ ':' ∉ doc ∧ ¬ BlockLine.QuotesMeet name doc) →
        reread document = TypesBlock.ofDocument document) ∧
      (reread document = TypesBlock.ofDocument document →
        ∀ name type doc, Documented document name type doc →
          ':' ∉ doc ∧ ¬ BlockLine.QuotesMeet name doc) :=
  ⟨imports_reread document, reread_eq_of_documented hm, fun h _ _ _ => of_reread_eq h⟩

theorem reread_user :
    let d := TypesBlock.asDocument
      "import os\n\"\"\" Who \"\"\"\nuser: User\nage: int\n".toList
    (TypesBlock.ofDocument d).malformed = [] ∧
      (∀ name type doc, Documented d name type doc →
        type ≠ [] ∧ ':' ∉ doc ∧ ¬ BlockLine.QuotesMeet name doc) ∧
      Documented d "user".toList "User".toList "Who".toList ∧
      reread d = TypesBlock.ofDocument d := by
  intro d
  have hr : TypesBlock.ReadsAs d [.importing "import os".toList, .docstring "Who".toList,
      .declaring "user".toList "User".toList, .declaring "age".toList "int".toList] := by
    rw [TypesBlock.readsAs_iff]
    exact ⟨"\nimport os\n\"\"\" Who \"\"\"\nuser: User\nage: int\n".toList, by decide +kernel,
      by decide +kernel⟩
  have hm : (TypesBlock.ofDocument d).malformed = [] := by decide +kernel
  have hd : ∀ name type doc, Documented d name type doc →
      type ≠ [] ∧ ':' ∉ doc ∧ ¬ BlockLine.QuotesMeet name doc := by
    intro name type doc h
    obtain ⟨hdoc, htype⟩ := h.mem_lines hr
    have hwho : doc = "Who".toList := by simpa using hdoc
    simp only [List.mem_cons, BlockLine.declaring.injEq, reduceCtorEq, List.not_mem_nil,
      false_or, or_false] at htype
    rw [hwho]
    refine ⟨by rcases htype with ⟨-, rfl⟩ | ⟨-, rfl⟩ <;> decide, by decide, ?_⟩
    rintro ⟨q, hq, -, hs⟩
    have hmem : q ∈ "Who".toList := hs.subset (by simp)
    rcases hq with rfl | rfl
    · exact absurd hmem (by decide)
    · exact absurd hmem (by decide)
  refine ⟨hm, hd, ?_, (reread_ofDocument d hm).2.1 hd⟩
  refine ⟨_, [.importing "import os".toList, .docstring "Who".toList], hr, ⟨_, rfl, by simp⟩, ?_⟩
  exact ⟨by decide, [.importing "import os".toList], [], rfl, by simp⟩

/-- A colon in a docstring is the second colon of the line that the docstring ends up on. -/
theorem reread_ne_colon :
    let d := TypesBlock.asDocument "\"\"\"a: b\"\"\"\nx: int\n".toList
    (TypesBlock.ofDocument d).malformed = [] ∧
      (reread d).malformed = ["x: int  # a: b".toList] ∧
      reread d ≠ TypesBlock.ofDocument d := by
  decide +kernel

end Stub

end TemplateTypes
