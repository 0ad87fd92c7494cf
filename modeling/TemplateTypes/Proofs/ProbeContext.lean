import TemplateTypes.Probe
import TemplateTypes.Proofs.StubLines
import TemplateTypes.Stub.Reader

/-!
# Probe context — which declarations of a template reach the engine

A probe tells imports from declarations by their first letters alone, so a declared name that
begins like an import is left out.  Main statement: the source of a probe holds the imports, the
declarations of all other names, and the target line; it holds every declaration exactly when no
name begins like an import.
-/

namespace TemplateTypes.Probe

/-- The name begins with one of the words that open an import line. -/
def BeginsLikeImport (name : Text) : Prop :=
  "import".toList <+: name ∨ "from".toList <+: name

instance (name : Text) : Decidable (BeginsLikeImport name) :=
  inferInstanceAs (Decidable (_ ∨ _))

/-- A name with its value, cut at the first hash. -/
def declaredLine (e : Text × Text) : Text :=
  Text.trim ((e.1 ++ ": ".toList ++ e.2).takeWhile (· ≠ '#'))

/-! ## 1. The lines of a stub, one by one -/

theorem prefix_declarationLine_iff {word : Text} (h : ':' ∉ word) (e : Text × Text) :
    word <+: Stub.declarationLine e ↔ word <+: e.1 := by
  rw [Stub.declarationLine_eq]
  exact Text.isPrefix_append_cons_iff h

theorem isDeclaration_declarationLine (e : Text × Text) :
    isDeclaration (Stub.declarationLine e) = decide (¬ BeginsLikeImport e.1) := by
  have hc : (Stub.declarationLine e).contains ':' = true := by
    rw [Stub.declarationLine_eq]
    simp
  have hb : ∀ word : Text, ':' ∉ word →
      Text.beginsWith word (Stub.declarationLine e) = decide (word <+: e.1) := by
    intro word hw
    rw [Bool.eq_iff_iff, Text.beginsWith_iff, prefix_declarationLine_iff hw, decide_eq_true_eq]
  rw [isDeclaration, hc, hb _ (by decide), hb _ (by decide), Bool.true_and, ← Bool.not_or,
    ← Bool.decide_or, decide_not]
  rfl

theorem isDeclaration_of_isImport {line : Text} (h : BlockLine.IsImport line) :
    isDeclaration line = false := by
  have key : ∀ word : Text, word ++ [' '] <+: line → Text.beginsWith word line = true :=
    fun word hw => Text.beginsWith_iff.2 ((List.prefix_append word [' ']).trans hw)
  rcases h with h | h
  · rw [isDeclaration, key "import".toList h, Bool.not_true, Bool.and_false, Bool.false_and]
  · rw [isDeclaration, key "from".toList h, Bool.not_true, Bool.and_false]

theorem lineFeed_notMem_declaredLine {e : Text × Text} (h : FitsLine (Stub.declarationLine e)) :
    '\n' ∉ declaredLine e := by
  intro hm
  have hl : '\n' ∈ Stub.declarationLine e :=
    (List.takeWhile_subset _) (Text.mem_of_mem_trim hm)
  exact h.oneLine.lineFeed_notMem hl

/-! ## 2. The source of a probe -/

theorem filter_isDeclaration_lines (document : Text) :
    (Text.lines (Stub.ofBlock (TypesBlock.ofDocument document))).filter isDeclaration =
      ((TypesBlock.ofDocument document).annotations.entries.filter
        fun e => decide (¬ BeginsLikeImport e.1)).map Stub.declarationLine := by
  have hi : (TypesBlock.ofDocument document).imports.filter isDeclaration = [] := by
    rw [List.filter_eq_nil_iff]
    intro l h
    rw [isDeclaration_of_isImport (isImportText_of_mem_imports h).isImport]
    decide
  rw [Stub.filter_lines_ofBlock _ (by decide), hi, List.nil_append, List.filter_map]
  congr 1
  apply List.filter_congr
  intro e _
  exact isDeclaration_declarationLine e

theorem context_ofBlock (document : Text) :
    context (Stub.ofBlock (TypesBlock.ofDocument document)) =
      (TypesBlock.ofDocument document).imports ++
        ((TypesBlock.ofDocument document).annotations.entries.filter
          fun e => decide (¬ BeginsLikeImport e.1)).map declaredLine := by
  rw [context, Stub.filter_isImport_lines, filter_isDeclaration_lines, List.map_map]
  rfl

/-- Imports, then one line for each declared name, then the target line. -/
def sourceOf (imports : List Text) (declared : List (Text × Text)) (expr : Text) (mode : Mode) :
    Text :=
  Text.join ['\n'] (imports ++ declared.map declaredLine ++
    ["__typedjinja_target__ = ".toList ++ expr ++ [if mode = .signature then '(' else '.']])

theorem targetLine_eq (expr : Text) (mode : Mode) :
    targetLine expr mode =
      "__typedjinja_target__ = ".toList ++ expr ++ [if mode = .signature then '(' else '.'] := by
  cases mode <;> rfl

theorem source_ofStub_ofBlock (document expr : Text) (mode : Mode) :
    (ofStub (Stub.ofBlock (TypesBlock.ofDocument document)) expr mode).source =
      sourceOf (TypesBlock.ofDocument document).imports
        ((TypesBlock.ofDocument document).annotations.entries.filter
          fun e => decide (¬ BeginsLikeImport e.1)) expr mode := by
  rw [ofStub, context_ofBlock, targetLine_eq]
  rfl

/-- The line feeds of a source tell how many declarations it holds. -/
theorem count_lineFeed_sourceOf {imports : List Text} {declared : List (Text × Text)}
    (hi : ∀ l ∈ imports, '\n' ∉ l) (hd : ∀ e ∈ declared, '\n' ∉ declaredLine e) (expr : Text)
    (mode : Mode) :
    (sourceOf imports declared expr mode).count '\n' =
      imports.length + declared.length + (targetLine expr mode).count '\n' := by
  have h : ∀ l ∈ imports ++ declared.map declaredLine, '\n' ∉ l := by
    intro l hl
    rcases List.mem_append.1 hl with hl | hl
    · exact hi l hl
    · obtain ⟨e, he, rfl⟩ := List.mem_map.1 hl
      exact hd e he
  rw [sourceOf, Text.count_lineFeed_join_append h, ← targetLine_eq, List.length_append,
    List.length_map]

/-! ## 3. The engine hears of every name, or some name begins like an import -/

theorem sourceOf_filter_eq_iff {document : Text} (p : Text × Text → Bool) (expr : Text)
    (mode : Mode) :
    sourceOf (TypesBlock.ofDocument document).imports
        ((TypesBlock.ofDocument document).annotations.entries.filter p) expr mode =
      sourceOf (TypesBlock.ofDocument document).imports
        (TypesBlock.ofDocument document).annotations.entries expr mode ↔
      ∀ e ∈ (TypesBlock.ofDocument document).annotations.entries, p e = true := by
  have hi : ∀ l ∈ (TypesBlock.ofDocument document).imports, '\n' ∉ l :=
    fun l h => (isImportText_of_mem_imports h).fits.oneLine.lineFeed_notMem
  have hd : ∀ e ∈ (TypesBlock.ofDocument document).annotations.entries, '\n' ∉ declaredLine e :=
    fun e h => lineFeed_notMem_declaredLine (Stub.fitsLine_of_mem_entries h)
  constructor
  · -- Every line that is left out is a line feed less, so equal sources left out none.
    intro h
    have hc := congrArg (List.count '\n') h
    rw [count_lineFeed_sourceOf hi (fun e he => hd e (List.mem_of_mem_filter he)),
      count_lineFeed_sourceOf hi hd] at hc
    rw [← List.length_filter_eq_length_iff]
    omega
  · intro h
    rw [List.filter_eq_self.2 h]

theorem source_ofStub_ofBlock_eq_iff (document expr : Text) (mode : Mode) :
    (ofStub (Stub.ofBlock (TypesBlock.ofDocument document)) expr mode).source =
        sourceOf (TypesBlock.ofDocument document).imports
          ((TypesBlock.ofDocument document).annotations.entries.filter
            fun e => decide (¬ BeginsLikeImport e.1)) expr mode ∧
      ((ofStub (Stub.ofBlock (TypesBlock.ofDocument document)) expr mode).source =
          sourceOf (TypesBlock.ofDocument document).imports
            (TypesBlock.ofDocument document).annotations.entries expr mode ↔
        ∀ name ∈ (TypesBlock.ofDocument document).annotations.names, ¬ BeginsLikeImport name) := by
  refine ⟨source_ofStub_ofBlock document expr mode, ?_⟩
  rw [source_ofStub_ofBlock, sourceOf_filter_eq_iff, Dictionary.names, List.forall_mem_map]
  simp only [decide_eq_true_eq]

/-- A name that only begins like an import is known to the stub and kept from the engine. -/
theorem source_ofStub_ofBlock_importer :
    let b := TypesBlock.ofDocument (TypesBlock.asDocument "importer: int\n".toList)
    (ofStub (Stub.ofBlock b) "importer".toList .complete).source ≠
        sourceOf b.imports b.annotations.entries "importer".toList .complete ∧
      Stub.lookup (Stub.ofBlock b) "importer".toList = some ⟨"int".toList, none⟩ := by
  decide +kernel

end TemplateTypes.Probe
