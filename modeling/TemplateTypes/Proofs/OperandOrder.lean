import TemplateTypes.Proofs.StubRuns

/-!
# Operand order — runs over the same operands in another order

The operands of a run may come in any order and any of them more than once.  What they stand for is
put in order, so the spelling of a template is all that can depend on it: of several spellings the
first one stays.  Spellings of one template are read from one file, have outputs that are spellings
of one path, and are written to one place.  So the loops of two such runs go in step through the
same trees (`agree_renderOne` is the step, `agree_renderAll` the run), and the runs end alike
(`run_operands`).
-/

namespace TemplateTypes.StubCommand

open CommandLine (Outcome)
open FileTree (HasFile Keeps HasPlainNames)

variable {f : Format} {output : Option Path} {t t₀ u : FileTree} {p q d e : Path} {m n : Text}
variable {paths paths' : List Path} {done done' : List (Path × Result)}

/-! ## 1. Spellings of one template -/

theorem components_of_same (hp : t.HasFile p d m) (hq : t.HasFile q e n)
    (h : Path.same p q = true) : Path.components d = Path.components e ∧ m = n := by
  rw [Path.same, decide_eq_true_eq, hp.isInside.components, hq.isInside.components] at h
  obtain ⟨hdirectory, hname⟩ := List.append_inj' h rfl
  rw [List.singleton_inj, Component.name.injEq] at hname
  exact ⟨hdirectory, hname⟩

/-- The outputs of two spellings of one template are spellings of one path. -/
theorem same_outputPath (hp : t.HasFile p d m) (hq : t.HasFile q e n) (h : Path.same p q = true) :
    Path.same (outputPath f output p) (outputPath f output q) = true := by
  obtain ⟨hcomponents, rfl⟩ := components_of_same hp hq h
  have hdirectory : Path.components (outputDirectory output p) =
      Path.components (outputDirectory output q) := by
    cases output with
    | none => simpa [outputDirectory, hp.parent, hq.parent] using hcomponents
    | some directory => rfl
  have hname : outputName f p = outputName f q := by
    rw [outputName_of_hasFile hp, outputName_of_hasFile hq]
  rw [Path.same, decide_eq_true_eq, outputPath_eq, outputPath_eq,
    Path.components_join _ (isPlain_outputName hp), Path.components_join _ (isPlain_outputName hq),
    hdirectory, hname]

/-- Two spellings of one template are rendered to the same tree, or neither is rendered. -/
theorem toOption_renderFile_eq (hplaced : Placed output t₀ paths)
    (hplaced' : Placed output t₀ paths') (hk : Keeps t₀ u) (hp : p ∈ paths) (hq : q ∈ paths')
    (h : Path.same p q = true) :
    (f.renderFile u q (outputPath f output q)).toOption =
      (f.renderFile u p (outputPath f output p)).toOption := by
  obtain ⟨d, m, hpfile⟩ := hplaced.hasFile p hp
  obtain ⟨e, n, hqfile⟩ := hplaced'.hasFile q hq
  apply Format.toOption_renderFile_congr
  · -- In every tree that keeps the directories, both spellings lead to the one file.
    have hlocate : t₀.locate p = t₀.locate q := FileTree.locate_eq_of_same t₀ h
    exact FileTree.readText_congr (hk.resolve_eq_ok hpfile.resolve)
      (hlocate ▸ hk.resolve_eq_ok hqfile.resolve) rfl
  · -- Both outputs have one place, and writing looks at nothing but the place.
    intro content
    have htarget : target f output t₀ p = target f output t₀ q :=
      FileTree.locate_eq_of_same t₀ (same_outputPath hpfile hqfile h)
    rw [hplaced.write_eq hk hp, hplaced'.write_eq hk hq, htarget]

/-! ## 2. Loops in step -/

/-- Results of one template under two spellings. -/
inductive Result.Agrees : Result → Result → Prop
  | written {out out' : Path} (h : Path.same out out' = true) :
      Agrees (.written out) (.written out')
  | taken {out other out' other' : Path} : Agrees (.taken out other) (.taken out' other')
  | failed {e e' : RenderError} : Agrees (.failed e) (.failed e')

theorem Result.Agrees.isFailure_eq {r r' : Result} (h : r.Agrees r') :
    r.isFailure = r'.isFailure := by
  cases h <;> rfl

/-- The results of two loops that go in step. -/
abbrev InStep : List (Path × Result) → List (Path × Result) → Prop :=
  List.Forall₂ fun x y => x.2.Agrees y.2

theorem InStep.failures_eq (h : InStep done done') : failures done = failures done' := by
  induction h with
  | nil => rfl
  | cons hxy _ ih =>
    unfold failures at ih ⊢
    rw [List.countP_cons, List.countP_cons, ih, hxy.isFailure_eq]

theorem writerOf?_written_cons (p out o : Path) :
    writerOf? ((p, .written out) :: done) o =
      if Path.same out o then some p else writerOf? done o := by
  rw [writerOf?, List.findSome?_cons]
  split <;> simp_all [writerOf?]

/-- An output is taken in both loops or in neither. -/
theorem InStep.writerOf?_eq_none_iff (h : InStep done done') {o o' : Path}
    (ho : Path.same o o' = true) : writerOf? done o = none ↔ writerOf? done' o' = none := by
  -- Only what was written can take an output, and the loops have written to the same paths.
  induction h with
  | nil => exact iff_of_true rfl rfl
  | @cons x y xs ys hxy _ ih =>
    obtain ⟨p, r⟩ := x
    obtain ⟨q, r'⟩ := y
    cases hxy with
    | @written out out' hout =>
      have hboth : Path.same out o = Path.same out' o' := Path.same_congr hout ho
      rw [writerOf?_written_cons, writerOf?_written_cons, hboth]
      split
      · simp
      · exact ih
    | taken => exact ih
    | failed => exact ih

/-- The step: both loops leave one tree and results that agree. -/
theorem agree_renderOne (hplaced : Placed output t₀ paths) (hplaced' : Placed output t₀ paths')
    (hk : Keeps t₀ u) (hdone : InStep done done') (hp : p ∈ paths) (hq : q ∈ paths')
    (h : Path.same p q = true) :
    (renderOne f output u done' q).1 = (renderOne f output u done p).1 ∧
      (renderOne f output u done p).2.Agrees (renderOne f output u done' q).2 := by
  obtain ⟨d, m, hpfile⟩ := hplaced.hasFile p hp
  obtain ⟨e, n, hqfile⟩ := hplaced'.hasFile q hq
  have hout : Path.same (outputPath f output p) (outputPath f output q) = true :=
    same_outputPath hpfile hqfile h
  have hwriter := hdone.writerOf?_eq_none_iff hout
  have hrender := toOption_renderFile_eq (f := f) hplaced hplaced' hk hp hq h
  unfold renderOne
  cases hw : writerOf? done (outputPath f output p) with
  | some other =>
    -- The output is taken in the other loop as well, though maybe by another spelling.
    obtain ⟨other', hw'⟩ : ∃ other', writerOf? done' (outputPath f output q) = some other' := by
      rw [← Option.ne_none_iff_exists', ne_eq, ← hwriter, hw]
      exact Option.some_ne_none other
    simp only [hw, hw']
    exact ⟨trivial, .taken⟩
  | none =>
    -- Both loops render the file now, to the same tree or to none.
    simp only [hw, hwriter.1 hw, Format.writeFile_eq_renderFile]
    cases hr : f.renderFile u p (outputPath f output p) with
    | error e =>
      cases hr' : f.renderFile u q (outputPath f output q) with
      | error e' => exact ⟨rfl, .failed⟩
      | ok v' => simp [hr, hr', Except.toOption] at hrender
    | ok v =>
      cases hr' : f.renderFile u q (outputPath f output q) with
      | error e' => simp [hr, hr', Except.toOption] at hrender
      | ok v' =>
        simp only [hr, hr', Except.toOption, Option.some.injEq] at hrender
        exact ⟨hrender, .written hout⟩

/-- The run: from one tree both loops reach one tree, and their results agree. -/
theorem agree_renderAll (hplaced : Placed output t₀ paths) (hplaced' : Placed output t₀ paths')
    {rest rest' : List Path} (h : List.Forall₂ (fun p q => Path.same p q = true) rest rest')
    (hrest : ∀ p ∈ rest, p ∈ paths) (hrest' : ∀ q ∈ rest', q ∈ paths') (hk : Keeps t₀ u)
    (hdone : InStep done done') :
    (renderAll f output u done' rest').1 = (renderAll f output u done rest).1 ∧
      InStep (renderAll f output u done rest).2 (renderAll f output u done' rest').2 := by
  -- Along the paired templates: one tree for both loops, with the directories of the first tree.
  induction h generalizing u done done' with
  | nil => exact ⟨rfl, hdone⟩
  | @cons p q rest rest' hpq _ ih =>
    obtain ⟨htree, hresult⟩ := agree_renderOne (f := f) hplaced hplaced' hk hdone
      (hrest p List.mem_cons_self) (hrest' q List.mem_cons_self) hpq
    rw [renderAll, renderAll, htree]
    apply ih (fun r hr => hrest r (List.mem_cons_of_mem p hr))
      (fun r hr => hrest' r (List.mem_cons_of_mem q hr))
      (hk.trans (keeps_renderOne f output u done p))
    exact List.rel_append hdone (.cons hresult .nil)

/-! ## 3. Runs -/

theorem hasPlainNames_prepare (ht : t.HasPlainNames) (output : Option Path) :
    (prepare t output).1.HasPlainNames := by
  cases output with
  | none => exact ht
  | some directory => exact ht.makeDirectories directory

variable {args args' : List Text} {a : Arguments} {files' : List Text}

/-- Where the operands expand, both runs render their templates in step. -/
theorem exists_inStep_of_templates (hargs : Arguments.ofTexts? args = some a)
    (hmem : ∀ x, x ∈ files' ↔ x ∈ a.files) (ht : t.IsSound)
    (hprepare : prepare t a.output = (t₀, none)) (h : templates t₀ a.files = .ok paths) :
    ∃ paths', templates t₀ files' = .ok paths' ∧
      (renderAll f a.output t₀ [] paths').1 = (renderAll f a.output t₀ [] paths).1 ∧
      InStep (renderAll f a.output t₀ [] paths).2 (renderAll f a.output t₀ [] paths').2 := by
  obtain ⟨paths', hpaths', hsame⟩ := templates_congr hmem h
  have hplaced : Placed a.output t₀ paths := placed_of_templates hargs ht hprepare h
  have hplaced' : Placed a.output t₀ paths' := placed_of_templates hargs ht hprepare hpaths'
  exact ⟨paths', hpaths', agree_renderAll hplaced hplaced' hsame (fun _ hp => hp)
    (fun _ hq => hq) (Keeps.refl t₀) .nil⟩

/-- What two runs over templates in step have in common: the tree that they leave, and how many
templates they process and how many of these fail. -/
structure EndsInStep (t₀ : FileTree) (files files' : List Text) (paths : List Path)
    (ending ending' : Outcome × FileTree) : Prop where
  tree : ending'.2 = ending.2
  outcomes : ∃ paths' results results', templates t₀ files' = .ok paths' ∧
    results.map Prod.fst = paths ∧ results'.map Prod.fst = paths' ∧
    ending.1 = outcomeFor ((expandAll t₀ files).1.flatMap warning) results ∧
    ending'.1 = outcomeFor ((expandAll t₀ files').1.flatMap warning) results' ∧
    failures results' = failures results ∧ results'.length = results.length

theorem EndsInStep.code_eq {files : List Text} {ending ending' : Outcome × FileTree}
    (h : EndsInStep t₀ files files' paths ending ending') : ending'.1.code = ending.1.code := by
  obtain ⟨-, paths', results, results', -, -, -, hending, hending', hfailures, -⟩ := h
  rw [hending, hending', outcomeFor, outcomeFor, hfailures]

theorem endsInStep_run (input input' : Bytes) (hargs : Arguments.ofTexts? args = some a)
    (hargs' : Arguments.ofTexts? args' = some { a with files := files' }) (hfiles : a.files ≠ [])
    (hfiles' : files' ≠ []) (hmem : ∀ x, x ∈ files' ↔ x ∈ a.files) (ht : t.IsSound)
    (hformat : Format.named a.format = .ok f) (hprepare : prepare t a.output = (t₀, none))
    (h : templates t₀ a.files = .ok paths) :
    EndsInStep t₀ a.files files' paths (run args input t) (run args' input' t) := by
  obtain ⟨paths', hpaths', htree, hresults⟩ :=
    exists_inStep_of_templates (f := f) hargs hmem ht hprepare h
  rw [run_of_templates input hargs hfiles hformat hprepare h,
    run_of_templates input' hargs' hfiles' hformat hprepare hpaths']
  refine ⟨htree, paths', _, _, hpaths', ?_, ?_, rfl, rfl, hresults.failures_eq.symm,
    hresults.length_eq.symm⟩
  · rw [map_fst_renderAll, List.map_nil, List.nil_append]
  · rw [map_fst_renderAll, List.map_nil, List.nil_append]

/-- A faulty pattern among the operands of one run is among those of the other. -/
theorem exists_templates_error {files : List Text} (hmem : ∀ x, x ∈ files' ↔ x ∈ files)
    {e : Failure} (h : templates t files = .error e) : ∃ e', templates t files' = .error e' := by
  cases h' : templates t files' with
  | error e' => exact ⟨e', rfl⟩
  | ok paths' =>
    obtain ⟨paths, hpaths, -⟩ := templates_congr (fun x => (hmem x).symm) h'
    rw [h] at hpaths
    cases hpaths

theorem run_eq_runOnFiles (input : Bytes) (hargs : Arguments.ofTexts? args = some a)
    (hfiles : a.files ≠ []) : run args input t = runOnFiles a t := by
  simp only [run, hargs, if_neg hfiles]

/-- Runs over the same operands, in any order and with any repetitions, leave the same tree and end
with the same exit code.  Where the operands expand, the templates are all that the operands stand
for, in order, and as many of them are processed and as many fail in both runs. -/
theorem run_operands (input input' : Bytes) (hargs : Arguments.ofTexts? args = some a)
    (hargs' : Arguments.ofTexts? args' = some { a with files := files' }) (hfiles : a.files ≠ [])
    (hmem : ∀ x, x ∈ files' ↔ x ∈ a.files) (ht : t.IsSound) (hnames : t.HasPlainNames) :
    (run args' input' t).2 = (run args input t).2 ∧
    (run args' input' t).1.code = (run args input t).1.code ∧
    ∀ f t₀, Format.named a.format = .ok f → prepare t a.output = (t₀, none) →
      ((∃ paths, templates t₀ a.files = .ok paths) ↔
        ∀ operand ∈ a.files, CanExpand t₀ operand) ∧
      ∀ paths, templates t₀ a.files = .ok paths →
        IsExpansion t₀ a.files paths ∧
        EndsInStep t₀ a.files files' paths (run args input t) (run args' input' t) := by
  have hfiles' : files' ≠ [] := by
    obtain ⟨x, hx⟩ := List.exists_mem_of_ne_nil a.files hfiles
    exact List.ne_nil_of_mem ((hmem x).2 hx)
  have hstep : ∀ f t₀ paths, Format.named a.format = .ok f → prepare t a.output = (t₀, none) →
      templates t₀ a.files = .ok paths →
      EndsInStep t₀ a.files files' paths (run args input t) (run args' input' t) :=
    fun f t₀ paths hformat hprepare hpaths =>
      endsInStep_run input input' hargs hargs' hfiles hfiles' hmem ht hformat hprepare hpaths
  have hends : (run args' input' t).2 = (run args input t).2 ∧
      (run args' input' t).1.code = (run args input t).1.code := by
    -- Before the templates are known, a run looks at its format, its output and the tree only.
    have hrun := run_eq_runOnFiles (t := t) input hargs hfiles
    have hrun' := run_eq_runOnFiles (t := t) input' hargs' hfiles'
    cases hformat : Format.named a.format with
    | error e =>
      simp only [hrun, hrun', runOnFiles, hformat, and_self]
    | ok f =>
      rcases hprepare : prepare t a.output with ⟨t₀, - | e⟩
      · cases htemplates : templates t₀ a.files with
        | error e =>
          -- The faulty pattern that is met first may be another one, but both runs end there.
          obtain ⟨e', htemplates'⟩ := exists_templates_error hmem htemplates
          simp only [hrun, hrun', runOnFiles, hformat, hprepare, renderFiles, htemplates,
            htemplates']
          exact ⟨trivial, rfl⟩
        | ok paths =>
          have h := hstep f t₀ paths hformat hprepare htemplates
          exact ⟨h.tree, h.code_eq⟩
      · simp only [hrun, hrun', runOnFiles, hformat, hprepare, and_self]
  refine ⟨hends.1, hends.2, ?_⟩
  intro f t₀ hformat hprepare
  have hnames₀ : t₀.HasPlainNames := by
    have hplain := hasPlainNames_prepare hnames a.output
    rwa [hprepare] at hplain
  refine ⟨exists_templates_iff, ?_⟩
  intro paths hpaths
  exact ⟨isExpansion_of_templates hnames₀ hpaths, hstep f t₀ paths hformat hprepare hpaths⟩

/-- A page that is given and lies in a directory that is given is rendered once, under the spelling
that comes first. -/
theorem run_operands_page :
    let args := ["d//p.html".toList, "d".toList]
    let args' := ["d".toList, "d//p.html".toList, "d".toList]
    let a : Arguments := ⟨args, none, "pyi".toList⟩
    let page := Text.Utf8.encode "\x7b# @types\nx: int\n#\x7d".toList
    let t := ((FileTree.emptyAt ["work".toList]).putAt ["work".toList, "d".toList] .directory).putAt
      ["work".toList, "d".toList, "p.html".toList] (.file page)
    (Arguments.ofTexts? args = some a ∧
      Arguments.ofTexts? args' = some { a with files := args' } ∧ a.files ≠ [] ∧
      (∀ x, x ∈ args' ↔ x ∈ a.files) ∧ t.IsSound ∧ t.HasPlainNames ∧
      Format.named a.format = .ok .stub ∧ prepare t a.output = (t, none) ∧
      templates t args = .ok ["d//p.html".toList] ∧
      templates t args' = .ok ["d/p.html".toList]) ∧
    (run args' [] t).2 = (run args [] t).2 ∧
    (run args' [] t).1.code = (run args [] t).1.code ∧
    IsExpansion t args ["d//p.html".toList] ∧
    EndsInStep t args args' ["d//p.html".toList] (run args [] t) (run args' [] t) := by
  intro args args' a page t
  have hargs : Arguments.ofTexts? args = some a := by decide +kernel
  have hargs' : Arguments.ofTexts? args' = some { a with files := args' } := by decide +kernel
  have hfiles : a.files ≠ [] := by decide
  have hmem : ∀ x, x ∈ args' ↔ x ∈ a.files := by
    intro x
    simp only [args, args', a, List.mem_cons, List.not_mem_nil, or_false]
    tauto
  have ht : t.IsSound := by decide +kernel
  have hnames : t.HasPlainNames := by decide +kernel
  have hformat : Format.named a.format = .ok .stub := by decide +kernel
  have hexpand : (expandAll t args).2 = .ok ["d//p.html".toList, "d/p.html".toList] := by
    decide +kernel
  have hexpand' : (expandAll t args').2 =
      .ok ["d/p.html".toList, "d//p.html".toList, "d/p.html".toList] := by
    decide +kernel
  have htemplates : templates t args = .ok ["d//p.html".toList] := by
    refine templates_eq_ok_iff.2 ⟨_, hexpand, ?_⟩
    rw [Path.sorted_of_pairwise (by decide +kernel), Path.dropRepeats,
      if_pos (by decide +kernel), Path.dropRepeats]
  have htemplates' : templates t args' = .ok ["d/p.html".toList] := by
    refine templates_eq_ok_iff.2 ⟨_, hexpand', ?_⟩
    rw [Path.sorted_of_pairwise (by decide +kernel), Path.dropRepeats,
      if_pos (by decide +kernel), Path.dropRepeats, if_pos (by decide +kernel), Path.dropRepeats]
  obtain ⟨htree, hcode, hall⟩ := run_operands [] [] hargs hargs' hfiles hmem ht hnames
  obtain ⟨-, hpaths⟩ := hall .stub t hformat rfl
  exact ⟨⟨hargs, hargs', hfiles, hmem, ht, hnames, hformat, rfl, htemplates, htemplates'⟩, htree,
    hcode, hpaths _ htemplates⟩

end TemplateTypes.StubCommand
