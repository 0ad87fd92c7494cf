import TemplateTypes.Proofs.RenderingRuns

/-!
# Rendering routes — three ways to one rendering

Stubs have a way of their own from file to file, beside the way that suits any format; and standard
input is rendered without any file.  Main statement: the ways agree.  The two that write leave the
same tree or the same messages, and a tree that differs in the output file only; and what standard
input is turned into, if it can be rendered, is what a template of that content is turned into.
-/

namespace TemplateTypes

/-! ## 1. Writing a file -/

namespace FileTree

variable {t t' : FileTree} {p : Path} {content : Bytes}

/-- The file that the path leads to gets this content, and nothing else changes. -/
structure Sets (t : FileTree) (p : Path) (content : Bytes) (t' : FileTree) : Prop where
  read : t'.read p = .ok content
  workingDirectory : t'.workingDirectory = t.workingDirectory
  nodeAt : ∀ l, l ≠ t.locate p → t'.nodeAt? l = t.nodeAt? l

theorem Sets.of_write (h : t.write p content = .ok t') : t.Sets p content t' := by
  have hk := Keeps.of_write h
  obtain ⟨l, name, -, -, hresolve, rfl⟩ := exists_of_write h
  have hne : l ++ [name] ≠ [] := by simp
  refine ⟨read_eq_ok (hk.resolve_eq_ok hresolve) (nodeAt?_putAt_self hne), rfl, ?_⟩
  intro m hm
  rw [← eq_locate_of_resolve hresolve] at hm
  exact nodeAt?_putAt_of_ne hm

end FileTree

/-! ## 2. From file to file -/

theorem RenderError.chain_ofStub (e : Stub.Error) : (ofStub e).chain = e.chain := by
  cases e <;> rfl

namespace Format

/-- The way of stubs leads to the tree or to the messages of the way that suits any format. -/
theorem mapError_writeFile_eq (t : FileTree) (p out : Path) :
    (Stub.writeFile t p out).mapError Stub.Error.chain =
      (Format.stub.renderFile t p out).mapError RenderError.chain := by
  rw [← writeFile_eq_renderFile, writeFile]
  cases Stub.writeFile t p out with
  | ok t' => rfl
  | error e => exact congrArg Except.error (RenderError.chain_ofStub e).symm

end Format

/-! ## 3. From standard input -/

namespace StubCommand

open CommandLine
open Format (Renders Fails)

variable {f : Format} {name : Text} {input : Bytes} {document rendering : Text}
variable {output : Option Path} {t : FileTree} {before : List (Path × Result)} {template : Path}

theorem runOnInput_of_render (hname : Format.named name = .ok f)
    (hinput : Text.Utf8.decode? input = some document) (h : f.render document = .ok rendering) :
    runOnInput name input = ⟨0, rendering, []⟩ := by
  simp only [runOnInput, renderInput, hinput, hname, h, outcomeOf]

theorem runOnInput_of_malformed {e : RenderError} (hname : Format.named name = .ok f)
    (hinput : Text.Utf8.decode? input = some document) (h : f.render document = .error e) :
    runOnInput name input = ⟨1, [], (Failure.standardInput e).report⟩ := by
  simp only [runOnInput, renderInput, hinput, hname, h, outcomeOf, List.nil_append]

/-- Standard input is turned into what a template is turned into, and is refused where the template
cannot be rendered.  A template may also fail because its output cannot be written. -/
structure RendersAlike (o : Outcome) (r : FileTree × Result) : Prop where
  written : ∀ out, r.2 = .written out → o.code = 0 ∧ r.1.read out = .ok (Text.Utf8.encode o.stdout)
  malformed : o.code ≠ 0 ↔ ∃ lines, r.2 = .failed (.malformed lines)
  stdout : o.code ≠ 0 → o.stdout = []

theorem rendersAlike_renderOne (hname : Format.named name = .ok f)
    (hinput : Text.Utf8.decode? input = some document) (hread : t.read template = .ok input)
    (hfree : writerOf? before (outputPath f output template) = none) :
    RendersAlike (runOnInput name input) (renderOne f output t before template) := by
  have htext : t.readText template = .ok document := by
    simp only [FileTree.readText, hread, hinput]
  cases hrender : f.render document with
  | error e =>
    obtain ⟨lines, rfl⟩ := Format.exists_malformed_of_render_eq_error hrender
    rw [runOnInput_of_malformed hname hinput hrender,
      renderOne_of_fails hfree (.malformed htext hrender)]
    exact ⟨by simp, by simp, by simp⟩
  | ok rendering =>
    rw [runOnInput_of_render hname hinput hrender]
    cases hwrite : t.write (outputPath f output template) (Text.Utf8.encode rendering) with
    | error cause =>
      rw [renderOne_of_fails hfree (.unwritable htext hrender hwrite)]
      exact ⟨by simp, by simp, by simp⟩
    | ok t' =>
      rw [renderOne_of_renders hfree (.intro htext hrender hwrite) hwrite]
      refine ⟨?_, by simp, by simp⟩
      intro out hout
      cases hout
      exact ⟨rfl, (FileTree.Sets.of_write hwrite).read⟩

/-- Without a format nothing is rendered, from wherever. -/
theorem runs_of_unknown {e : RenderError} (hname : Format.named name = .error e) (input : Bytes) :
    ((runOnInput name input).code ≠ 0 ∧ (runOnInput name input).stdout = []) ∧
      ∀ a t, a.format = name → (runOnFiles a t).1.code ≠ 0 ∧ (runOnFiles a t).2 = t := by
  constructor
  · cases hinput : Text.Utf8.decode? input with
    | none => simp [runOnInput, renderInput, hinput, outcomeOf]
    | some document => simp [runOnInput, renderInput, hinput, hname, outcomeOf]
  · rintro a t rfl
    simp [runOnFiles, hname, outcomeOf]

/-! ## 4. All of them -/

theorem routes_agree (t : FileTree) (template : Path) :
    (∀ out, (Stub.writeFile t template out).mapError Stub.Error.chain =
      (Format.stub.renderFile t template out).mapError RenderError.chain) ∧
    (∀ (f : Format) out,
      (∀ t', f.writeFile t template out = .ok t' →
        ∃ content, f.Renders t template out content ∧ t.Sets out content t') ∧
      (∀ content, f.Renders t template out content → ∃ t', f.writeFile t template out = .ok t') ∧
      ∀ e, f.writeFile t template out = .error e ↔ f.Fails t template out e) ∧
    (∀ f output before e, (renderOne f output t before template).2 = .failed e →
      (renderOne f output t before template).1 = t) ∧
    (∀ name f output before input document, Format.named name = .ok f →
      Text.Utf8.decode? input = some document → t.read template = .ok input →
      writerOf? before (outputPath f output template) = none →
        RendersAlike (runOnInput name input) (renderOne f output t before template)) ∧
    ∀ name input e, Format.named name = .error e →
      ((runOnInput name input).code ≠ 0 ∧ (runOnInput name input).stdout = []) ∧
        ∀ a, a.format = name → (runOnFiles a t).1.code ≠ 0 ∧ (runOnFiles a t).2 = t := by
  refine ⟨Format.mapError_writeFile_eq t template, fun f out => ⟨?_, ?_, ?_⟩, ?_, ?_, ?_⟩
  · intro t' h
    obtain ⟨content, hc, hwrite⟩ := Format.writeFile_eq_ok_iff.1 h
    exact ⟨content, hc, .of_write hwrite⟩
  · intro content hc
    cases h : f.writeFile t template out with
    | ok t' => exact ⟨t', rfl⟩
    | error e => exact absurd (Format.writeFile_eq_error_iff.1 h) hc.not_fails
  · exact fun e => Format.writeFile_eq_error_iff
  · intro f output before e he
    rcases renderOne_cases f output t before template with
      ⟨q, -, heq⟩ | ⟨-, ⟨content, t', -, -, heq⟩ | ⟨e', -, heq⟩⟩
    · rw [heq]
    · rw [heq] at he
      cases he
    · rw [heq]
  · intro name f output before input document hname hinput hread hfree
    exact rendersAlike_renderOne hname hinput hread hfree
  · intro name input e hname
    obtain ⟨hinput, hfiles⟩ := runs_of_unknown hname input
    exact ⟨hinput, fun a ha => hfiles a t ha⟩

/-- A stub that is a template of itself is replaced by its rendering, the malformed page is refused
in both ways, and nobody knows the last format. -/
theorem routes_agree_in_place :
    let page := Text.Utf8.encode "\x7b# @types\nx: int\n#\x7d".toList
    let bad := Text.Utf8.encode "\x7b# @types\nx y\n#\x7d".toList
    let t := ((FileTree.emptyAt ["work".toList]).putAt ["work".toList, "p.pyi".toList]
      (.file page)).putAt ["work".toList, "bad.txt".toList] (.file bad)
    let t' := t.putAt ["work".toList, "p.pyi".toList] (.file (Text.Utf8.encode "x: int\n".toList))
    let stdin := runOnInput "stub".toList page
    let refused := runOnInput "pyi".toList bad
    t.Sets "p.pyi".toList (Text.Utf8.encode "x: int\n".toList) t' ∧
      stdin.code = 0 ∧ Text.Utf8.encode stdin.stdout = Text.Utf8.encode "x: int\n".toList ∧
      refused.code ≠ 0 ∧ refused.stdout = [] ∧
      (renderOne .stub none t [] "bad.txt".toList).1 = t ∧
      (runOnFiles ⟨["p.pyi".toList], none, "xml".toList⟩ t).2 = t := by
  intro page bad t t' stdin refused
  have hpage : renderOne .stub none t [] "p.pyi".toList = (t', .written "p.pyi".toList) := by
    decide +kernel
  have hbad : (renderOne .stub none t [] "bad.txt".toList).2 =
      .failed (.malformed ["x y".toList]) := by
    decide +kernel
  have hwrite : Format.stub.writeFile t "p.pyi".toList "p.pyi".toList = .ok t' := by decide +kernel
  have hread : t'.read "p.pyi".toList = .ok (Text.Utf8.encode "x: int\n".toList) := by
    decide +kernel
  obtain ⟨-, hfile, -, hinput, hunknown⟩ := routes_agree t "p.pyi".toList
  obtain ⟨-, -, hsame, hinput', -⟩ := routes_agree t "bad.txt".toList
  obtain ⟨content, -, hsets⟩ := (hfile .stub "p.pyi".toList).1 t' hwrite
  have hcontent := hsets.read
  rw [hread, Except.ok.injEq] at hcontent
  have halike := hinput "stub".toList .stub none [] page _ (by decide +kernel)
    (Text.Utf8.decode?_encode _) (by decide +kernel) rfl
  have halike' := hinput' "pyi".toList .stub none [] bad _ (by decide +kernel)
    (Text.Utf8.decode?_encode _) (by decide +kernel) rfl
  rw [hpage] at halike
  obtain ⟨hcode, hstdout⟩ := halike.written _ rfl
  rw [hread, Except.ok.injEq] at hstdout
  have hrefused : refused.code ≠ 0 := halike'.malformed.2 ⟨_, hbad⟩
  exact ⟨hcontent ▸ hsets, hcode, hstdout.symm, hrefused, halike'.stdout hrefused,
    hsame .stub none [] _ hbad, ((hunknown "xml".toList [] _ rfl).2 _ rfl).2⟩

end StubCommand

end TemplateTypes
