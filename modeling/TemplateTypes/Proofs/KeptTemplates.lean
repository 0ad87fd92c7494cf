import TemplateTypes.Proofs.StubRuns

/-!
# Kept templates — what a run does to the files it reads

A rendering replaces whatever file is at its place, and nothing keeps it away from a template.  But
an output has the extension of its format, so it lands on a template only where that template's own
output does.  Main statement: a template keeps its bytes unless its own output is the template
itself (`run_keeps_templates`).  A stub that is given as a template is one of those, and its
rendering takes its place (`run_replaces_template`).
-/

namespace TemplateTypes.StubCommand

open FileTree (Keeps)

variable {f : Format} {output : Option Path} {t t₀ u : FileTree} {paths : List Path}
variable {done : List (Path × Result)} {p : Path} {l : Location}

/-! ## 1. What a run leaves of a tree -/

/-- This place holds a rendering, and a template that was rendered has its output there. -/
def HoldsRendering (f : Format) (output : Option Path) (t₀ : FileTree)
    (done : List (Path × Result)) (u : FileTree) (l : Location) : Prop :=
  ∃ q, (q, .written (outputPath f output q)) ∈ done ∧ target f output t₀ q = l ∧
    ∃ document rendering, f.render document = .ok rendering ∧
      u.nodeAt? l = some (.file (Text.Utf8.encode rendering))

/-- The invariant of the loop: every place is as it was at the start or holds a rendering. -/
structure Spares (f : Format) (output : Option Path) (t₀ : FileTree) (done : List (Path × Result))
    (u : FileTree) : Prop where
  keeps : Keeps t₀ u
  nodeAt : ∀ l, u.nodeAt? l = t₀.nodeAt? l ∨ HoldsRendering f output t₀ done u l

theorem HoldsRendering.append (h : HoldsRendering f output t₀ done u l)
    (more : List (Path × Result)) : HoldsRendering f output t₀ (done ++ more) u l := by
  obtain ⟨q, hq, hl⟩ := h
  exact ⟨q, List.mem_append_left more hq, hl⟩

namespace Spares

theorem append (h : Spares f output t₀ done u) (more : List (Path × Result)) :
    Spares f output t₀ (done ++ more) u where
  keeps := h.keeps
  nodeAt := fun l => (h.nodeAt l).imp_right fun hl => hl.append more

/-- The step: a template is rendered into the place of its output, or the tree stays. -/
theorem renderOne (h : Spares f output t₀ done u) (hplaced : Placed output t₀ paths)
    (hp : p ∈ paths) :
    Spares f output t₀ (done ++ [(p, (renderOne f output u done p).2)])
      (renderOne f output u done p).1 := by
  rcases renderOne_cases f output u done p with
    ⟨q, -, heq⟩ | ⟨-, ⟨content, u', hc, hwrite, heq⟩ | ⟨e, -, heq⟩⟩
  · rw [heq]
    exact h.append _
  · have hput : u' = u.putAt (target f output t₀ p) (.file content) :=
      hplaced.write_eq_putAt h.keeps hp hwrite
    have hother : ∀ l, l ≠ target f output t₀ p → u'.nodeAt? l = u.nodeAt? l := by
      intro l hl
      rw [hput, FileTree.nodeAt?_putAt_of_ne hl]
    have hself : u'.nodeAt? (target f output t₀ p) = some (.file content) := by
      have hne : target f output t₀ p ≠ [] := by simp [hplaced.target_eq hp]
      rw [hput, FileTree.nodeAt?_putAt_self hne]
    obtain ⟨-, hrender, -⟩ := hc
    rw [heq]
    refine ⟨h.keeps.trans (Keeps.of_write hwrite), ?_⟩
    intro l
    by_cases hl : l = target f output t₀ p
    · subst hl
      exact .inr ⟨p, by simp, rfl, _, _, hrender, hself⟩
    · -- Another place keeps what it has, be it old or a rendering.
      rcases h.nodeAt l with hold | hnew
      · exact .inl ((hother l hl).trans hold)
      · obtain ⟨q, hq, hql, document, rendering, hr, hnode⟩ := hnew.append _
        exact .inr ⟨q, hq, hql, document, rendering, hr, (hother l hl).trans hnode⟩
  · rw [heq]
    exact h.append _

theorem renderAll (hplaced : Placed output t₀ paths) {rest : List Path}
    (h : Spares f output t₀ done u) (hrest : ∀ p ∈ rest, p ∈ paths) :
    Spares f output t₀ (renderAll f output u done rest).2 (renderAll f output u done rest).1 := by
  induction rest generalizing u done with
  | nil => exact h
  | cons p rest ih =>
    exact ih (h.renderOne hplaced (hrest p List.mem_cons_self))
      fun q hq => hrest q (List.mem_cons_of_mem p hq)

end Spares

theorem spares_renderAll (hplaced : Placed output t₀ paths) :
    Spares f output t₀ (StubCommand.renderAll f output t₀ [] paths).2
      (StubCommand.renderAll f output t₀ [] paths).1 := by
  have h : Spares f output t₀ [] t₀ := ⟨Keeps.refl t₀, fun _ => .inl rfl⟩
  exact h.renderAll hplaced fun _ hp => hp

/-! ## 2. Runs -/

/-- Every template has the bytes that it had before the run, unless its own output is the template
itself; then only a rendering that the run has written can have taken its place. -/
theorem run_keeps_templates {args : List Text} {a : Arguments} (input : Bytes)
    (hargs : Arguments.ofTexts? args = some a) (hfiles : a.files ≠ [])
    (hformat : Format.named a.format = .ok f) (ht : t.IsSound)
    (hprepare : prepare t a.output = (t₀, none)) (htemplates : templates t₀ a.files = .ok paths) :
    ∃ results t', run args input t =
        (outcomeFor ((expandAll t₀ a.files).1.flatMap warning) results, t') ∧
      results.map Prod.fst = paths ∧
      ∀ p ∈ paths, ∃ content, t.nodeAt? (t.locate p) = some (.file content) ∧
        t₀.read p = .ok content ∧
        (target f a.output t p = t.locate p ↔
          Path.extension? p = some f.extension ∧
            ∀ directory ∈ a.output, t.locate directory = (t.locate p).dropLast) ∧
        (t'.read p = .ok content ∨
          target f a.output t p = t.locate p ∧
            ∃ q, (q, .written (outputPath f a.output q)) ∈ results ∧
              target f a.output t q = t.locate p ∧ ∃ document rendering,
                f.render document = .ok rendering ∧
                  t'.read p = .ok (Text.Utf8.encode rendering)) := by
  have hadds := adds_of_prepare hprepare
  have ht₀ : t₀.IsSound := by
    have hsound := isSound_prepare ht a.output
    rwa [hprepare] at hsound
  have hplaced : Placed a.output t₀ paths :=
    ⟨hasFile_of_mem_templates ht₀ htemplates, reaches_of_prepare hargs hprepare⟩
  have hspares := spares_renderAll (f := f) hplaced
  have hresults := map_fst_renderAll f a.output t₀ [] paths
  rw [List.map_nil, List.nil_append] at hresults
  have hlocate : ∀ q, t₀.locate q = t.locate q := hadds.keeps.locate_eq
  have htarget : ∀ q, target f a.output t₀ q = target f a.output t q := fun q => hlocate _
  refine ⟨_, _, run_of_templates input hargs hfiles hformat hprepare htemplates, hresults, ?_⟩
  intro p hp
  obtain ⟨d, name, hfile⟩ := hplaced.hasFile p hp
  obtain ⟨content, hnode⟩ := hfile.exists_content (isFile_of_mem_templates htemplates hp)
  have hself := hplaced.target_eq_locate_iff (f := f) hp
  simp only [htarget, hlocate] at hself
  refine ⟨content, ?_, FileTree.read_eq_ok hfile.resolve hnode, hself, ?_⟩
  · -- Only directories are new, so the file was there before.
    rcases hadds.nodeAt (t.locate p) with hn | ⟨-, -, hn⟩
    · rw [← hn, ← hlocate, hnode]
    · rw [← hlocate, hnode] at hn
      cases hn
  · have hresolve := hspares.keeps.resolve_eq_ok hfile.resolve
    rcases hspares.nodeAt (t₀.locate p) with hkept | ⟨q, hq, hqp, document, rendering, hr, hnew⟩
    · left
      exact FileTree.read_eq_ok hresolve (hkept.trans hnode)
    · right
      have hmem : q ∈ paths := by
        rw [← hresults]
        exact List.mem_map_of_mem hq
      have hown := hplaced.target_eq_of_target_eq_locate hp hmem hqp
      rw [htarget, hlocate] at hown hqp
      exact ⟨hown, q, hq, hqp, document, rendering, hr, FileTree.read_eq_ok hresolve hnew⟩

/-- The output of a page is not the page, so the page stays. -/
theorem run_keeps_templates_page :
    let args := ["page.html".toList]
    let a : Arguments := ⟨args, none, "pyi".toList⟩
    let page := Text.Utf8.encode "\x7b# @types\nx: int\n#\x7d".toList
    let t := (FileTree.emptyAt ["work".toList]).putAt ["work".toList, "page.html".toList]
      (.file page)
    (Arguments.ofTexts? args = some a ∧ a.files ≠ [] ∧ Format.named a.format = .ok .stub ∧
      t.IsSound ∧ prepare t a.output = (t, none) ∧ templates t a.files = .ok args) ∧
      (run args [] t).2.read "page.html".toList = .ok page := by
  intro args a page t
  have hargs : Arguments.ofTexts? args = some a := by decide +kernel
  have hfiles : a.files ≠ [] := by decide
  have hformat : Format.named a.format = .ok .stub := by decide +kernel
  have ht : t.IsSound := by decide +kernel
  have hexpand : (expandAll t a.files).2 = .ok args := by decide +kernel
  have htemplates : templates t a.files = .ok args := by
    rw [templates, hexpand]
    exact congrArg Except.ok (Path.sorted_singleton _)
  refine ⟨⟨hargs, hfiles, hformat, ht, rfl, htemplates⟩, ?_⟩
  obtain ⟨results, t', hrun, -, hall⟩ :=
    run_keeps_templates [] hargs hfiles hformat ht rfl htemplates
  obtain ⟨content, hnode, -, -, hkept⟩ := hall _ List.mem_cons_self
  have hpage : t.nodeAt? (t.locate "page.html".toList) = some (.file page) := by decide +kernel
  rw [hpage, Option.some.injEq, Node.file.injEq] at hnode
  rcases hkept with hkept | ⟨htarget, -⟩
  · rw [hrun, hnode]
    exact hkept
  · have hne : target .stub none t "page.html".toList ≠ t.locate "page.html".toList := by
      decide +kernel
    exact absurd htarget hne

/-- A stub with a types block of its own is replaced by its rendering. -/
theorem run_replaces_template :
    let args := ["page.pyi".toList]
    let place := ["work".toList, "page.pyi".toList]
    let page := Text.Utf8.encode "\x7b# @types\nx: int\n#\x7d".toList
    let stub := Text.Utf8.encode "x: int\n".toList
    let t := (FileTree.emptyAt ["work".toList]).putAt place (.file page)
    t.IsSound ∧ templates t args = .ok args ∧ t.read "page.pyi".toList = .ok page ∧
      run args [] t = (⟨0, [], []⟩, t.putAt place (.file stub)) ∧
      (t.putAt place (.file stub)).read "page.pyi".toList = .ok stub ∧ stub ≠ page := by
  intro args place page stub t
  have hargs : Arguments.ofTexts? args = some ⟨args, none, "pyi".toList⟩ := by decide +kernel
  have hformat : Format.named "pyi".toList = .ok .stub := by decide +kernel
  have hexpand : (expandAll t args).2 = .ok args := by decide +kernel
  have htemplates : templates t args = .ok args := by
    rw [templates, hexpand]
    exact congrArg Except.ok (Path.sorted_singleton _)
  have hall : renderAll .stub none t [] args =
      (t.putAt place (.file stub), [("page.pyi".toList, .written "page.pyi".toList)]) := by
    decide +kernel
  refine ⟨by decide +kernel, htemplates, by decide +kernel, ?_, by decide +kernel,
    by decide +kernel⟩
  rw [run_of_templates [] hargs (List.cons_ne_nil _ _) hformat rfl htemplates, hall]
  decide +kernel

end TemplateTypes.StubCommand
