import TemplateTypes.Proofs.RenderingRuns
import TemplateTypes.Proofs.TemplateExpansion

/-!
# Stub runs — from the arguments to the outcome

A run over templates ends with one line for each template that fails and a last line that counts
them, and its exit code says whether there are any.  It starts in a tree where the output directory
has been made, which is sound if the tree before it is.
-/

namespace TemplateTypes.StubCommand

open CommandLine

variable {t t₀ : FileTree} {a : Arguments} {args : List Text} {f : Format} {p : Path}

/-! ## 1. Reports -/

theorem errorLine_eq_nil_iff (x : Path × Result) : errorLine x = [] ↔ x.2.isFailure = false := by
  obtain ⟨p, r⟩ := x
  have hline : ∀ line : Text, line ++ ['\n'] = [] ↔ true = false := by simp
  cases r with
  | written out => exact ⟨fun _ => rfl, fun _ => rfl⟩
  | taken out other => exact hline _
  | failed e => exact hline _

/-- The failures are the templates with an error line. -/
theorem failures_eq (results : List (Path × Result)) :
    failures results = (results.filter fun x => errorLine x ≠ []).length := by
  rw [failures, List.countP_eq_length_filter]
  congr 1
  apply List.filter_congr
  intro x _
  rw [Bool.eq_iff_iff, decide_eq_true_eq, ne_eq, errorLine_eq_nil_iff]
  simp

/-- The last line of a run, if templates failed. -/
def failureLine (failed total : ℕ) : Text :=
  if failed = 0 then []
  else "Error: ".toList ++ natText failed ++ " of ".toList ++ natText total ++
    " templates failed\n".toList

/-- How a run over templates ends: its exit code, nothing on its output, and its messages. -/
def outcomeFor (warnings : Text) (results : List (Path × Result)) : Outcome where
  code := if failures results = 0 then 0 else 1
  stdout := []
  stderr := warnings ++ results.flatMap errorLine ++
    failureLine (failures results) results.length

theorem outcomeOf_conclude (warnings : Text) (results : List (Path × Result)) :
    outcomeOf [] (warnings ++ results.flatMap errorLine) (conclude results) =
      outcomeFor warnings results := by
  by_cases h : failures results = 0
  · simp [outcomeOf, conclude, outcomeFor, failureLine, h]
  · simp [outcomeOf, conclude, outcomeFor, failureLine, h, Failure.report, Failure.chain]

/-! ## 2. Runs -/

theorem run_of_templates {paths : List Path} (input : Bytes)
    (hargs : Arguments.ofTexts? args = some a) (hfiles : a.files ≠ [])
    (hformat : Format.named a.format = .ok f) (hprepare : prepare t a.output = (t₀, none))
    (htemplates : templates t₀ a.files = .ok paths) :
    run args input t =
      (outcomeFor ((expandAll t₀ a.files).1.flatMap warning)
          (renderAll f a.output t₀ [] paths).2,
        (renderAll f a.output t₀ [] paths).1) := by
  rw [← outcomeOf_conclude]
  simp only [run, hargs, if_neg hfiles, runOnFiles, hformat, hprepare, renderFiles, htemplates]

/-- An output directory that is given has a name. -/
theorem ne_nil_of_output {dir : Path} (hargs : Arguments.ofTexts? args = some a)
    (houtput : a.output = some dir) : dir ≠ [] := by
  rw [Arguments.ofTexts?, Option.bind_eq_some_iff] at hargs
  obtain ⟨gs, -, hgs⟩ := hargs
  simp only [Option.ite_none_right_eq_some, Bool.and_eq_true, decide_eq_true_eq,
    Option.some.injEq] at hgs
  obtain ⟨⟨-, hne⟩, rfl⟩ := hgs
  rintro rfl
  exact hne houtput

theorem hasFile_of_mem_templates {files : List Text} {paths : List Path} (ht : t.IsSound)
    (h : templates t files = .ok paths) : ∀ p ∈ paths, ∃ d name, t.HasFile p d name :=
  fun _ hp => FileTree.exists_hasFile ht (isFile_of_mem_templates h hp)

/-- Making the output directory adds directories and changes nothing else. -/
theorem adds_of_prepare {output : Option Path} (h : prepare t output = (t₀, none)) :
    FileTree.Adds t t₀ fun l => ∃ directory ∈ output, l ∈ t.way directory := by
  cases output with
  | none =>
    rw [prepare, Prod.mk.injEq] at h
    rw [← h.1]
    exact FileTree.Adds.refl t _
  | some directory =>
    rw [prepare, Prod.mk.injEq] at h
    rw [← h.1]
    exact (FileTree.adds_makeDirectories t directory).mono fun l hl => ⟨directory, rfl, hl⟩

theorem reaches_of_prepare (hargs : Arguments.ofTexts? args = some a)
    (h : prepare t a.output = (t₀, none)) :
    ∀ directory ∈ a.output, t₀.Reaches directory (t₀.locate directory) := by
  intro directory houtput
  rw [Option.mem_def] at houtput
  rw [houtput, prepare, Prod.mk.injEq, Option.map_eq_none_iff] at h
  exact FileTree.reaches_of_makeDirectories (ne_nil_of_output hargs houtput)
    (Prod.ext h.1 h.2)

/-! ## 3. Sound trees -/

theorem isSound_renderAll {output : Option Path} {done : List (Path × Result)} (ht : t.IsSound)
    (paths : List Path) : (renderAll f output t done paths).1.IsSound := by
  induction paths generalizing t done with
  | nil => exact ht
  | cons p rest ih =>
    apply ih
    rcases renderOne_cases f output t done p with
      ⟨q, -, heq⟩ | ⟨-, ⟨content, t', -, hwrite, heq⟩ | ⟨e, -, heq⟩⟩
    · rwa [heq]
    · rw [heq]
      exact ht.write hwrite
    · rwa [heq]

theorem isSound_prepare (ht : t.IsSound) (output : Option Path) : (prepare t output).1.IsSound := by
  cases output with
  | none => exact ht
  | some directory => exact ht.makeDirectories directory

/-- The templates of a run are in their places in the tree with its output directory. -/
theorem placed_of_templates {files : List Text} {paths : List Path}
    (hargs : Arguments.ofTexts? args = some a) (ht : t.IsSound)
    (hprepare : prepare t a.output = (t₀, none)) (h : templates t₀ files = .ok paths) :
    Placed a.output t₀ paths := by
  have ht₀ : t₀.IsSound := by
    have hsound := isSound_prepare ht a.output
    rwa [hprepare] at hsound
  exact ⟨hasFile_of_mem_templates ht₀ h, reaches_of_prepare hargs hprepare⟩

/-- Whatever its arguments, a run leaves a sound tree sound. -/
theorem isSound_run (ht : t.IsSound) (args : List Text) (input : Bytes) :
    (run args input t).2.IsSound := by
  unfold run
  split
  · exact ht
  · rename_i a _
    split
    · exact ht
    · unfold runOnFiles
      split
      · exact ht
      · have hprepared := isSound_prepare ht a.output
        split
        · rename_i hp
          rwa [hp] at hprepared
        · rename_i hp
          rw [hp] at hprepared
          unfold renderFiles
          split
          · exact hprepared
          · exact isSound_renderAll hprepared _

end TemplateTypes.StubCommand
