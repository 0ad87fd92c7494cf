import TemplateTypes.Proofs.FileRendering
import TemplateTypes.StubCommand

/-!
# Rendering runs — templates one after the other in a changing tree

A run renders its templates in order while the outputs of the earlier ones change the tree.  Still
every result is the one that the tree at the start tells: a template is left out if an earlier one
with the same output could be rendered there, and is rendered or fails as it would there.  The
reason is that an output that lands on a template lands on one with that output, which is then left
out.  `Stands` is the invariant of the loop; `Stands.renderOne` keeps it in one step and
`stands_renderAll` carries it through a run.
-/

namespace TemplateTypes

/-! ## 1. The first of a list -/

/-- The first of a list that has a property. -/
def IsFirst {α : Type} (P : α → Prop) (xs : List α) (x : α) : Prop :=
  ∃ before after, xs = before ++ x :: after ∧ P x ∧ ∀ y ∈ before, ¬ P y

namespace IsFirst

variable {α : Type} {P Q : α → Prop} {xs : List α} {x y : α}

theorem mem (h : IsFirst P xs x) : x ∈ xs := by
  obtain ⟨before, after, rfl, -, -⟩ := h
  simp

theorem holds (h : IsFirst P xs x) : P x := by
  obtain ⟨before, after, -, hx, -⟩ := h
  exact hx

theorem congr (hPQ : ∀ y ∈ xs, P y ↔ Q y) (h : IsFirst P xs x) : IsFirst Q xs x := by
  obtain ⟨before, after, rfl, hx, hb⟩ := h
  refine ⟨before, after, rfl, (hPQ x (by simp)).1 hx, ?_⟩
  intro y hy hQ
  exact hb y hy ((hPQ y (List.mem_append_left _ hy)).2 hQ)

theorem of_append_singleton (h : IsFirst P (xs ++ [y]) x) :
    IsFirst P xs x ∨ (∀ z ∈ xs, ¬ P z) ∧ x = y := by
  obtain ⟨before, after, heq, hx, hb⟩ := h
  rcases List.eq_nil_or_concat' after with rfl | ⟨rest, z, rfl⟩
  · right
    obtain ⟨rfl, hy⟩ := List.append_inj' heq rfl
    exact ⟨hb, (List.cons.inj hy).1.symm⟩
  · left
    rw [← List.cons_append, ← List.append_assoc] at heq
    exact ⟨before, rest, (List.append_inj' heq rfl).1, hx, hb⟩

theorem unique (h : IsFirst P xs x) (h' : IsFirst P xs y) : x = y := by
  induction xs using List.reverseRecOn generalizing x y with
  | nil => exact absurd h.mem (List.not_mem_nil)
  | append_singleton xs z ih =>
    rcases h.of_append_singleton with h1 | ⟨hn, rfl⟩
    · rcases h'.of_append_singleton with h2 | ⟨hn, -⟩
      · exact ih h1 h2
      · exact absurd h1.holds (hn x h1.mem)
    · rcases h'.of_append_singleton with h2 | ⟨-, rfl⟩
      · exact absurd h2.holds (hn y h2.mem)
      · rfl

end IsFirst

theorem exists_isFirst {α : Type} {P : α → Prop} {xs : List α} {x : α} (hx : x ∈ xs) (hP : P x) :
    ∃ y, IsFirst P xs y := by
  induction xs with
  | nil => cases hx
  | cons z xs ih =>
    by_cases hz : P z
    · exact ⟨z, [], xs, rfl, hz, by simp⟩
    · rcases List.mem_cons.1 hx with rfl | hx
      · exact absurd hP hz
      · obtain ⟨y, before, after, rfl, hy, hb⟩ := ih hx
        refine ⟨y, z :: before, after, rfl, hy, ?_⟩
        intro w hw
        rcases List.mem_cons.1 hw with rfl | hw
        · exact hz
        · exact hb w hw

/-- Every member of a list stands in a relation to the list of those before it. -/
def EachBehind {α : Type} (R : List α → α → Prop) (xs : List α) : Prop :=
  ∀ before x after, xs = before ++ x :: after → R before x

namespace EachBehind

variable {α : Type} {R : List α → α → Prop} {xs ys : List α} {x : α}

theorem nil : EachBehind R [] := by
  intro before x after heq
  simp at heq

theorem append_singleton (h : EachBehind R xs) (hx : R xs x) : EachBehind R (xs ++ [x]) := by
  intro before y after heq
  rcases List.eq_nil_or_concat' after with rfl | ⟨rest, z, rfl⟩
  · obtain ⟨rfl, hy⟩ := List.append_inj' heq rfl
    cases hy
    exact hx
  · rw [← List.cons_append, ← List.append_assoc] at heq
    exact h before y rest (List.append_inj' heq rfl).1

theorem of_append (h : EachBehind R (xs ++ ys)) : EachBehind R xs := by
  intro before x after heq
  apply h before x (after ++ ys)
  rw [heq, List.append_assoc, List.cons_append]

end EachBehind

namespace StubCommand

open FileTree (HasFile Keeps)
open Format (Renders Fails Alike)

variable {f : Format} {output : Option Path} {t₀ t t' : FileTree} {templates before : List Path}
variable {done : List (Path × Result)} {p q : Path}

/-! ## 2. Templates and their outputs -/

/-- The directory that the rendering of a template goes to. -/
def outputDirectory (output : Option Path) (p : Path) : Path :=
  output.getD ((Path.parent? p).getD ['.'])

/-- The name of the rendering of a template. -/
def outputName (f : Format) (p : Path) : Text :=
  Path.stem p ++ '.' :: f.extension

theorem outputPath_eq (f : Format) (output : Option Path) (p : Path) :
    outputPath f output p = Path.join (outputDirectory output p) (outputName f p) := rfl

/-- The place of the rendering of a template in a tree. -/
def target (f : Format) (output : Option Path) (t : FileTree) (p : Path) : Location :=
  t.locate (outputPath f output p)

/-- A template can be read, rendered and written in a tree. -/
def Succeeds (f : Format) (output : Option Path) (t : FileTree) (p : Path) : Prop :=
  ∃ content, Renders f t p (outputPath f output p) content

theorem extension_fits (f : Format) :
    f.extension ≠ [] ∧ '/' ∉ f.extension ∧ '.' ∉ f.extension := by
  cases f <;> decide

theorem outputName_of_hasFile {d : Path} {name : Text} (h : t.HasFile p d name) :
    outputName f p = (Path.splitName name).1 ++ '.' :: f.extension := by
  rw [outputName, Path.stem_of_isInside h.isInside]

theorem isPlain_outputName {d : Path} {name : Text} (h : t.HasFile p d name) :
    IsPlain (outputName f p) := by
  obtain ⟨hne, hslash, -⟩ := extension_fits f
  rw [outputName_of_hasFile h]
  exact Path.isPlain_splitName_append h.isPlain hne hslash

/-- The templates of a run in the tree where it starts: they are files, and a chosen output
directory can be reached. -/
structure Placed (output : Option Path) (t₀ : FileTree) (templates : List Path) : Prop where
  hasFile : ∀ p ∈ templates, ∃ d name, t₀.HasFile p d name
  reaches : ∀ directory ∈ output, t₀.Reaches directory (t₀.locate directory)

/-- Templates in their places whose outputs are spelled alike where they are one file. -/
structure Setting (f : Format) (output : Option Path) (t₀ : FileTree) (templates : List Path) :
    Prop extends Placed output t₀ templates where
  same : ∀ p ∈ templates, ∀ q ∈ templates, target f output t₀ p = target f output t₀ q →
    Path.same (outputPath f output p) (outputPath f output q) = true

namespace Placed

theorem isPlain (h : Placed output t₀ templates) (hp : p ∈ templates) :
    IsPlain (outputName f p) := by
  obtain ⟨d, name, hfile⟩ := h.hasFile p hp
  exact isPlain_outputName hfile

theorem reaches_outputDirectory (h : Placed output t₀ templates) (hp : p ∈ templates) :
    t₀.Reaches (outputDirectory output p) (t₀.locate (outputDirectory output p)) := by
  cases houtput : output with
  | some directory => exact h.reaches directory (by simp [houtput])
  | none =>
    obtain ⟨d, name, hfile⟩ := h.hasFile p hp
    rw [outputDirectory, Option.getD_none, hfile.parent, Option.getD_some]
    exact hfile.reaches

theorem target_eq (h : Placed output t₀ templates) (hp : p ∈ templates) :
    target f output t₀ p = t₀.locate (outputDirectory output p) ++ [outputName f p] := by
  rw [target, outputPath_eq, FileTree.locate_join t₀ _ (h.isPlain hp)]

/-- The output of a template is the template itself exactly if its name has the extension of the
outputs and the output directory, where one is chosen, is the one it lies in. -/
theorem target_eq_locate_iff (h : Placed output t₀ templates) (hp : p ∈ templates) :
    target f output t₀ p = t₀.locate p ↔
      Path.extension? p = some f.extension ∧
        ∀ directory ∈ output, t₀.locate directory = (t₀.locate p).dropLast := by
  obtain ⟨d, name, hfile⟩ := h.hasFile p hp
  have hname : outputName f p = name ↔ Path.extension? p = some f.extension := by
    rw [outputName_of_hasFile hfile, Path.extension?_of_isInside hfile.isInside]
    exact Path.splitName_append_eq_iff hfile.isPlain.ne_nil (extension_fits f).2.2
  have hdirectory : t₀.locate (outputDirectory output p) = t₀.locate d ↔
      ∀ directory ∈ output, t₀.locate directory = t₀.locate d := by
    cases output with
    | none => simp [outputDirectory, hfile.parent]
    | some directory => simp [outputDirectory]
  rw [h.target_eq hp, hfile.locate_eq, List.dropLast_concat, ← hname, ← hdirectory, and_comm]
  constructor
  · intro heq
    obtain ⟨hd, hn⟩ := List.append_inj' heq rfl
    exact ⟨hd, List.singleton_inj.1 hn⟩
  · rintro ⟨hd, hn⟩
    rw [hd, hn]

/-- An output that lands on a template has the place of that template's own output. -/
theorem target_eq_of_target_eq_locate (h : Placed output t₀ templates) (hp : p ∈ templates)
    (hq : q ∈ templates) (hpq : target f output t₀ q = t₀.locate p) :
    target f output t₀ p = t₀.locate p := by
  obtain ⟨d, name, hfile⟩ := h.hasFile p hp
  obtain ⟨d', name', hfile'⟩ := h.hasFile q hq
  rw [h.target_eq hq, hfile.locate_eq] at hpq
  obtain ⟨hdirectory, hname⟩ := List.append_inj' hpq rfl
  rw [List.singleton_inj, outputName_of_hasFile hfile'] at hname
  rw [h.target_eq_locate_iff hp, hfile.locate_eq, List.dropLast_concat]
  constructor
  · rw [Path.extension?_of_isInside hfile.isInside, ← hname,
      Path.splitName_append (Path.splitName_ne_nil hfile'.isPlain.ne_nil) (extension_fits f).2.2]
  · intro directory houtput
    rw [← hdirectory, outputDirectory, Option.mem_def.1 houtput, Option.getD_some]

/-- In a tree that keeps the directories, writing an output puts a file at its place, unless a
directory is there. -/
theorem write_eq (h : Placed output t₀ templates) (hk : Keeps t₀ t) (hp : p ∈ templates)
    (content : Bytes) : t.write (outputPath f output p) content =
      if t.nodeAt? (target f output t₀ p) = some .directory then .error .isADirectory
      else .ok (t.putAt (target f output t₀ p) (.file content)) := by
  rw [outputPath_eq, FileTree.write_join (hk.reaches (h.reaches_outputDirectory hp))
    (h.isPlain hp), h.target_eq hp]

theorem write_eq_putAt (h : Placed output t₀ templates) (hk : Keeps t₀ t) (hp : p ∈ templates)
    {content : Bytes} (hw : t.write (outputPath f output p) content = .ok t') :
    t' = t.putAt (target f output t₀ p) (.file content) := by
  rw [h.write_eq hk hp] at hw
  split at hw
  · cases hw
  · exact (Except.ok.inj hw).symm

theorem nodeAt?_target_ne_directory (h : Placed output t₀ templates) (hp : p ∈ templates)
    (hs : Succeeds f output t₀ p) : t₀.nodeAt? (target f output t₀ p) ≠ some .directory := by
  obtain ⟨content, hread, hrender, hwrite⟩ := hs
  intro hdir
  rw [h.write_eq (Keeps.refl t₀) hp, if_pos hdir] at hwrite
  cases hwrite

end Placed

theorem Setting.target_eq_iff (h : Setting f output t₀ templates) (hp : p ∈ templates)
    (hq : q ∈ templates) : target f output t₀ p = target f output t₀ q ↔
      Path.same (outputPath f output p) (outputPath f output q) = true :=
  ⟨h.same p hp q hq, FileTree.locate_eq_of_same t₀⟩

/-! ## 3. The tree after some templates -/

/-- The tree after some templates: each place holds the first rendering that goes there, and
everything else is as it was at the start. -/
structure Leaves (f : Format) (output : Option Path) (t₀ : FileTree) (before : List Path)
    (t : FileTree) : Prop where
  workingDirectory : t.workingDirectory = t₀.workingDirectory
  written : ∀ l q content,
    IsFirst (fun q => target f output t₀ q = l ∧ Succeeds f output t₀ q) before q →
    Renders f t₀ q (outputPath f output q) content → t.nodeAt? l = some (.file content)
  kept : ∀ l, (∀ q ∈ before, target f output t₀ q = l → ¬ Succeeds f output t₀ q) →
    t.nodeAt? l = t₀.nodeAt? l

namespace Leaves

theorem nil (f : Format) (output : Option Path) (t₀ : FileTree) : Leaves f output t₀ [] t₀ where
  workingDirectory := rfl
  written := by
    intro l q content hq
    exact absurd hq.mem List.not_mem_nil
  kept := fun _ _ => rfl

theorem nodeAt?_eq_or (h : Leaves f output t₀ before t) (l : Location) :
    t.nodeAt? l = t₀.nodeAt? l ∨
      (∃ q ∈ before, target f output t₀ q = l ∧ Succeeds f output t₀ q) ∧
        ∃ content, t.nodeAt? l = some (.file content) := by
  by_cases hq : ∃ q ∈ before, target f output t₀ q = l ∧ Succeeds f output t₀ q
  · obtain ⟨q, hm, hs⟩ := hq
    obtain ⟨r, hr⟩ := exists_isFirst (P := fun q => target f output t₀ q = l ∧
      Succeeds f output t₀ q) hm hs
    obtain ⟨content, hc⟩ := hr.holds.2
    exact .inr ⟨⟨q, hm, hs⟩, content, h.written l r content hr hc⟩
  · left
    apply h.kept
    intro q hm ht hs
    exact hq ⟨q, hm, ht, hs⟩

/-- Renderings go to where no directory is, and are no directories. -/
theorem nodeAt?_eq_directory_iff (h : Leaves f output t₀ before t)
    (hset : Setting f output t₀ templates) (hb : ∀ q ∈ before, q ∈ templates) (l : Location) :
    t.nodeAt? l = some .directory ↔ t₀.nodeAt? l = some .directory := by
  rcases h.nodeAt?_eq_or l with hl | ⟨⟨q, hq, rfl, hs⟩, content, hc⟩
  · rw [hl]
  · rw [hc]
    constructor
    · intro hd
      cases hd
    · intro hd
      exact absurd hd (hset.nodeAt?_target_ne_directory (hb q hq) hs)

theorem keeps (h : Leaves f output t₀ before t) (hset : Setting f output t₀ templates)
    (hb : ∀ q ∈ before, q ∈ templates) : Keeps t₀ t :=
  ⟨h.workingDirectory, fun l hl => (h.nodeAt?_eq_directory_iff hset hb l).2 hl⟩

/-- A template that no earlier one stands in for is rendered as at the start. -/
theorem alike (h : Leaves f output t₀ before t) (hset : Setting f output t₀ templates)
    (hb : ∀ q ∈ before, q ∈ templates) (hp : p ∈ templates)
    (hfree : ∀ q ∈ before, target f output t₀ q = target f output t₀ p →
      ¬ Succeeds f output t₀ q) : Alike t₀ t p (outputPath f output p) := by
  have hk := h.keeps hset hb
  obtain ⟨d, name, hfile⟩ := hset.hasFile p hp
  constructor
  · refine FileTree.readText_congr hfile.resolve (hk.resolve_eq_ok hfile.resolve) ?_
    apply h.kept
    intro q hq hqp
    apply hfree q hq
    rw [hqp, hset.target_eq_of_target_eq_locate hp (hb q hq) hqp]
  · have hr := hset.reaches_outputDirectory hp
    exact FileTree.write_join_congr hr (hk.reaches hr) (hset.isPlain hp)
      (h.nodeAt?_eq_directory_iff hset hb _)

/-- A template that is not rendered leaves the tree to those before it. -/
theorem skip (h : Leaves f output t₀ before t)
    (hp : Succeeds f output t₀ p → ∃ q ∈ before, target f output t₀ q = target f output t₀ p ∧
      Succeeds f output t₀ q) : Leaves f output t₀ (before ++ [p]) t where
  workingDirectory := h.workingDirectory
  written := by
    intro l q content hq hc
    rcases hq.of_append_singleton with hfirst | ⟨hn, rfl⟩
    · exact h.written l q content hfirst hc
    · obtain ⟨ht, hs⟩ := hq.holds
      obtain ⟨r, hr, htr, hsr⟩ := hp hs
      exact absurd ⟨htr.trans ht, hsr⟩ (hn r hr)
  kept := by
    intro l hl
    exact h.kept l fun q hq => hl q (List.mem_append_left _ hq)

/-- A template that is rendered puts its rendering where no earlier one has gone. -/
theorem write (h : Leaves f output t₀ before t) {content : Bytes}
    (hc : Renders f t₀ p (outputPath f output p) content)
    (hne : target f output t₀ p ≠ [])
    (hfree : ∀ q ∈ before, target f output t₀ q = target f output t₀ p →
      ¬ Succeeds f output t₀ q) :
    Leaves f output t₀ (before ++ [p]) (t.putAt (target f output t₀ p) (.file content)) where
  workingDirectory := h.workingDirectory
  written := by
    intro l q content' hq hc'
    rcases hq.of_append_singleton with hfirst | ⟨-, rfl⟩
    · have hl : l ≠ target f output t₀ p := by
        rintro rfl
        exact hfree q hfirst.mem hfirst.holds.1 hfirst.holds.2
      rw [FileTree.nodeAt?_putAt_of_ne hl]
      exact h.written l q content' hfirst hc'
    · rw [← hq.holds.1, FileTree.nodeAt?_putAt_self hne, hc.unique hc']
  kept := by
    intro l hl
    have hpl : l ≠ target f output t₀ p := by
      rintro rfl
      exact hl p (by simp) rfl ⟨content, hc⟩
    rw [FileTree.nodeAt?_putAt_of_ne hpl]
    exact h.kept l fun q hq => hl q (List.mem_append_left _ hq)

end Leaves

/-! ## 4. The results of some templates -/

/-- What becomes of a template behind others, as the tree at the start tells; `rival` says which
templates have one output. -/
inductive IsResult (rival : Path → Path → Prop) (f : Format) (output : Option Path)
    (t₀ : FileTree) (before : List Path) (p : Path) : Result → Prop
  | taken {q : Path} (hq : IsFirst (fun q => rival q p ∧ Succeeds f output t₀ q) before q) :
      IsResult rival f output t₀ before p (.taken (outputPath f output p) q)
  | written (hfree : ∀ q ∈ before, rival q p → ¬ Succeeds f output t₀ q)
      (hp : Succeeds f output t₀ p) :
      IsResult rival f output t₀ before p (.written (outputPath f output p))
  | failed {e : RenderError} (hfree : ∀ q ∈ before, rival q p → ¬ Succeeds f output t₀ q)
      (hp : Fails f t₀ p (outputPath f output p) e) :
      IsResult rival f output t₀ before p (.failed e)

/-- The results of templates in order, each behind those before it. -/
structure Tells (rival : Path → Path → Prop) (f : Format) (output : Option Path)
    (t₀ : FileTree) (templates : List Path) (results : List (Path × Result)) : Prop where
  templates_eq : results.map Prod.fst = templates
  isResult : EachBehind
    (fun before x => IsResult rival f output t₀ (before.map Prod.fst) x.1 x.2) results

variable {rival rival' : Path → Path → Prop} {r : Result} {results : List (Path × Result)}

theorem IsResult.congr (h : IsResult rival f output t₀ before p r)
    (hr : ∀ q ∈ before, rival q p ↔ rival' q p) : IsResult rival' f output t₀ before p r := by
  have hfree : (∀ q ∈ before, rival q p → ¬ Succeeds f output t₀ q) →
      ∀ q ∈ before, rival' q p → ¬ Succeeds f output t₀ q := by
    intro hn q hq hrival
    exact hn q hq ((hr q hq).2 hrival)
  cases h with
  | taken hq => exact .taken (hq.congr fun q hm => and_congr_left' (hr q hm))
  | written hn hp => exact .written (hfree hn) hp
  | failed hn hp => exact .failed (hfree hn) hp

namespace Tells

theorem append (h : Tells rival f output t₀ before done)
    (hr : IsResult rival f output t₀ before p r) :
    Tells rival f output t₀ (before ++ [p]) (done ++ [(p, r)]) where
  templates_eq := by
    rw [List.map_append, h.templates_eq]
    rfl
  isResult := h.isResult.append_singleton (by rwa [h.templates_eq])

theorem congr (h : Tells rival f output t₀ templates results)
    (hr : ∀ p ∈ templates, ∀ q ∈ templates, rival q p ↔ rival' q p) :
    Tells rival' f output t₀ templates results where
  templates_eq := h.templates_eq
  isResult := by
    intro front x back heq
    have htemplates := h.templates_eq
    rw [heq, List.map_append, List.map_cons] at htemplates
    refine (h.isResult front x back heq).congr ?_
    intro q hq
    apply hr
    · simp [← htemplates]
    · rw [← htemplates]
      exact List.mem_append_left _ hq

end Tells

/-- Templates whose outputs have one place. -/
def SameTarget (f : Format) (output : Option Path) (t₀ : FileTree) (q p : Path) : Prop :=
  target f output t₀ q = target f output t₀ p

theorem writerOf?_eq_none_iff {o : Path} :
    writerOf? done o = none ↔ ¬ ∃ p o', (p, Result.written o') ∈ done ∧ Path.same o' o = true := by
  rw [writerOf?, List.findSome?_eq_none_iff]
  constructor
  · rintro h ⟨p, o', hm, hsame⟩
    have hnone := h _ hm
    simp [hsame] at hnone
  · rintro h ⟨p, r⟩ hm
    cases r with
    | written o' =>
      have hsame : Path.same o' o ≠ true := fun hsame => h ⟨p, o', hm, hsame⟩
      simp [hsame]
    | taken o' q => rfl
    | failed e => rfl

/-- Where no writer is found, no earlier template with that output could be rendered. -/
theorem not_succeeds_of_writerOf? (hset : Setting f output t₀ templates)
    (h : Tells (SameTarget f output t₀) f output t₀ before done)
    (hb : ∀ q ∈ before, q ∈ templates) (hp : p ∈ templates)
    (hw : writerOf? done (outputPath f output p) = none) :
    ∀ q ∈ before, SameTarget f output t₀ q p → ¬ Succeeds f output t₀ q := by
  intro q hq hqp hs
  obtain ⟨q, hfirst⟩ := exists_isFirst (P := fun q => SameTarget f output t₀ q p ∧
    Succeeds f output t₀ q) hq ⟨hqp, hs⟩
  obtain ⟨hqp, hs⟩ := hfirst.holds
  have hmem := hb q hfirst.mem
  obtain ⟨front, back, heq, -, hn⟩ := hfirst
  -- The first such template was not taken, and did not fail, so it is found.
  rw [← h.templates_eq, List.map_eq_append_iff] at heq
  obtain ⟨a, b, rfl, rfl, hb'⟩ := heq
  rw [List.map_eq_cons_iff] at hb'
  obtain ⟨⟨q', r⟩, c, rfl, rfl, rfl⟩ := hb'
  have hr : IsResult _ f output t₀ _ q' r := h.isResult a (q', r) c rfl
  cases hr with
  | taken hfirst =>
    obtain ⟨htarget, hsucceeds⟩ := hfirst.holds
    exact hn _ hfirst.mem ⟨htarget.trans hqp, hsucceeds⟩
  | written hfree hs' =>
    exact writerOf?_eq_none_iff.1 hw ⟨q', _, by simp, (hset.target_eq_iff hmem hp).1 hqp⟩
  | failed hfree hfails =>
    obtain ⟨content, hc⟩ := hs
    exact hc.not_fails hfails

/-- A writer that is found is the first earlier template with that output that could be
rendered. -/
theorem isFirst_of_writerOf? (hset : Setting f output t₀ templates)
    (h : Tells (SameTarget f output t₀) f output t₀ before done)
    (hb : ∀ q ∈ before, q ∈ templates) (hp : p ∈ templates)
    (hw : writerOf? done (outputPath f output p) = some q) :
    IsFirst (fun q => SameTarget f output t₀ q p ∧ Succeeds f output t₀ q) before q := by
  rw [writerOf?, List.findSome?_eq_some_iff] at hw
  obtain ⟨a, ⟨q', r⟩, c, rfl, hfound, hnone⟩ := hw
  have hbefore := h.templates_eq
  rw [List.map_append, List.map_cons] at hbefore
  subst hbefore
  cases r with
  | taken o q'' => cases hfound
  | failed e => cases hfound
  | written o =>
    simp only [Option.ite_none_right_eq_some, Option.some.injEq] at hfound
    obtain ⟨hsame, rfl⟩ := hfound
    have hr : IsResult _ f output t₀ _ q' (.written o) := h.isResult a (q', .written o) c rfl
    cases hr with
    | written hfree hs =>
      have hq' : q' ∈ templates := hb q' (by simp)
      refine ⟨a.map Prod.fst, c.map Prod.fst, rfl, ⟨?_, hs⟩, ?_⟩
      · exact (hset.target_eq_iff hq' hp).2 hsame
      · intro y hy ⟨hyp, hys⟩
        have hfront := not_succeeds_of_writerOf? hset ⟨rfl, h.isResult.of_append⟩
          (fun q hq => hb q (List.mem_append_left _ hq)) hp (List.findSome?_eq_none_iff.2 hnone)
        exact hfront y hy hyp hys

/-! ## 5. The loop -/

/-- The invariant of the loop: the tree and the results after some templates. -/
structure Stands (f : Format) (output : Option Path) (t₀ : FileTree) (before : List Path)
    (t : FileTree) (done : List (Path × Result)) : Prop where
  leaves : Leaves f output t₀ before t
  tells : Tells (SameTarget f output t₀) f output t₀ before done

theorem renderOne_of_renders {content : Bytes}
    (hfree : writerOf? done (outputPath f output p) = none)
    (hc : Renders f t p (outputPath f output p) content)
    (hwrite : t.write (outputPath f output p) content = .ok t') :
    renderOne f output t done p = (t', .written (outputPath f output p)) := by
  simp only [renderOne, hfree, Format.writeFile_of_renders hc hwrite]

theorem renderOne_of_fails {e : RenderError}
    (hfree : writerOf? done (outputPath f output p) = none)
    (he : Fails f t p (outputPath f output p) e) :
    renderOne f output t done p = (t, .failed e) := by
  simp only [renderOne, hfree, Format.writeFile_of_fails he]

theorem renderOne_cases (f : Format) (output : Option Path) (t : FileTree)
    (done : List (Path × Result)) (p : Path) :
    (∃ q, writerOf? done (outputPath f output p) = some q ∧
      renderOne f output t done p = (t, .taken (outputPath f output p) q)) ∨
    writerOf? done (outputPath f output p) = none ∧
      ((∃ content t', Renders f t p (outputPath f output p) content ∧
        t.write (outputPath f output p) content = .ok t' ∧
        renderOne f output t done p = (t', .written (outputPath f output p))) ∨
      ∃ e, Fails f t p (outputPath f output p) e ∧
        renderOne f output t done p = (t, .failed e)) := by
  cases hw : writerOf? done (outputPath f output p) with
  | some q => exact .inl ⟨q, rfl, by simp only [renderOne, hw]⟩
  | none =>
    right
    refine ⟨rfl, ?_⟩
    rcases Format.renders_or_fails f t p (outputPath f output p) with
      ⟨content, t', hc, hwrite⟩ | ⟨e, he⟩
    · exact .inl ⟨content, t', hc, hwrite, renderOne_of_renders hw hc hwrite⟩
    · exact .inr ⟨e, he, renderOne_of_fails hw he⟩

/-- Rendering a template leaves the directories where they are. -/
theorem keeps_renderOne (f : Format) (output : Option Path) (t : FileTree)
    (done : List (Path × Result)) (p : Path) : Keeps t (renderOne f output t done p).1 := by
  rcases renderOne_cases f output t done p with
    ⟨q, -, heq⟩ | ⟨-, ⟨content, t', -, hwrite, heq⟩ | ⟨e, -, heq⟩⟩
  · rw [heq]
    exact Keeps.refl t
  · rw [heq]
    exact Keeps.of_write hwrite
  · rw [heq]
    exact Keeps.refl t

/-- Every template has a result, in order. -/
theorem map_fst_renderAll (f : Format) (output : Option Path) (u : FileTree)
    (done : List (Path × Result)) (paths : List Path) :
    (renderAll f output u done paths).2.map Prod.fst = done.map Prod.fst ++ paths := by
  induction paths generalizing u done with
  | nil => rw [renderAll, List.append_nil]
  | cons p rest ih =>
    rw [renderAll, ih]
    simp

theorem Stands.renderOne (h : Stands f output t₀ before t done)
    (hset : Setting f output t₀ templates) (hb : ∀ q ∈ before, q ∈ templates)
    (hp : p ∈ templates) :
    Stands f output t₀ (before ++ [p]) (renderOne f output t done p).1
      (done ++ [(p, (renderOne f output t done p).2)]) := by
  rcases renderOne_cases f output t done p with ⟨q, hw, heq⟩ | ⟨hw, hrest⟩
  · have hq := isFirst_of_writerOf? hset h.tells hb hp hw
    rw [heq]
    exact ⟨h.leaves.skip fun _ => ⟨q, hq.mem, hq.holds⟩, h.tells.append (.taken hq)⟩
  · have hfree := not_succeeds_of_writerOf? hset h.tells hb hp hw
    have halike := h.leaves.alike hset hb hp hfree
    rcases hrest with ⟨content, t', hc, hwrite, heq⟩ | ⟨e, he, heq⟩
    · have hc₀ := halike.renders hc
      have hne : target f output t₀ p ≠ [] := by simp [hset.target_eq hp]
      rw [heq, hset.write_eq_putAt (h.leaves.keeps hset hb) hp hwrite]
      exact ⟨h.leaves.write hc₀ hne hfree, h.tells.append (.written hfree ⟨content, hc₀⟩)⟩
    · have he₀ := halike.fails he
      have hskip : Succeeds f output t₀ p → ∃ q ∈ before,
          target f output t₀ q = target f output t₀ p ∧ Succeeds f output t₀ q := by
        rintro ⟨content, hc⟩
        exact absurd he₀ hc.not_fails
      rw [heq]
      exact ⟨h.leaves.skip hskip, h.tells.append (.failed hfree he₀)⟩

theorem Stands.renderAll (hset : Setting f output t₀ templates) {rest : List Path}
    (h : Stands f output t₀ before t done) (hb : ∀ q ∈ before ++ rest, q ∈ templates) :
    Stands f output t₀ (before ++ rest) (renderAll f output t done rest).1
      (renderAll f output t done rest).2 := by
  induction rest generalizing before t done with
  | nil =>
    rw [List.append_nil]
    exact h
  | cons p rest ih =>
    have hstep := h.renderOne hset (fun q hq => hb q (List.mem_append_left _ hq)) (hb p (by simp))
    rw [← List.singleton_append, ← List.append_assoc] at hb ⊢
    exact ih hstep hb

/-- A run renders its templates as the tree at its start tells. -/
theorem stands_renderAll (hset : Setting f output t₀ templates) :
    Stands f output t₀ templates (renderAll f output t₀ [] templates).1
      (renderAll f output t₀ [] templates).2 := by
  have h : Stands f output t₀ [] t₀ [] := ⟨.nil f output t₀, rfl, .nil⟩
  exact h.renderAll hset fun _ hq => hq

end StubCommand

end TemplateTypes
