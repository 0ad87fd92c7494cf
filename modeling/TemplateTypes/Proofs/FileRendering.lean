import TemplateTypes.Proofs.Walking
import TemplateTypes.Rendering

/-!
# Rendering one file — what is written, and why nothing is

Rendering a file either reads it, renders it and writes the result, or fails in one of these three
ways.  Two trees in which the template reads the same and the output can be written in one exactly
if it can in the other give the same rendering or the same failure.
-/

namespace TemplateTypes.Format

variable {f : Format} {t t' : FileTree} {p out : Path} {content content' : Bytes}

/-! ## 1. Success and failure -/

/-- A template can be read, rendered and written to `out`, and this is what is written. -/
inductive Renders (f : Format) (t : FileTree) (p out : Path) : Bytes → Prop
  | intro {document rendering : Text} {t' : FileTree} (hread : t.readText p = .ok document)
      (hrender : f.render document = .ok rendering)
      (hwrite : t.write out (Text.Utf8.encode rendering) = .ok t') :
      Renders f t p out (Text.Utf8.encode rendering)

/-- Reading a template, rendering it or writing the result goes wrong, and so it is reported. -/
inductive Fails (f : Format) (t : FileTree) (p out : Path) : RenderError → Prop
  | unreadable {cause : Cause} (hread : t.readText p = .error cause) :
      Fails f t p out (.unreadable p cause)
  | malformed {document : Text} {lines : List Text} (hread : t.readText p = .ok document)
      (hrender : f.render document = .error (.malformed lines)) :
      Fails f t p out (.malformed lines)
  | unwritable {document rendering : Text} {cause : Cause} (hread : t.readText p = .ok document)
      (hrender : f.render document = .ok rendering)
      (hwrite : t.write out (Text.Utf8.encode rendering) = .error cause) :
      Fails f t p out (.unwritable out cause)

theorem Renders.unique (h : Renders f t p out content) (h' : Renders f t p out content') :
    content = content' := by
  obtain ⟨hread, hrender, -⟩ := h
  obtain ⟨hread', hrender', -⟩ := h'
  rw [hread, Except.ok.injEq] at hread'
  subst hread'
  rw [hrender, Except.ok.injEq] at hrender'
  rw [hrender']

theorem Renders.not_fails {e : RenderError} (h : Renders f t p out content) :
    ¬ Fails f t p out e := by
  obtain ⟨hread, hrender, hwrite⟩ := h
  intro h
  cases h with
  | unreadable hread' => simp [hread] at hread'
  | malformed hread' hrender' =>
    rw [hread, Except.ok.injEq] at hread'
    subst hread'
    simp [hrender] at hrender'
  | unwritable hread' hrender' hwrite' =>
    rw [hread, Except.ok.injEq] at hread'
    subst hread'
    rw [hrender, Except.ok.injEq] at hrender'
    subst hrender'
    simp [hwrite] at hwrite'

/-- Only malformed lines stand in the way of a rendering. -/
theorem exists_malformed_of_render_eq_error {document : Text} {e : RenderError}
    (h : f.render document = .error e) : ∃ lines, e = .malformed lines := by
  cases f with
  | stub =>
    simp only [render] at h
    split at h
    · cases h
    · exact ⟨_, (Except.error.inj h).symm⟩
  | json => cases h

/-- Stubs are written in a way of their own, which comes to the same. -/
theorem writeFile_eq_renderFile (f : Format) (t : FileTree) (p out : Path) :
    f.writeFile t p out = f.renderFile t p out := by
  cases f with
  | json => rfl
  | stub =>
    unfold writeFile Stub.writeFile renderFile render
    cases t.readText p with
    | error cause => rfl
    | ok document =>
      cases hstub : Stub.ofDocument document with
      | error lines =>
        simp only [hstub]
        rfl
      | ok stub =>
        simp only [hstub]
        cases t.write out (Text.Utf8.encode stub) <;> rfl

theorem writeFile_of_renders (hc : Renders f t p out content)
    (hwrite : t.write out content = .ok t') : f.writeFile t p out = .ok t' := by
  obtain ⟨hread, hrender, -⟩ := hc
  simp only [writeFile_eq_renderFile, renderFile, hread, hrender, hwrite]

theorem writeFile_of_fails {e : RenderError} (he : Fails f t p out e) :
    f.writeFile t p out = .error e := by
  rw [writeFile_eq_renderFile]
  cases he with
  | unreadable hread => simp only [renderFile, hread]
  | malformed hread hrender => simp only [renderFile, hread, hrender]
  | unwritable hread hrender hwrite => simp only [renderFile, hread, hrender, hwrite]

theorem renders_or_fails (f : Format) (t : FileTree) (p out : Path) :
    (∃ content t', Renders f t p out content ∧ t.write out content = .ok t') ∨
      ∃ e, Fails f t p out e := by
  cases hread : t.readText p with
  | error cause => exact .inr ⟨_, .unreadable hread⟩
  | ok document =>
    cases hrender : f.render document with
    | error e =>
      obtain ⟨lines, rfl⟩ := exists_malformed_of_render_eq_error hrender
      exact .inr ⟨_, .malformed hread hrender⟩
    | ok rendering =>
      cases hwrite : t.write out (Text.Utf8.encode rendering) with
      | error cause => exact .inr ⟨_, .unwritable hread hrender hwrite⟩
      | ok t' => exact .inl ⟨_, t', .intro hread hrender hwrite, hwrite⟩

theorem writeFile_eq_ok_iff : f.writeFile t p out = .ok t' ↔
    ∃ content, Renders f t p out content ∧ t.write out content = .ok t' := by
  constructor
  · intro h
    rcases renders_or_fails f t p out with ⟨content, u, hc, hwrite⟩ | ⟨e, he⟩
    · rw [writeFile_of_renders hc hwrite, Except.ok.injEq] at h
      exact ⟨content, hc, h ▸ hwrite⟩
    · rw [writeFile_of_fails he] at h
      cases h
  · rintro ⟨content, hc, hwrite⟩
    exact writeFile_of_renders hc hwrite

theorem writeFile_eq_error_iff {e : RenderError} :
    f.writeFile t p out = .error e ↔ Fails f t p out e := by
  refine ⟨fun h => ?_, writeFile_of_fails⟩
  rcases renders_or_fails f t p out with ⟨content, u, hc, hwrite⟩ | ⟨e', he⟩
  · rw [writeFile_of_renders hc hwrite] at h
    cases h
  · rw [writeFile_of_fails he, Except.error.injEq] at h
    exact h ▸ he

/-- Templates that read the same, with outputs that are written the same, are rendered to the same
tree or both fail. -/
theorem toOption_renderFile_congr {q out' : Path} (hread : t.readText q = t.readText p)
    (hwrite : ∀ content, t.write out' content = t.write out content) :
    (f.renderFile t q out').toOption = (f.renderFile t p out).toOption := by
  unfold renderFile
  rw [hread]
  cases t.readText p with
  | error cause => rfl
  | ok document =>
    cases hrender : f.render document with
    | error e => simp only [hrender, Except.toOption]
    | ok rendering =>
      simp only [hrender, hwrite]
      cases t.write out (Text.Utf8.encode rendering) <;> rfl

/-! ## 2. Trees that are alike for a template -/

/-- What a template holds, and whether its output can be written, are the same in both trees. -/
structure Alike (t t' : FileTree) (p out : Path) : Prop where
  read : t'.readText p = t.readText p
  write : ∀ content,
    (t'.write out content).map (fun _ => ()) = (t.write out content).map fun _ => ()

theorem Alike.write_eq_ok (h : Alike t t' p out) {u : FileTree}
    (hw : t'.write out content = .ok u) : ∃ v, t.write out content = .ok v := by
  have hc := h.write content
  rw [hw] at hc
  cases ht : t.write out content with
  | error e => simp [ht, Except.map] at hc
  | ok v => exact ⟨v, rfl⟩

theorem Alike.write_eq_error (h : Alike t t' p out) {cause : Cause}
    (hw : t'.write out content = .error cause) : t.write out content = .error cause := by
  have hc := h.write content
  rw [hw] at hc
  cases ht : t.write out content with
  | error e =>
    rw [ht] at hc
    simp only [Except.map, Except.error.injEq] at hc
    rw [hc]
  | ok v => simp [ht, Except.map] at hc

theorem Alike.renders (h : Alike t t' p out) (hr : Renders f t' p out content) :
    Renders f t p out content := by
  obtain ⟨hread, hrender, hwrite⟩ := hr
  obtain ⟨v, hv⟩ := h.write_eq_ok hwrite
  exact .intro (h.read ▸ hread) hrender hv

theorem Alike.fails (h : Alike t t' p out) {e : RenderError} (hf : Fails f t' p out e) :
    Fails f t p out e := by
  cases hf with
  | unreadable hread => exact .unreadable (h.read ▸ hread)
  | malformed hread hrender => exact .malformed (h.read ▸ hread) hrender
  | unwritable hread hrender hwrite =>
    exact .unwritable (h.read ▸ hread) hrender (h.write_eq_error hwrite)

end TemplateTypes.Format

namespace TemplateTypes.FileTree

variable {t t' : FileTree} {p q d : Path} {l : Location} {name : Text}

/-- A file reads the same wherever a path leads to the same node. -/
theorem readText_congr (h : t.resolve p = .ok l) (h' : t'.resolve q = .ok l)
    (hn : t'.nodeAt? l = t.nodeAt? l) : t'.readText q = t.readText p := by
  unfold readText read find
  rw [h, h']
  simp only [hn]

/-- Whether a name can be written in a directory depends on what has that name. -/
theorem write_join_congr (h : t.Reaches d l) (h' : t'.Reaches d l) (hn : IsPlain name)
    (hdir : t'.nodeAt? (l ++ [name]) = some .directory ↔
      t.nodeAt? (l ++ [name]) = some .directory) (content : Bytes) :
    (t'.write (Path.join d name) content).map (fun _ => ()) =
      (t.write (Path.join d name) content).map fun _ => () := by
  rw [write_join h hn, write_join h' hn]
  simp only [hdir]
  split <;> rfl

end TemplateTypes.FileTree
