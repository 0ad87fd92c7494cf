import TemplateTypes.Proofs.StubRuns

/-!
# Output collisions — templates beside each other with one output

Without an output directory every rendering goes beside its template.  A run looks for an earlier
rendering by the path of the output, component by component.  Where outputs that are one file are
spelled alike, the first rendering that is written stays and every later template with that output
is reported (`run_keeps_first_output`).  A dot at the front of one of the paths is enough to hide
the collision, and the later rendering replaces the earlier one (`run_replaces_output`).
-/

namespace TemplateTypes.StubCommand

open Format (Renders)

variable {f : Format} {output : Option Path} {t t' u : FileTree} {paths : List Path} {p q : Path}
variable {done results : List (Path × Result)}

/-! ## 1. What is reported -/

/-- A template is taken exactly behind one whose output was written to an equal path. -/
def IsTakenAfter (f : Format) (output : Option Path) (front : List (Path × Result))
    (x : Path × Result) : Prop :=
  (∃ p, x.2 = .taken (outputPath f output x.1) p) ↔
    ∃ p o, (p, Result.written o) ∈ front ∧ Path.same o (outputPath f output x.1) = true

theorem isTakenAfter_renderOne (f : Format) (output : Option Path) (u : FileTree)
    (done : List (Path × Result)) (p : Path) :
    IsTakenAfter f output done (p, (renderOne f output u done p).2) := by
  have hnone : writerOf? done (outputPath f output p) = none ↔ _ := writerOf?_eq_none_iff
  unfold IsTakenAfter
  rcases renderOne_cases f output u done p with ⟨q, hw, heq⟩ | ⟨hw, hrest⟩
  · rw [hw] at hnone
    rw [heq]
    exact ⟨fun _ => by_contra fun hno => Option.some_ne_none q (hnone.2 hno), fun _ => ⟨q, rfl⟩⟩
  · have hr : ∀ q, (renderOne f output u done p).2 ≠ .taken (outputPath f output p) q := by
      rcases hrest with ⟨content, t', -, -, heq⟩ | ⟨e, -, heq⟩
      · simp [heq]
      · simp [heq]
    exact iff_of_false (fun ⟨q, hq⟩ => hr q hq) (hnone.1 hw)

theorem eachBehind_isTakenAfter_renderAll (h : EachBehind (IsTakenAfter f output) done) :
    EachBehind (IsTakenAfter f output) (renderAll f output u done paths).2 := by
  induction paths generalizing u done with
  | nil => exact h
  | cons p rest ih => exact ih (h.append_singleton (isTakenAfter_renderOne f output u done p))

/-! ## 2. What is kept -/

theorem setting_beside (ht : ∀ p ∈ paths, ∃ d name, t.HasFile p d name)
    (hspelled : ∀ p ∈ paths, ∀ q ∈ paths, target f none t p = target f none t q →
      Path.same (outputPath f none p) (outputPath f none q) = true) :
    Setting f none t paths where
  hasFile := ht
  reaches := by simp
  same := hspelled

/-- Behind the first that is written, a template with that output is taken by it. -/
theorem Stands.eq_taken (h : Stands f output t paths t' results)
    {front middle back : List (Path × Result)} {o : Path} {r : Result}
    (heq : results = front ++ (p, .written o) :: (middle ++ (q, r) :: back))
    (hpq : target f output t p = target f output t q) :
    r = .taken (outputPath f output q) p ∧ ∃ content,
      Renders f t p (outputPath f output p) content ∧
        t'.nodeAt? (target f output t p) = some (.file content) := by
  have hp : IsResult _ f output t _ p (.written o) := h.tells.isResult front (p, .written o) _ heq
  have hpaths := h.tells.templates_eq
  rw [heq, List.map_append, List.map_cons, List.map_append, List.map_cons] at hpaths
  cases hp with
  | written hfree hs =>
    obtain ⟨content, hc⟩ := hs
    have hfirst : ∀ rest, IsFirst (fun q => SameTarget f output t q p ∧ Succeeds f output t q)
        (front.map Prod.fst ++ p :: rest) p := by
      intro rest
      refine ⟨_, rest, rfl, ⟨rfl, content, hc⟩, ?_⟩
      intro y hy ⟨hyp, hys⟩
      exact hfree y hy hyp hys
    constructor
    · have hq : IsResult _ f output t _ q r :=
        h.tells.isResult (front ++ (p, .written (outputPath f output p)) :: middle) (q, r) back
          (by rw [heq]; simp)
      rw [List.map_append, List.map_cons] at hq
      have hmem : p ∈ front.map Prod.fst ++ p :: middle.map Prod.fst := by simp
      cases hq with
      | taken hq' =>
        have hq'' := hq'.congr (Q := fun q => SameTarget f output t q p ∧ Succeeds f output t q)
          fun y _ => by rw [SameTarget, SameTarget, hpq]
        rw [(hfirst _).unique hq'']
      | written hfree' _ => exact absurd ⟨content, hc⟩ (hfree' p hmem hpq)
      | failed hfree' _ => exact absurd ⟨content, hc⟩ (hfree' p hmem hpq)
    · refine ⟨content, hc, h.leaves.written _ p content ?_ hc⟩
      rw [← hpaths]
      exact hfirst _

theorem failures_ne_zero {x : Path × Result} (hx : x ∈ results) (h : x.2.isFailure = true) :
    failures results ≠ 0 := by
  rw [failures, ne_eq, List.countP_eq_zero]
  intro hno
  exact hno x hx h

/-- A run beside its templates: whether a template is taken is told by the paths of the outputs
alone, and where these tell files apart the first rendering of a file stays. -/
theorem run_keeps_first_output {args : List Text} {a : Arguments} (input : Bytes)
    (hargs : Arguments.ofTexts? args = some a) (hfiles : a.files ≠ [])
    (hformat : Format.named a.format = .ok f) (houtput : a.output = none) (ht : t.IsSound)
    (htemplates : templates t a.files = .ok paths) :
    ∃ results t',
      run args input t =
        (⟨if failures results = 0 then 0 else 1, [],
          (expandAll t a.files).1.flatMap warning ++ results.flatMap errorLine ++
            failureLine (failures results) paths.length⟩, t') ∧
      results.map Prod.fst = paths ∧ EachBehind (IsTakenAfter f none) results ∧
      ((∀ p ∈ paths, ∀ q ∈ paths, target f none t p = target f none t q →
          Path.same (outputPath f none p) (outputPath f none q) = true) →
        Tells (SameTarget f none t) f none t paths results ∧
        ∀ front p o middle q r back,
          results = front ++ (p, .written o) :: (middle ++ (q, r) :: back) →
          target f none t p = target f none t q →
          r = .taken (outputPath f none q) p ∧ (run args input t).1.code = 1 ∧
            ∃ content, Renders f t p (outputPath f none p) content ∧
              t'.nodeAt? (target f none t p) = some (.file content)) := by
  have hprepare : prepare t a.output = (t, none) := by rw [houtput, prepare]
  have hrun := run_of_templates input hargs hfiles hformat hprepare htemplates
  rw [houtput] at hrun
  have hpaths := map_fst_renderAll f none t [] paths
  rw [List.map_nil, List.nil_append] at hpaths
  have hlength := congrArg List.length hpaths
  rw [List.length_map] at hlength
  refine ⟨(renderAll f none t [] paths).2, (renderAll f none t [] paths).1, ?_, hpaths,
    eachBehind_isTakenAfter_renderAll .nil, ?_⟩
  · rw [hrun, outcomeFor, hlength]
  · intro hspelled
    have hset := setting_beside (hasFile_of_mem_templates ht htemplates) hspelled
    have hstands := stands_renderAll hset
    refine ⟨hstands.tells, ?_⟩
    intro front p o middle q r back heq hpq
    obtain ⟨hr, hkept⟩ := hstands.eq_taken heq hpq
    refine ⟨hr, ?_, hkept⟩
    have hne : failures (renderAll f none t [] paths).2 ≠ 0 := by
      apply failures_ne_zero (x := (q, r))
      · rw [heq]
        simp
      · rw [hr]
        rfl
    rw [hrun]
    exact if_neg hne

/-- Of two templates with one stem in one directory the second is reported. -/
theorem run_keeps_first_output_page :
    let args := ["p.html".toList, "p.jinja".toList]
    let a : Arguments := ⟨args, none, "pyi".toList⟩
    let t := ((FileTree.emptyAt ["work".toList]).putAt ["work".toList, "p.html".toList]
      (.file (Text.Utf8.encode "\x7b# @types\ny: str\n#\x7d".toList))).putAt
      ["work".toList, "p.jinja".toList]
      (.file (Text.Utf8.encode "\x7b# @types\nx: int\n#\x7d".toList))
    (Arguments.ofTexts? args = some a ∧ a.files ≠ [] ∧ Format.named a.format = .ok .stub ∧
      t.IsSound ∧ templates t a.files = .ok args) ∧
      (run args [] t).1.code = 1 ∧
      (run args [] t).2.nodeAt? ["work".toList, "p.pyi".toList] =
        some (.file (Text.Utf8.encode "y: str\n".toList)) := by
  intro args a t
  have hargs : Arguments.ofTexts? args = some a := by decide +kernel
  have hfiles : a.files ≠ [] := by decide
  have hformat : Format.named a.format = .ok .stub := by decide +kernel
  have ht : t.IsSound := by decide +kernel
  have hexpand : (expandAll t a.files).2 = .ok args := by decide +kernel
  have htemplates : templates t a.files = .ok args := by
    rw [templates, hexpand]
    exact congrArg Except.ok (Path.sorted_pair (by decide +kernel) (by decide +kernel))
  have hspelled : ∀ p ∈ args, ∀ q ∈ args, target .stub none t p = target .stub none t q →
      Path.same (outputPath .stub none p) (outputPath .stub none q) = true := by decide +kernel
  have hread : t.readText "p.html".toList = .ok "\x7b# @types\ny: str\n#\x7d".toList := by
    decide +kernel
  have hrender : Format.stub.render "\x7b# @types\ny: str\n#\x7d".toList =
      .ok "y: str\n".toList := by decide +kernel
  have hwrite : t.write (outputPath .stub none "p.html".toList)
      (Text.Utf8.encode "y: str\n".toList) = .ok (t.putAt ["work".toList, "p.pyi".toList]
        (.file (Text.Utf8.encode "y: str\n".toList))) := by decide +kernel
  have hc := Renders.intro hread hrender hwrite
  obtain ⟨results, t', hrun, hpaths, -, hkept⟩ :=
    run_keeps_first_output [] hargs hfiles hformat rfl ht htemplates
  obtain ⟨htells, hkept⟩ := hkept hspelled
  obtain ⟨⟨p, r⟩, rest, rfl, rfl, hrest⟩ := List.map_eq_cons_iff.1 hpaths
  obtain ⟨⟨q, s⟩, rest, rfl, rfl, hnil⟩ := List.map_eq_cons_iff.1 hrest
  have hfirst : IsResult _ .stub none t [] "p.html".toList r := htells.isResult [] _ _ rfl
  have htarget : target .stub none t "p.html".toList = target .stub none t "p.jinja".toList := by
    decide +kernel
  refine ⟨⟨hargs, hfiles, hformat, ht, htemplates⟩, ?_⟩
  cases hfirst with
  | taken hq => exact absurd hq.mem List.not_mem_nil
  | failed _ hfails => exact absurd hfails hc.not_fails
  | written _ _ =>
    obtain ⟨-, hcode, content, hc', hnode⟩ := hkept [] _ _ [] _ s rest rfl htarget
    have hplace : target .stub none t "p.html".toList = ["work".toList, "p.pyi".toList] := by
      decide +kernel
    rw [hc'.unique hc, hplace] at hnode
    rw [hrun] at hcode ⊢
    exact ⟨hcode, hnode⟩

/-- A dot at the front hides that two outputs are one file: both are written. -/
theorem run_replaces_output :
    let args := ["./p.jinja".toList, "p.html".toList]
    let t := ((FileTree.emptyAt ["work".toList]).putAt ["work".toList, "p.html".toList]
      (.file (Text.Utf8.encode "\x7b# @types\ny: str\n#\x7d".toList))).putAt
      ["work".toList, "p.jinja".toList]
      (.file (Text.Utf8.encode "\x7b# @types\nx: int\n#\x7d".toList))
    let place := ["work".toList, "p.pyi".toList]
    t.IsSound ∧ templates t args = .ok args ∧
      t.locate "./p.jinja".toList ≠ t.locate "p.html".toList ∧
      target .stub none t "./p.jinja".toList = place ∧
      target .stub none t "p.html".toList = place ∧
      Renders .stub t "./p.jinja".toList (outputPath .stub none "./p.jinja".toList)
        (Text.Utf8.encode "x: int\n".toList) ∧
      run args [] t =
        (⟨0, [], []⟩, t.putAt place (.file (Text.Utf8.encode "y: str\n".toList))) := by
  intro args t place
  have hexpand : (expandAll t args).2 = .ok args := by decide +kernel
  have htemplates : templates t args = .ok args := by
    rw [templates, hexpand]
    exact congrArg Except.ok (Path.sorted_pair (by decide +kernel) (by decide +kernel))
  have hread : t.readText "./p.jinja".toList = .ok "\x7b# @types\nx: int\n#\x7d".toList := by
    decide +kernel
  have hrender : Format.stub.render "\x7b# @types\nx: int\n#\x7d".toList =
      .ok "x: int\n".toList := by decide +kernel
  have hwrite : t.write (outputPath .stub none "./p.jinja".toList)
      (Text.Utf8.encode "x: int\n".toList) =
        .ok (t.putAt place (.file (Text.Utf8.encode "x: int\n".toList))) := by decide +kernel
  have hargs : Arguments.ofTexts? args = some ⟨args, none, "pyi".toList⟩ := by decide +kernel
  have hall : renderAll .stub none t [] args =
      (t.putAt place (.file (Text.Utf8.encode "y: str\n".toList)),
        [("./p.jinja".toList, .written "./p.pyi".toList),
          ("p.html".toList, .written "p.pyi".toList)]) := by decide +kernel
  have hformat : Format.named "pyi".toList = .ok .stub := by decide +kernel
  refine ⟨by decide +kernel, htemplates, by decide +kernel, by decide +kernel, by decide +kernel,
    .intro hread hrender hwrite, ?_⟩
  rw [run_of_templates [] hargs (List.cons_ne_nil _ _) hformat rfl htemplates, hall]
  decide +kernel

end TemplateTypes.StubCommand
