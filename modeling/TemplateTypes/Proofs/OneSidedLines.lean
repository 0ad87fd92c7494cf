import TemplateTypes.Proofs.StubLines

/-!
# One-sided lines — declarations without a name or without a type

A line with a single colon is read as a declaration also where nothing stands on one side of it.
Such a line is not malformed, so it does not keep a template from having a stub, and the name it
declares goes into the stub with the empty side.  Only a later line for the same name takes it out
again.  Main statement: all names of a template are names with types exactly if none of the lines
that declare a name last is one-sided.
-/

namespace TemplateTypes

/-! ## 1. Lines with an empty side -/

namespace BlockLine

/-- The only colon of the line has nothing in front of it or nothing behind it. -/
def IsOneSided (raw : Text) : Prop :=
  ∃ a b, Text.trim raw = a ++ ':' :: b ∧ ':' ∉ a ∧ ':' ∉ b ∧ (Text.AllBlank a ∨ Text.AllBlank b)

variable {raw name type : Text}

theorem IsDeclaration.isOneSided_iff (h : IsDeclaration (Text.trim raw) name type) :
    IsOneSided raw ↔ name = [] ∨ type = [] := by
  obtain ⟨a, b, hline, ha, hb, rfl, rfl⟩ := h
  rw [Text.trim_eq_nil_iff, Text.trim_eq_nil_iff]
  constructor
  · rintro ⟨a', b', hline', ha', -, hempty⟩
    -- The first colon cuts a line in only one way.
    have hcut := Text.cut?_append ha b
    rw [← hline, hline', Text.cut?_append ha', Option.some.injEq, Prod.mk.injEq] at hcut
    rwa [hcut.1, hcut.2] at hempty
  · intro hempty
    exact ⟨a, b, hline, ha, hb, hempty⟩

theorem IsDeclaration.isTrimmed {line : Text} (h : IsDeclaration line name type) :
    Text.IsTrimmed type := by
  obtain ⟨a, b, -, -, -, -, rfl⟩ := h
  exact Text.isTrimmed_trim b

theorem not_isOneSided_of_ofRaw_eq_malformed {other : Text} (h : ofRaw other = .malformed raw) :
    ¬ IsOneSided raw := by
  rintro ⟨a, b, hline, ha, hb, -⟩
  cases ofRaw_eq_iff.1 h with
  | malformed _ _ _ _ hdecl => exact hdecl _ _ ⟨a, b, hline, ha, hb, rfl, rfl⟩

end BlockLine

/-! ## 2. The line that declares a name last -/

/-- The line gives `name` its type, and no line of the block behind it declares the name again. -/
def DeclaresLast (document raw name type : Text) : Prop :=
  ∃ before after, TypesBlock.blockLines document = before ++ raw :: after ∧
    BlockLine.Reads raw (.declaring name type) ∧
    ∀ other ∈ after, ∀ t, ¬ BlockLine.Reads other (.declaring name t)

theorem lastDeclares_map_ofRaw_iff {raws : List Text} {before : List BlockLine}
    {name type : Text} :
    LastDeclares (raws.map BlockLine.ofRaw) before name type ↔
      ∃ earlier raw after, raws = earlier ++ raw :: after ∧
        before = earlier.map BlockLine.ofRaw ∧ BlockLine.Reads raw (.declaring name type) ∧
        ∀ other ∈ after, ∀ t, ¬ BlockLine.Reads other (.declaring name t) := by
  constructor
  · rintro ⟨after, hls, hlast⟩
    obtain ⟨earlier, rest, rfl, rfl, hrest⟩ := List.map_eq_append_iff.1 hls
    obtain ⟨raw, later, rfl, hraw, rfl⟩ := List.map_eq_cons_iff.1 hrest
    refine ⟨earlier, raw, later, rfl, rfl, BlockLine.ofRaw_eq_iff.1 hraw, ?_⟩
    intro other ho t hreads
    exact hlast t (List.mem_map.2 ⟨other, ho, hreads.ofRaw_eq⟩)
  · rintro ⟨earlier, raw, after, rfl, rfl, hraw, hlast⟩
    refine ⟨after.map BlockLine.ofRaw, by simp [hraw.ofRaw_eq], ?_⟩
    intro t hm
    obtain ⟨other, ho, heq⟩ := List.mem_map.1 hm
    exact hlast other ho t (BlockLine.ofRaw_eq_iff.1 heq)

theorem exists_declaresLast {document : Text} {e : Text × Text}
    (h : e ∈ (TypesBlock.ofDocument document).annotations.entries) :
    ∃ raw type doc?, DeclaresLast document raw e.1 type ∧ e.2 = withDoc type doc? := by
  obtain ⟨name, value⟩ := e
  rw [TypesBlock.ofDocument_eq_ofLines, ← Dictionary.get?_eq_some_iff_mem] at h
  obtain ⟨_, type, hlast, hvalue⟩ := get?_ofList_declarations_iff.1 h
  obtain ⟨before, raw, after, hlines, rfl, hraw, hafter⟩ := lastDeclares_map_ofRaw_iff.1 hlast
  exact ⟨raw, type, _, ⟨before, after, hlines, hraw, hafter⟩, isStored_iff.1 hvalue⟩

theorem DeclaresLast.exists_mem_entries {document raw name type : Text}
    (h : DeclaresLast document raw name type) :
    ∃ doc?, (name, withDoc type doc?) ∈ (TypesBlock.ofDocument document).annotations.entries := by
  obtain ⟨before, after, hlines, hraw, hafter⟩ := h
  have hlast : LastDeclares ((TypesBlock.blockLines document).map BlockLine.ofRaw)
      (before.map BlockLine.ofRaw) name type :=
    lastDeclares_map_ofRaw_iff.2 ⟨before, raw, after, hlines, rfl, hraw, hafter⟩
  have hget := get?_ofList_declarations_iff.2 ⟨_, type, hlast, isStored_iff.2 rfl⟩
  rw [TypesBlock.ofDocument_eq_ofLines]
  exact ⟨_, Dictionary.get?_eq_some_iff_mem.1 hget⟩

theorem DeclaresLast.isDeclaration {document raw name type : Text}
    (h : DeclaresLast document raw name type) :
    BlockLine.IsDeclaration (Text.trim raw) name type := by
  obtain ⟨before, after, -, hraw, -⟩ := h
  cases hraw with
  | declaring _ _ _ hdecl => exact hdecl

/-! ## 3. Names with types -/

/-- There is a name, and the value has a type in front of any docstring. -/
def IsTwoSided (e : Text × Text) : Prop :=
  e.1 ≠ [] ∧ e.2 ≠ [] ∧ ¬ docSeparator <+: e.2

/-- A type begins with no blank, so it is told from the separator in front of a docstring. -/
theorem isTwoSided_withDoc_iff {name type : Text} (ht : Text.IsTrimmed type) (doc? : Option Text) :
    IsTwoSided (name, withDoc type doc?) ↔ name ≠ [] ∧ type ≠ [] := by
  rw [IsTwoSided, and_congr_right_iff]
  intro _
  cases type with
  | nil =>
    cases doc? with
    | none => simp [withDoc]
    | some doc => simp [withDoc]
  | cons c t =>
    -- The value begins with the first character of the type, which is not a blank.
    have hc : Text.isBlank c = false := ht.head c rfl
    obtain ⟨r, hvalue⟩ : ∃ r, withDoc (c :: t) doc? = c :: r := by
      cases doc? with
      | none => exact ⟨t, rfl⟩
      | some doc => exact ⟨t ++ (docSeparator ++ doc), by simp [withDoc]⟩
    rw [hvalue]
    refine iff_of_true ⟨List.cons_ne_nil c r, ?_⟩ (List.cons_ne_nil c t)
    rintro ⟨u, hu⟩
    obtain ⟨rfl, -⟩ := List.cons.inj hu
    exact absurd hc (by decide)

theorem forall_isTwoSided_iff (document : Text) :
    (∀ e ∈ (TypesBlock.ofDocument document).annotations.entries, IsTwoSided e) ↔
      ∀ raw name type, DeclaresLast document raw name type → ¬ BlockLine.IsOneSided raw := by
  constructor
  · intro hall raw name type hlast
    -- No later line takes the name back, so what this line says of it is what is kept.
    obtain ⟨doc?, hmem⟩ := hlast.exists_mem_entries
    have hdecl := hlast.isDeclaration
    rw [hdecl.isOneSided_iff, not_or]
    exact (isTwoSided_withDoc_iff hdecl.isTrimmed doc?).1 (hall _ hmem)
  · rintro hall ⟨name, value⟩ hmem
    obtain ⟨raw, type, doc?, hlast, hvalue⟩ := exists_declaresLast hmem
    have hdecl := hlast.isDeclaration
    have hsides := hall raw name type hlast
    rw [hdecl.isOneSided_iff, not_or] at hsides
    rw [show value = withDoc type doc? from hvalue]
    exact (isTwoSided_withDoc_iff hdecl.isTrimmed doc?).2 hsides

theorem not_isOneSided_of_mem_malformed {document raw : Text}
    (h : raw ∈ (TypesBlock.ofDocument document).malformed) : ¬ BlockLine.IsOneSided raw := by
  rw [TypesBlock.ofDocument_eq_ofLines] at h
  obtain ⟨l, hl, hmalformed⟩ := List.mem_filterMap.1 h
  obtain ⟨other, -, hother⟩ := List.mem_map.1 hl
  cases l with
  | malformed raw =>
    cases hmalformed
    exact BlockLine.not_isOneSided_of_ofRaw_eq_malformed hother
  | _ => cases hmalformed

/-! ## 4. The stub -/

namespace Stub

variable {document stub : Text}

theorem ofDocument_eq_ok (h : ofDocument document = .ok stub) :
    stub = ofBlock (TypesBlock.ofDocument document) := by
  simp only [ofDocument] at h
  split at h
  · exact (Except.ok.inj h).symm
  · cases h

theorem ofDocument_eq_error {lines : List Text} (h : ofDocument document = .error lines) :
    lines = (TypesBlock.ofDocument document).malformed := by
  simp only [ofDocument] at h
  split at h
  · cases h
  · exact (Except.error.inj h).symm

theorem declarationLine_mem_lines {e : Text × Text} (h : ofDocument document = .ok stub)
    (he : e ∈ (TypesBlock.ofDocument document).annotations.entries) :
    declarationLine e ∈ Text.lines stub := by
  rw [ofDocument_eq_ok h, lines_ofBlock, if_neg, bodyLines]
  · exact List.mem_append_right _ (List.mem_map_of_mem he)
  · rintro ⟨-, hnone⟩
    rw [hnone] at he
    cases he

theorem forall_isTwoSided_entries_iff (document : Text) :
    (∀ lines, ofDocument document = .error lines →
      ∀ raw ∈ lines, ¬ BlockLine.IsOneSided raw) ∧
    (∀ stub, ofDocument document = .ok stub →
      ∀ e ∈ (TypesBlock.ofDocument document).annotations.entries,
        declarationLine e ∈ Text.lines stub) ∧
    ((∀ e ∈ (TypesBlock.ofDocument document).annotations.entries, IsTwoSided e) ↔
      ∀ raw name type, DeclaresLast document raw name type → ¬ BlockLine.IsOneSided raw) := by
  refine ⟨?_, fun stub h e he => declarationLine_mem_lines h he, forall_isTwoSided_iff document⟩
  intro lines h raw hraw
  rw [ofDocument_eq_error h] at hraw
  exact not_isOneSided_of_mem_malformed hraw

/-- Neither line is malformed, and both are in the stub. -/
theorem ofDocument_of_oneSided_lines :
    let document := "\x7b# @types\nx:\n: int\n#\x7d".toList
    BlockLine.IsOneSided "x:".toList ∧ BlockLine.IsOneSided ": int".toList ∧
      ofDocument document = .ok "x: \n: int\n".toList ∧
      (TypesBlock.ofDocument document).annotations.entries =
        [("x".toList, []), ([], "int".toList)] ∧
      ¬ ∀ e ∈ (TypesBlock.ofDocument document).annotations.entries, e.1 ≠ [] ∧ e.2 ≠ [] := by
  intro document
  have hentries : (TypesBlock.ofDocument document).annotations.entries =
      [("x".toList, []), ([], "int".toList)] := by
    decide +kernel
  refine ⟨⟨"x".toList, [], by decide +kernel, by decide +kernel, by decide, .inr (by decide)⟩,
    ⟨[], " int".toList, by decide +kernel, by decide, by decide +kernel, .inl (by decide)⟩,
    by decide +kernel, hentries, ?_⟩
  intro hall
  rw [hentries] at hall
  exact (hall ("x".toList, []) List.mem_cons_self).2 rfl

end Stub

end TemplateTypes
