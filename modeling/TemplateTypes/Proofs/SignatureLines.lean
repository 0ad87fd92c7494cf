import TemplateTypes.MacroSignature
import TemplateTypes.Proofs.CommentBlocks
import TemplateTypes.Proofs.Cutting
import TemplateTypes.Proofs.Identifiers
import TemplateTypes.Proofs.TerminatedLines

/-!
# Signature lines — what is captured of the first line of a macro block

A signature line is an identifier, parameters in parentheses, and a tail that is dropped.  Reading
it takes the last closing parenthesis of the line for the end of the parameters, so a tail without
one is told from the parameters and a tail with one is not.  Main statement: a block gives the
parameters that its line was written with exactly where the tail has no parentheses of its own, and
otherwise they reach into the tail as far as its last closing parenthesis.
-/

namespace TemplateTypes.MacroSignature

/-! ## 1. The shape of a signature line -/

/-- An identifier, parameters in parentheses, and anything behind them. -/
def IsSignature (line name params tail : Text) : Prop :=
  Text.isIdentifier name = true ∧ line = name ++ '(' :: (params ++ ')' :: tail)

theorem signature?_eq_some_iff {line name params : Text} :
    signature? line = some (name, params) ↔
      ∃ tail, IsSignature line name params tail ∧ ')' ∉ tail := by
  constructor
  · intro h
    unfold signature? at h
    split at h
    · rename_i n t hcut
      obtain ⟨⟨p, tail⟩, hlast, heq⟩ := Option.map_eq_some_iff.1 h
      cases heq
      obtain ⟨hline, hn⟩ := Text.cutIdentifier?_eq_some hcut
      obtain ⟨rfl, htail⟩ := Text.cutLast?_eq_some_iff.1 hlast
      exact ⟨tail, ⟨hn, hline⟩, htail⟩
    · cases h
  · rintro ⟨tail, ⟨hn, rfl⟩, htail⟩
    have hparen : ∀ c ∈ ('(' :: (params ++ ')' :: tail)).head?, Text.isNameChar c = false := by
      intro c hc
      cases hc
      decide
    simp only [signature?, Text.cutIdentifier?_append hn hparen, Text.cutLast?_append htail,
      Option.map_some]

/-- Whatever the tail is, its last closing parenthesis makes a signature of the line. -/
theorem signature?_eq_none_iff {line : Text} :
    signature? line = none ↔ ¬ ∃ name params tail, IsSignature line name params tail := by
  rw [Option.eq_none_iff_forall_ne_some, ← not_exists, not_iff_not]
  constructor
  · rintro ⟨⟨name, params⟩, h⟩
    obtain ⟨tail, hline, -⟩ := signature?_eq_some_iff.1 h
    exact ⟨name, params, tail, hline⟩
  · rintro ⟨name, params, tail, hn, rfl⟩
    -- The tail may hold closing parentheses, and then the parameters only end at the last of them.
    have hmem : ')' ∈ params ++ ')' :: tail := by simp
    obtain ⟨a, b, hab, hb⟩ := Text.exists_last_of_mem hmem
    exact ⟨(name, a), signature?_eq_some_iff.2 ⟨b, ⟨hn, by rw [hab]⟩, hb⟩⟩

/-- Trimming a signature line does not reach beyond its tail. -/
theorem IsSignature.trim {line name params tail : Text} (h : IsSignature line name params tail) :
    IsSignature (Text.trim line) name params (Text.trimRight tail) := by
  obtain ⟨hn, rfl⟩ := h
  have hne : name ≠ [] := by
    rintro rfl
    cases hn
  -- The call begins with a letter and ends with its parenthesis, so no blank of it is lost.
  have hcall : Text.IsTrimmed (name ++ '(' :: params ++ [')']) := by
    apply (Text.isTrimmed_of_isIdentifier hn).append _ hne (by simp)
    intro c hc
    cases hc
    decide
  have hline : name ++ '(' :: (params ++ ')' :: tail) =
      (name ++ '(' :: params ++ [')']) ++ tail := by
    simp
  refine ⟨hn, ?_⟩
  rw [hline, hcall.trim_append (by simp)]
  simp

theorem IsSignature.signature?_trim {line name params tail : Text}
    (h : IsSignature line name params tail) (ht : ')' ∉ tail) :
    signature? (Text.trim line) = some (name, params) := by
  refine signature?_eq_some_iff.2 ⟨_, h.trim, ?_⟩
  intro hm
  obtain ⟨b, -, hb⟩ := Text.exists_trimRight_append_blanks tail
  rw [hb] at ht
  exact ht (List.mem_append_left b hm)

/-! ## 2. The first line of a block -/

/-- The first line of the block that is not blank is, without its margins, `line`. -/
def OpensWith (interior line : Text) : Prop :=
  ∃ blanks raw after, Text.lines interior = blanks ++ raw :: after ∧
    (∀ b ∈ blanks, Text.AllBlank b) ∧ ¬ Text.AllBlank raw ∧ line = Text.trim raw

theorem opensWith_iff {interior line : Text} :
    OpensWith interior line ↔ (contentLines interior).head? = some line := by
  have hkept : ∀ raw, decide (Text.trim raw ≠ []) = true ↔ ¬ Text.AllBlank raw := by
    intro raw
    rw [decide_eq_true_iff, ne_eq, Text.trim_eq_nil_iff]
  -- The first line that is kept is the first one found in the interior.
  rw [contentLines, List.head?_filter, List.find?_map, Option.map_eq_some_iff]
  constructor
  · rintro ⟨blanks, raw, after, hlines, hblanks, hraw, rfl⟩
    refine ⟨raw, ?_, rfl⟩
    rw [List.find?_eq_some_iff_append]
    refine ⟨(hkept raw).2 hraw, blanks, after, hlines, ?_⟩
    intro b hb
    simp [Text.trim_eq_nil_iff.2 (hblanks b hb)]
  · rintro ⟨raw, hfind, rfl⟩
    rw [List.find?_eq_some_iff_append] at hfind
    obtain ⟨hraw, blanks, after, hlines, hblanks⟩ := hfind
    refine ⟨blanks, raw, after, hlines, ?_, (hkept raw).1 hraw, rfl⟩
    intro b hb
    simpa [Text.trim_eq_nil_iff] using hblanks b hb

theorem OpensWith.exists_ofInterior?_eq {interior line : Text} (h : OpensWith interior line) :
    ∃ rest, ofInterior? interior =
      (signature? line).map fun s => ⟨s.1, s.2, describe rest⟩ := by
  obtain ⟨rest, hlines⟩ := List.head?_eq_some_iff.1 (opensWith_iff.1 h)
  exact ⟨rest, by rw [ofInterior?, hlines]⟩

/-- A block is passed over exactly if it does not open with a signature line. -/
theorem ofInterior?_eq_none_iff {interior : Text} :
    ofInterior? interior = none ↔
      ¬ ∃ line name params tail, OpensWith interior line ∧ IsSignature line name params tail := by
  cases hlines : contentLines interior with
  | nil =>
    have hnone : ∀ line, ¬ OpensWith interior line := by
      intro line h
      rw [opensWith_iff, hlines] at h
      cases h
    simp [ofInterior?, hlines, hnone]
  | cons first rest =>
    have hfirst : ∀ line, OpensWith interior line ↔ first = line := by
      intro line
      rw [opensWith_iff, hlines, List.head?_cons, Option.some.injEq]
    simp only [ofInterior?, hlines, Option.map_eq_none_iff, signature?_eq_none_iff, hfirst,
      exists_and_left, exists_eq_left']

/-! ## 3. Parentheses -/

/-- Every parenthesis is closed, and none is closed that was not opened. -/
inductive Balanced : Text → Prop
  | nil : Balanced []
  | plain {c : Char} {t : Text} (hc : c ≠ '(' ∧ c ≠ ')') (ht : Balanced t) : Balanced (c :: t)
  | nested {s t : Text} (hs : Balanced s) (ht : Balanced t) : Balanced ('(' :: (s ++ ')' :: t))

theorem Balanced.opening_mem_iff {t : Text} (h : Balanced t) : '(' ∈ t ↔ ')' ∈ t := by
  induction h with
  | nil => simp
  | plain hc _ ih => simp [hc.1.symm, hc.2.symm, ih]
  | nested _ _ _ _ => simp

variable {document interior name params tail : Text}

/-- The parameters of a block whose line goes on behind them. -/
theorem exists_macro_of_opensWith (hi : interior ∈ Comment.interiors label document)
    (hn : Text.isIdentifier name = true) (ht : Balanced tail)
    (ho : OpensWith interior (Text.trim (name ++ '(' :: (params ++ ')' :: tail)))) :
    ∃ m ∈ ofDocument document, ofInterior? interior = some m ∧ m.name = name ∧
      (m.params = params ↔ '(' ∉ tail) ∧
      ∀ inner rest, tail = inner ++ ')' :: rest → ')' ∉ rest →
        m.params = params ++ ')' :: inner := by
  obtain ⟨docLines, hblock⟩ := ho.exists_ofInterior?_eq
  by_cases hm : ')' ∈ tail
  · obtain ⟨inner, rest, rfl, hrest⟩ := Text.exists_last_of_mem hm
    have hsig : IsSignature (name ++ '(' :: (params ++ ')' :: (inner ++ ')' :: rest))) name
        (params ++ ')' :: inner) rest := ⟨hn, by simp⟩
    rw [hsig.signature?_trim hrest] at hblock
    refine ⟨_, List.mem_filterMap.2 ⟨interior, hi, hblock⟩, hblock, rfl, ?_, ?_⟩
    · -- The parameters are longer than they were written, and the tail has a pair of its own.
      rw [ht.opening_mem_iff]
      simp
    · intro inner' rest' heq hrest'
      have hcut := Text.cutLast?_append hrest inner
      rw [heq, Text.cutLast?_append hrest', Option.some.injEq, Prod.mk.injEq] at hcut
      rw [hcut.1]
  · have hsig : IsSignature (name ++ '(' :: (params ++ ')' :: tail)) name params tail := ⟨hn, rfl⟩
    rw [hsig.signature?_trim hm] at hblock
    refine ⟨_, List.mem_filterMap.2 ⟨interior, hi, hblock⟩, hblock, rfl, ?_, ?_⟩
    · rw [ht.opening_mem_iff]
      simp [hm]
    · rintro inner rest rfl -
      simp at hm

/-- Parentheses inside the parameters do not end them. -/
theorem exists_macro_of_opensWith_nested :
    let interior := "\n\n  f(x=(1, 2), y=g()) -> int \nAdds.\n".toList
    let document := "\x7b# @typedmacro".toList ++ interior ++ "#\x7d".toList
    let params := "x=(1, 2), y=g()".toList
    interior ∈ Comment.interiors label document ∧ Text.isIdentifier ['f'] = true ∧
      Balanced " -> int".toList ∧
      OpensWith interior (Text.trim ("f".toList ++ '(' :: (params ++ ')' :: " -> int".toList))) ∧
      ∃ m ∈ ofDocument document, m.name = "f".toList ∧ m.params = params := by
  intro interior document params
  have hi : interior ∈ Comment.interiors label document := by decide +kernel
  have ht : Balanced " -> int".toList :=
    .plain (by decide) (.plain (by decide) (.plain (by decide) (.plain (by decide)
      (.plain (by decide) (.plain (by decide) (.plain (by decide) .nil))))))
  have ho : OpensWith interior
      (Text.trim ("f".toList ++ '(' :: (params ++ ')' :: " -> int".toList))) :=
    ⟨[[], []], "  f(x=(1, 2), y=g()) -> int ".toList, ["Adds.".toList], by decide +kernel,
      by decide +kernel, by decide +kernel, by decide +kernel⟩
  obtain ⟨m, hm, -, hname, hparams, -⟩ := exists_macro_of_opensWith hi rfl ht ho
  exact ⟨hi, rfl, ht, ho, m, hm, hname, hparams.2 (by decide +kernel)⟩

/-- The parameters and the tail are both balanced, and what is captured is neither the one nor
balanced. -/
theorem params_ne_of_balanced_tail :
    Text.isIdentifier ['f'] = true ∧ Balanced ['x'] ∧ Balanced [' ', '(', 'y', ')'] ∧
      Text.OneLine ['f', '(', 'x', ')', ' ', '(', 'y', ')'] ∧
      Comment.Unclosed ['f', '(', 'x', ')', ' ', '(', 'y', ')'] ∧
      ofDocument "\x7b# @typedmacro\nf(x) (y)\n#\x7d".toList =
        [⟨['f'], ['x', ')', ' ', '(', 'y'], none⟩] ∧
      ['x', ')', ' ', '(', 'y'] ≠ ['x'] := by
  have hx : Balanced ['x'] := .plain (by decide) .nil
  have ht : Balanced [' ', '(', 'y', ')'] :=
    .plain (by decide) (.nested (.plain (by decide) .nil) .nil)
  exact ⟨rfl, hx, ht, by decide, by decide, by decide +kernel, by decide⟩

end TemplateTypes.MacroSignature
