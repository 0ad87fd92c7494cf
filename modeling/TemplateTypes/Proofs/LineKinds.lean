import TemplateTypes.TypesBlock
import TemplateTypes.Proofs.Cutting
import TemplateTypes.Proofs.Trimming

/-!
# Kinds of lines — what each line of a block looks like

The kinds are told apart by the trimmed line alone: how it begins, whether three quotes of one kind
enclose it, and whether it holds exactly one colon.  A kind is only looked for where no earlier
kind fits, so a line has exactly one kind, and reading it finds that kind.
-/

namespace TemplateTypes.BlockLine

/-! ## 1. Shapes of a trimmed line -/

def IsComment (line : Text) : Prop := ['#'] <+: line

def IsImport (line : Text) : Prop := "import ".toList <+: line ∨ "from ".toList <+: line

def IsQuote (q : Char) : Prop := q = '"' ∨ q = '\x27'

/-- Three quotes, the content with blanks around it, and the same three quotes again. -/
def IsDocstring (line content : Text) : Prop :=
  ∃ q body, IsQuote q ∧ line = [q, q, q] ++ body ++ [q, q, q] ∧ content = Text.trim body

/-- A name and a type on the two sides of the only colon. -/
def IsDeclaration (line name type : Text) : Prop :=
  ∃ a b, line = a ++ ':' :: b ∧ ':' ∉ a ∧ ':' ∉ b ∧ name = Text.trim a ∧ type = Text.trim b

/-- Three quotes in front of the first text and the same three at the end of the second. -/
def QuotesMeet (s t : Text) : Prop :=
  ∃ q, IsQuote q ∧ [q, q, q] <+: s ∧ [q, q, q] <:+ t

theorem not_isComment_nil : ¬ IsComment [] := by
  simp [IsComment]

theorem not_isImport_nil : ¬ IsImport [] := by
  simp [IsImport]

theorem isComment_iff {line : Text} : IsComment line ↔ line.head? = some '#' := by
  cases line <;> simp [IsComment, List.cons_prefix_cons, eq_comm]

theorem isImport_iff {line : Text} : isImport line = true ↔ IsImport line := by
  rw [isImport, Bool.or_eq_true, Text.beginsWith_iff, Text.beginsWith_iff, IsImport]

theorem betweenTriples?_eq_some_iff {q : Char} {line body : Text} :
    betweenTriples? q line = some body ↔ line = [q, q, q] ++ body ++ [q, q, q] := by
  rw [betweenTriples?, Option.bind_eq_some_iff]
  constructor
  · rintro ⟨t, ht, hb⟩
    obtain ⟨u, hu, rfl⟩ := Option.map_eq_some_iff.1 hb
    rw [Text.after?_eq_some_iff] at ht hu
    have hr : t = u.reverse ++ [q, q, q] := by
      rw [← List.reverse_reverse t, hu]
      simp
    rw [ht, hr, List.append_assoc]
  · intro h
    refine ⟨body ++ [q, q, q], Text.after?_eq_some_iff.2 (by rw [h, List.append_assoc]), ?_⟩
    rw [Option.map_eq_some_iff]
    exact ⟨body.reverse, Text.after?_eq_some_iff.2 (by simp), List.reverse_reverse body⟩

theorem docstring?_eq_some_iff {line content : Text} :
    docstring? line = some content ↔ IsDocstring line content := by
  rw [docstring?, Option.map_eq_some_iff]
  constructor
  · rintro ⟨body, hb, rfl⟩
    rcases Option.or_eq_some_iff.1 hb with h | ⟨-, h⟩
    · exact ⟨'"', body, .inl rfl, betweenTriples?_eq_some_iff.1 h, rfl⟩
    · exact ⟨'\x27', body, .inr rfl, betweenTriples?_eq_some_iff.1 h, rfl⟩
  · rintro ⟨q, body, hq, hl, rfl⟩
    refine ⟨body, ?_, rfl⟩
    have h := betweenTriples?_eq_some_iff.2 hl
    rcases hq with rfl | rfl
    · rw [h, Option.some_or]
    · -- A line that begins with the one kind of quote does not begin with the other.
      have hn : betweenTriples? '"' line = none := by
        rw [Option.eq_none_iff_forall_ne_some]
        intro u hu
        have hl' := betweenTriples?_eq_some_iff.1 hu
        rw [hl] at hl'
        simp at hl'
      rw [hn, Option.none_or, h]

theorem declaration?_eq_some_iff {line name type : Text} :
    declaration? line = some (name, type) ↔ IsDeclaration line name type := by
  rw [declaration?, Option.bind_eq_some_iff]
  constructor
  · rintro ⟨⟨a, b⟩, hc, h⟩
    obtain ⟨hl, ha⟩ := Text.cut?_eq_some_iff.1 hc
    split at h
    · cases h
    · -- The first colon is the only one, since the right side holds none.
      rename_i hb
      cases h
      exact ⟨a, b, hl, ha, hb, rfl, rfl⟩
  · rintro ⟨a, b, hl, ha, hb, rfl, rfl⟩
    exact ⟨(a, b), Text.cut?_eq_some_iff.2 ⟨hl, ha⟩, if_neg hb⟩

theorem IsQuote.notMem_triple {q c : Char} (hq : IsQuote q) (hc : ¬ IsQuote c) :
    c ∉ [q, q, q] := by
  intro h
  have he : c = q := by simpa using h
  exact hc (he ▸ hq)

theorem QuotesMeet.mono {s t s' t' : Text} (h : QuotesMeet s t) (hs : s <+: s') (ht : t <:+ t') :
    QuotesMeet s' t' := by
  obtain ⟨q, hq, hp, hx⟩ := h
  exact ⟨q, hq, hp.trans hs, hx.trans ht⟩

/-- Only what stands behind the last blank or other separator can bring the closing quotes. -/
theorem quotesMeet_append_cons_iff {s a b : Text} {c : Char} (hc : ¬ IsQuote c) :
    QuotesMeet s (a ++ c :: b) ↔ QuotesMeet s b := by
  constructor
  · rintro ⟨q, hq, hp, hx⟩
    exact ⟨q, hq, hp, (Text.isSuffix_append_cons_iff (hq.notMem_triple hc)).1 hx⟩
  · intro h
    exact h.mono List.prefix_rfl ⟨a ++ [c], by simp⟩

/-- The two sides of a colon make a docstring together when their outer quotes agree. -/
theorem exists_isDocstring_iff {a b : Text} :
    (∃ content, IsDocstring (a ++ ':' :: b) content) ↔ QuotesMeet a b := by
  have hc : ¬ IsQuote ':' := by simp [IsQuote]
  constructor
  · rintro ⟨content, q, body, hq, hl, -⟩
    have hp : [q, q, q] <+: a ++ ':' :: b := ⟨body ++ [q, q, q], by rw [hl, List.append_assoc]⟩
    have hs : [q, q, q] <:+ a ++ ':' :: b := ⟨[q, q, q] ++ body, hl.symm⟩
    have hn : ':' ∉ [q, q, q] := hq.notMem_triple hc
    exact ⟨q, hq, (Text.isPrefix_append_cons_iff hn).1 hp, (Text.isSuffix_append_cons_iff hn).1 hs⟩
  · rintro ⟨q, hq, ⟨u, rfl⟩, ⟨v, rfl⟩⟩
    exact ⟨Text.trim (u ++ ':' :: v), q, u ++ ':' :: v, hq, by simp, rfl⟩

/-! ## 2. The kind of a raw line -/

/-- Every kind with what it looks like and with what it must not look like. -/
inductive Reads (raw : Text) : BlockLine → Prop
  | blank (hb : Text.AllBlank raw) : Reads raw .blank
  | comment (hc : IsComment (Text.trim raw)) : Reads raw .comment
  | importing (hc : ¬ IsComment (Text.trim raw)) (hi : IsImport (Text.trim raw)) :
      Reads raw (.importing (Text.trim raw))
  | docstring {content : Text} (hc : ¬ IsComment (Text.trim raw)) (hi : ¬ IsImport (Text.trim raw))
      (hd : IsDocstring (Text.trim raw) content) : Reads raw (.docstring content)
  | declaring {name type : Text} (hc : ¬ IsComment (Text.trim raw))
      (hi : ¬ IsImport (Text.trim raw)) (hd : ∀ content, ¬ IsDocstring (Text.trim raw) content)
      (h : IsDeclaration (Text.trim raw) name type) : Reads raw (.declaring name type)
  | malformed (hb : ¬ Text.AllBlank raw) (hc : ¬ IsComment (Text.trim raw))
      (hi : ¬ IsImport (Text.trim raw)) (hd : ∀ content, ¬ IsDocstring (Text.trim raw) content)
      (h : ∀ name type, ¬ IsDeclaration (Text.trim raw) name type) : Reads raw (.malformed raw)

theorem reads_ofRaw (raw : Text) : Reads raw (ofRaw raw) := by
  rw [ofRaw]
  split
  · rename_i hb
    exact .blank (Text.trim_eq_nil_iff.1 hb)
  rename_i hb
  rw [Text.trim_eq_nil_iff] at hb
  split
  · rename_i hc
    exact .comment (isComment_iff.2 hc)
  rename_i hc
  rw [← isComment_iff] at hc
  split
  · rename_i hi
    exact .importing hc (isImport_iff.1 hi)
  rename_i hi
  rw [isImport_iff] at hi
  split
  · rename_i content hd
    exact .docstring hc hi (docstring?_eq_some_iff.1 hd)
  rename_i hd
  have hd' : ∀ content, ¬ IsDocstring (Text.trim raw) content := by
    intro content h
    rw [docstring?_eq_some_iff.2 h] at hd
    cases hd
  split
  · rename_i name type h
    exact .declaring hc hi hd' (declaration?_eq_some_iff.1 h)
  · rename_i h
    refine .malformed hb hc hi hd' ?_
    intro name type h'
    rw [declaration?_eq_some_iff.2 h'] at h
    cases h

theorem Reads.ofRaw_eq {raw : Text} {l : BlockLine} (h : Reads raw l) : ofRaw raw = l := by
  unfold ofRaw
  cases h with
  | blank hb => rw [if_pos (Text.trim_eq_nil_iff.2 hb)]
  | comment hc =>
    have hn : Text.trim raw ≠ [] := fun h => not_isComment_nil (h ▸ hc)
    rw [if_neg hn, if_pos (isComment_iff.1 hc)]
  | importing hc hi =>
    have hn : Text.trim raw ≠ [] := fun h => not_isImport_nil (h ▸ hi)
    rw [if_neg hn, if_neg (fun h => hc (isComment_iff.2 h)), if_pos (isImport_iff.2 hi)]
  | @docstring content hc hi hd =>
    have hn : Text.trim raw ≠ [] := by
      obtain ⟨q, body, -, hl, -⟩ := hd
      rw [hl]
      simp
    rw [if_neg hn, if_neg (fun h => hc (isComment_iff.2 h)),
      if_neg (fun h => hi (isImport_iff.1 h)), docstring?_eq_some_iff.2 hd]
  | @declaring name type hc hi hd h =>
    have hn : Text.trim raw ≠ [] := by
      obtain ⟨a, b, hl, -⟩ := h
      rw [hl]
      simp
    have hd' : docstring? (Text.trim raw) = none :=
      Option.eq_none_iff_forall_ne_some.2 fun c h => hd c (docstring?_eq_some_iff.1 h)
    rw [if_neg hn, if_neg (fun h => hc (isComment_iff.2 h)),
      if_neg (fun h => hi (isImport_iff.1 h)), hd', declaration?_eq_some_iff.2 h]
  | malformed hb hc hi hd h =>
    have hn : Text.trim raw ≠ [] := fun h => hb (Text.trim_eq_nil_iff.1 h)
    have hd' : docstring? (Text.trim raw) = none :=
      Option.eq_none_iff_forall_ne_some.2 fun c h => hd c (docstring?_eq_some_iff.1 h)
    have h' : declaration? (Text.trim raw) = none :=
      Option.eq_none_iff_forall_ne_some.2 fun s hs => h s.1 s.2 (declaration?_eq_some_iff.1 hs)
    rw [if_neg hn, if_neg (fun h => hc (isComment_iff.2 h)),
      if_neg (fun h => hi (isImport_iff.1 h)), hd', h']

/-- Reading finds the kind, and there is only one to be found. -/
theorem ofRaw_eq_iff {raw : Text} {l : BlockLine} : ofRaw raw = l ↔ Reads raw l := by
  constructor
  · rintro rfl
    exact reads_ofRaw raw
  · exact Reads.ofRaw_eq

end TemplateTypes.BlockLine
