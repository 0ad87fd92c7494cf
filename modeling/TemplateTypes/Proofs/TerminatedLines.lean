import Mathlib.Data.List.Infix
import TemplateTypes.Text.Line

/-!
# Terminated lines — texts whose lines are known

A text that writes its lines one after the other, each with a line feed behind it, has exactly
these lines, as long as none of them holds a break of its own.  With other line ends an empty line
can be lost, but no line on which something stands.
-/

namespace TemplateTypes.Text

/-- Holds no break. -/
def OneLine (t : Text) : Prop := ∀ c ∈ t, isLineBreak c = false

instance (t : Text) : Decidable (OneLine t) := List.decidableBAll _ t

theorem oneLine_nil : OneLine [] := by
  intro c hc
  cases hc

theorem OneLine.mono {s t : Text} (h : OneLine t) (hs : s <:+: t) : OneLine s :=
  fun c hc => h c (hs.subset hc)

theorem OneLine.append {s t : Text} (hs : OneLine s) (ht : OneLine t) : OneLine (s ++ t) := by
  intro c hc
  rcases List.mem_append.1 hc with hc | hc
  · exact hs c hc
  · exact ht c hc

theorem OneLine.lineFeed_notMem {t : Text} (h : OneLine t) : '\n' ∉ t := by
  intro hm
  have hb := h _ hm
  simp [isLineBreak] at hb

theorem oneLine_of_mem_lines {t l : Text} (hl : l ∈ lines t) : OneLine l :=
  fun _ hc => not_isLineBreak_of_mem_lines hl hc

/-! ## 1. Lines are pieces of their text -/

theorem isPrefix_of_mem_head_lines {t l : Text} (hl : l ∈ (lines t).head?) : l <+: t := by
  induction t generalizing l with
  | nil => simp [lines] at hl
  | cons c t ih =>
    rw [lines] at hl
    split at hl
    · rename_i hc
      -- The line feed behind a half break ends the line that the half break stands on.
      obtain ⟨u, rfl⟩ := List.head?_eq_some_iff.1 (isHalfBreak_iff.1 hc).2
      rw [lines_cons_break (by decide) (by simp [isHalfBreak])] at hl
      cases hl
      exact List.nil_prefix
    split at hl
    · cases hl
      exact List.nil_prefix
    · cases hls : lines t with
      | nil =>
        rw [hls] at hl
        cases hl
        exact List.cons_prefix_cons.2 ⟨rfl, List.nil_prefix⟩
      | cons l' ls' =>
        rw [hls] at hl
        cases hl
        exact List.cons_prefix_cons.2 ⟨rfl, ih (by rw [hls]; rfl)⟩

/-- All lines but the first are lines of the text behind the first character. -/
theorem tail_lines_cons_subset (c : Char) (t : Text) : (lines (c :: t)).tail ⊆ lines t := by
  rw [lines]
  split
  · exact List.tail_subset _
  split
  · exact List.Subset.refl _
  · cases lines t with
    | nil => exact List.Subset.refl _
    | cons l ls => exact List.subset_cons_self l ls

theorem isInfix_of_mem_lines {t l : Text} (hl : l ∈ lines t) : l <:+: t := by
  induction t generalizing l with
  | nil => simp [lines] at hl
  | cons c t ih =>
    have htail := tail_lines_cons_subset c t
    have hhead : ∀ l ∈ (lines (c :: t)).head?, l <+: c :: t := fun _ => isPrefix_of_mem_head_lines
    cases hls : lines (c :: t) with
    | nil => simp [hls] at hl
    | cons k ks =>
      rw [hls] at hl htail hhead
      rcases List.mem_cons.1 hl with rfl | hk
      · exact (hhead l rfl).isInfix
      · exact List.infix_cons (ih (htail hk))

/-! ## 2. Writing lines down -/

/-- In front of an empty line a text without breaks fills that line. -/
theorem lines_append_of_lines_eq {l t : Text} {ls : List Text} (h : OneLine l)
    (ht : lines t = [] :: ls) : lines (l ++ t) = l :: ls := by
  induction l with
  | nil => exact ht
  | cons c l ih =>
    have hc : isLineBreak c = false := h c List.mem_cons_self
    have hl : OneLine l := fun d hd => h d (List.mem_cons_of_mem c hd)
    rw [List.cons_append, lines_cons_of_not_break hc, ih hl, addToFirst]

theorem lines_append_lineFeed {l : Text} (h : OneLine l) (t : Text) :
    lines (l ++ '\n' :: t) = l :: lines t :=
  lines_append_of_lines_eq h (lines_cons_break (by decide) (by simp [isHalfBreak]))

theorem lines_of_oneLine {l : Text} (h : OneLine l) (hn : l ≠ []) : lines l = [l] := by
  induction l with
  | nil => exact absurd rfl hn
  | cons c l ih =>
    have hc : isLineBreak c = false := h c List.mem_cons_self
    have hl : OneLine l := fun d hd => h d (List.mem_cons_of_mem c hd)
    rw [lines_cons_of_not_break hc]
    by_cases hnil : l = []
    · rw [hnil]
      rfl
    · rw [ih hl hnil, addToFirst]

theorem lines_flatMap_lineFeed {ls : List Text} (h : ∀ l ∈ ls, OneLine l) :
    lines (ls.flatMap (· ++ ['\n'])) = ls := by
  induction ls with
  | nil => rfl
  | cons l ls ih =>
    have hl : OneLine l := h l List.mem_cons_self
    have hls : ∀ k ∈ ls, OneLine k := fun k hk => h k (List.mem_cons_of_mem l hk)
    rw [List.flatMap_cons, List.append_assoc, List.singleton_append, lines_append_lineFeed hl,
      ih hls]

/-- Joining puts a line feed behind every line but the last. -/
theorem join_append_singleton (ls : List Text) (t : Text) :
    join ['\n'] (ls ++ [t]) = ls.flatMap (· ++ ['\n']) ++ t := by
  induction ls with
  | nil => simp [join]
  | cons l ls ih =>
    rw [join] at ih ⊢
    rw [List.cons_append, List.intercalate_cons_of_ne_nil (by simp), ih, List.flatMap_cons]
    simp only [List.append_assoc]

theorem join_append_lineFeed {ls : List Text} (h : ls ≠ []) :
    join ['\n'] ls ++ ['\n'] = ls.flatMap (· ++ ['\n']) := by
  obtain ⟨init, last, rfl⟩ := (List.eq_nil_or_concat' ls).resolve_left h
  rw [join_append_singleton, List.flatMap_append, List.append_assoc]
  simp

theorem lines_join_append_lineFeed {ls : List Text} (hne : ls ≠ [])
    (h : ∀ l ∈ ls, OneLine l) : lines (join ['\n'] ls ++ ['\n']) = ls := by
  rw [join_append_lineFeed hne, lines_flatMap_lineFeed h]

theorem count_lineFeed_flatMap {ls : List Text} (h : ∀ l ∈ ls, '\n' ∉ l) :
    (ls.flatMap (· ++ ['\n'])).count '\n' = ls.length := by
  induction ls with
  | nil => rfl
  | cons l ls ih =>
    have hl : l.count '\n' = 0 := List.count_eq_zero_of_not_mem (h l List.mem_cons_self)
    have hls := ih fun k hk => h k (List.mem_cons_of_mem l hk)
    rw [List.flatMap_cons, List.count_append, List.count_append, hl, hls,
      List.count_singleton_self, List.length_cons]
    omega

/-- Any line feed that does not stand between two lines is one of the last line. -/
theorem count_lineFeed_join_append {ls : List Text} (h : ∀ l ∈ ls, '\n' ∉ l) (t : Text) :
    (join ['\n'] (ls ++ [t])).count '\n' = ls.length + t.count '\n' := by
  rw [join_append_singleton, List.count_append, count_lineFeed_flatMap h]

/-! ## 3. Line ends -/

/-- What can end a line: one break, or the two that end it together. -/
def IsLineEnd (e : Text) : Prop :=
  e = ['\r', '\n'] ∨ ∃ c, isLineBreak c = true ∧ e = [c]

/-- A carriage return ends the one text and a line feed begins the other, so that together they end
one line. -/
def FormsBreak (s t : Text) : Prop := '\r' ∈ s.getLast? ∧ '\n' ∈ t.head?

instance (s t : Text) : Decidable (FormsBreak s t) :=
  inferInstanceAs (Decidable ('\r' ∈ s.getLast? ∧ '\n' ∈ t.head?))

theorem FormsBreak.append_left {s t : Text} (h : FormsBreak s t) (r : Text) :
    FormsBreak (r ++ s) t := by
  refine ⟨?_, h.2⟩
  rw [List.getLast?_append, Option.mem_def.1 h.1]
  rfl

theorem formsBreak_singleton_iff {c : Char} {t : Text} :
    FormsBreak [c] t ↔ isHalfBreak c t = true := by
  rw [isHalfBreak_iff, FormsBreak, List.getLast?_singleton, Option.mem_def, Option.some.injEq,
    Option.mem_def]

theorem IsLineEnd.formsBreak_iff {e t : Text} (he : IsLineEnd e) :
    FormsBreak e t ↔ e = ['\r'] ∧ ∃ u, t = '\n' :: u := by
  rw [FormsBreak, Option.mem_def, Option.mem_def, List.head?_eq_some_iff]
  rcases he with rfl | ⟨c, -, rfl⟩
  · simp
  · simp

/-- A line end in front of a text ends an empty line, unless it is only half of the line end. -/
theorem lines_lineEnd_append {e t : Text} (he : IsLineEnd e) (ht : ¬FormsBreak e t) :
    lines (e ++ t) = [] :: lines t := by
  rcases he with rfl | ⟨c, hc, rfl⟩
  · have hfeed : lines ('\n' :: t) = [] :: lines t := lines_append_lineFeed oneLine_nil t
    exact (lines_cons_halfBreak (isHalfBreak_iff.2 ⟨rfl, rfl⟩)).trans hfeed
  · rw [formsBreak_singleton_iff, Bool.not_eq_true] at ht
    exact lines_cons_break hc ht

/-- Two characters that end a line together are no half of anything. -/
theorem lines_pair_append (t : Text) : lines (['\r', '\n'] ++ t) = [] :: lines t :=
  lines_lineEnd_append (.inl rfl) (by simp [FormsBreak])

/-- The rest loses its first line where this is empty and its line feed belongs to a carriage return
in front. -/
theorem exists_lines_append_lineEnd {l e : Text} (hl : OneLine l) (he : IsLineEnd e) (t : Text) :
    ∃ ls, lines (l ++ (e ++ t)) = l :: ls ∧ (ls = lines t ∨ lines t = [] :: ls) := by
  by_cases ht : FormsBreak e t
  · obtain ⟨rfl, u, rfl⟩ := he.formsBreak_iff.1 ht
    exact ⟨lines u, lines_append_of_lines_eq hl (lines_pair_append u),
      .inr (lines_append_lineFeed oneLine_nil u)⟩
  · exact ⟨lines t, lines_append_of_lines_eq hl (lines_lineEnd_append he ht), .inl rfl⟩

/-- A reader that passes over empty lines does not see which line end was used. -/
theorem filter_lines_append_lineEnd {p : Text → Bool} (hp : p [] = false) {l e : Text}
    (hl : OneLine l) (he : IsLineEnd e) (t : Text) :
    (lines (l ++ (e ++ t))).filter p = [l].filter p ++ (lines t).filter p := by
  obtain ⟨ls, hlines, hls⟩ := exists_lines_append_lineEnd hl he t
  have hrest : ls.filter p = (lines t).filter p := by
    rcases hls with rfl | hls
    · rfl
    · rw [hls, List.filter_cons_of_neg (by simp [hp])]
  rw [hlines, ← hrest, ← List.filter_append, List.singleton_append]

/-- A reader that passes over empty lines passes over a gap of them. -/
theorem filterMap_gap {β : Type} {f : Text → Option β} (hf : f [] = none) {gap : List Text}
    (hgap : ∀ l ∈ gap, l = []) : gap.filterMap f = [] := by
  rw [List.filterMap_eq_nil_iff]
  intro l hl
  rw [hgap l hl, hf]

theorem filter_lines_of_oneLine {p : Text → Bool} (hp : p [] = false) {l : Text}
    (hl : OneLine l) : (lines l).filter p = [l].filter p := by
  by_cases hn : l = []
  · rw [hn, List.filter_cons_of_neg (by simp [hp])]
    rfl
  · rw [lines_of_oneLine hl hn]

end TemplateTypes.Text
