import TemplateTypes.Text.Basic

/-!
# Lines — a text as the list of its lines

Ten characters end a line, and a carriage return directly followed by a line feed ends it once.
A break at the very end opens no further line, so the empty text has no line at all.  Three
equations say what the first character does to the lines of the rest.
-/

namespace TemplateTypes.Text

def isLineBreak (c : Char) : Bool :=
  c == '\n' || c == '\r' || c == '\x0b' || c == '\x0c' || c == '\x1c' || c == '\x1d' ||
    c == '\x1e' || c == '\u0085' || c == '\u2028' || c == '\u2029'

/-- A carriage return that the line feed behind it makes up for. -/
def isHalfBreak (c : Char) (t : Text) : Bool :=
  c == '\r' && t.head? == some '\n'

/-- Puts a character in front of the first line, which it opens if there is none. -/
def addToFirst (c : Char) : List Text → List Text
  | [] => [[c]]
  | l :: ls => (c :: l) :: ls

/-- The lines of a text, without their breaks. -/
def lines : Text → List Text
  | [] => []
  | c :: t =>
    if isHalfBreak c t then lines t
    else if isLineBreak c then [] :: lines t
    else addToFirst c (lines t)

/-! ## 1. The first character -/

theorem isHalfBreak_iff {c : Char} {t : Text} :
    isHalfBreak c t = true ↔ c = '\r' ∧ t.head? = some '\n' := by
  simp [isHalfBreak]

theorem isHalfBreak_of_not_break {c : Char} (t : Text) (h : isLineBreak c = false) :
    isHalfBreak c t = false := by
  by_cases hc : c = '\r'
  · subst hc
    simp [isLineBreak] at h
  · simp [isHalfBreak, hc]

theorem lines_cons_halfBreak {c : Char} {t : Text} (h : isHalfBreak c t = true) :
    lines (c :: t) = lines t := by
  simp [lines, h]

theorem lines_cons_break {c : Char} {t : Text} (h : isLineBreak c = true)
    (hc : isHalfBreak c t = false) : lines (c :: t) = [] :: lines t := by
  simp [lines, h, hc]

theorem lines_cons_of_not_break {c : Char} {t : Text} (h : isLineBreak c = false) :
    lines (c :: t) = addToFirst c (lines t) := by
  simp [lines, h, isHalfBreak_of_not_break t h]

/-! ## 2. What a line holds -/

/-- A line holds no break. -/
theorem not_isLineBreak_of_mem_lines {t l : Text} (hl : l ∈ lines t) {c : Char} (hc : c ∈ l) :
    isLineBreak c = false := by
  induction t generalizing l with
  | nil => simp [lines] at hl
  | cons d t ih =>
    rw [lines] at hl
    split at hl
    · exact ih hl hc
    split at hl
    · rcases List.mem_cons.1 hl with rfl | hl
      · simp at hc
      · exact ih hl hc
    · rename_i hd
      cases hls : lines t with
      | nil =>
        rw [hls, addToFirst, List.mem_singleton] at hl
        subst hl
        rw [List.mem_singleton] at hc
        subst hc
        simpa using hd
      | cons l' ls' =>
        rw [hls, addToFirst] at hl
        rcases List.mem_cons.1 hl with rfl | hl
        · rcases List.mem_cons.1 hc with rfl | hc
          · simpa using hd
          · exact ih (by simp [hls]) hc
        · exact ih (by simp [hls, hl]) hc

end TemplateTypes.Text
