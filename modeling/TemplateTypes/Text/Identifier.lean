import TemplateTypes.Text.Basic

/-!
# Identifiers

An identifier is an ASCII letter or underscore followed by ASCII letters, digits and underscores.
Reading one from the front of a text takes as much as it can.
-/

namespace TemplateTypes.Text

def isNameStart (c : Char) : Bool :=
  ('a' ≤ c && c ≤ 'z') || ('A' ≤ c && c ≤ 'Z') || c == '_'

def isNameChar (c : Char) : Bool :=
  isNameStart c || ('0' ≤ c && c ≤ '9')

def isIdentifier : Text → Bool
  | [] => false
  | c :: t => isNameStart c && t.all isNameChar

/-- The longest identifier at the front, and what follows it. -/
def cutIdentifier? : Text → Option (Text × Text)
  | [] => none
  | c :: t =>
    if isNameStart c then some (c :: t.takeWhile isNameChar, t.dropWhile isNameChar) else none

theorem cutIdentifier?_eq_some {t n r : Text} (h : cutIdentifier? t = some (n, r)) :
    t = n ++ r ∧ isIdentifier n = true := by
  cases t with
  | nil => simp [cutIdentifier?] at h
  | cons c t =>
    by_cases hc : isNameStart c
    · simp only [cutIdentifier?, hc, if_true, Option.some.injEq, Prod.mk.injEq] at h
      obtain ⟨rfl, rfl⟩ := h
      refine ⟨by simp [List.takeWhile_append_dropWhile], ?_⟩
      simp only [isIdentifier, hc, Bool.true_and]
      exact List.all_takeWhile
    · simp [cutIdentifier?, hc] at h

end TemplateTypes.Text
