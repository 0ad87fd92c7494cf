/-!
# Text — characters, blanks, and cutting a text in two

A text is a list of characters, so that everything the library reads is read by recursion on it.
This module holds the white-space property, trimming, and the few ways of cutting a text at a
character or behind a fixed beginning.  Each cut comes with the equation that puts the pieces
back together.
-/

namespace TemplateTypes

abbrev Text := List Char

namespace Text

/-! ## 1. White space -/

/-- The Unicode property White_Space. -/
def isBlank (c : Char) : Bool :=
  let n := c.toNat
  (9 ≤ n && n ≤ 13) || n == 0x20 || n == 0x85 || n == 0xA0 || n == 0x1680 ||
    (0x2000 ≤ n && n ≤ 0x200A) || n == 0x2028 || n == 0x2029 || n == 0x202F || n == 0x205F ||
    n == 0x3000

def trimLeft (t : Text) : Text :=
  t.dropWhile isBlank

def trimRight (t : Text) : Text :=
  (t.reverse.dropWhile isBlank).reverse

/-- Drops white space at both ends. -/
def trim (t : Text) : Text :=
  trimRight (trimLeft t)

/-! ## 2. Cutting -/

/-- What follows `p` in a text that begins with `p`. -/
def after? : Text → Text → Option Text
  | [], t => some t
  | _ :: _, [] => none
  | a :: p, c :: t => if a = c then after? p t else none

def beginsWith (p t : Text) : Bool :=
  (after? p t).isSome

/-- The two sides of the first `d`, which belongs to neither. -/
def cut? (d : Char) : Text → Option (Text × Text)
  | [] => none
  | c :: t => if c = d then some ([], t) else (cut? d t).map fun s => (c :: s.1, s.2)

/-- The two sides of the last `d`, which belongs to neither. -/
def cutLast? (d : Char) (t : Text) : Option (Text × Text) :=
  (cut? d t.reverse).map fun s => (s.2.reverse, s.1.reverse)

/-- Everything before the first `d`, or the whole text. -/
def upTo (d : Char) (t : Text) : Text :=
  t.takeWhile (· ≠ d)

/-- Everything from the first `d` on. -/
def fromFirst (d : Char) (t : Text) : Text :=
  t.dropWhile (· ≠ d)

/-- The pieces between the separators `d`; always one more than there are separators. -/
def pieces (d : Char) : Text → List Text
  | [] => [[]]
  | c :: t =>
    if c = d then [] :: pieces d t
    else
      match pieces d t with
      | [] => [[c]]
      | p :: ps => (c :: p) :: ps

/-- Joins texts with a separator between neighbours. -/
def join (separator : Text) (parts : List Text) : Text :=
  separator.intercalate parts

theorem after?_eq_some_iff {p t r : Text} : after? p t = some r ↔ t = p ++ r := by
  induction p generalizing t with
  | nil => simp [after?]
  | cons a p ih =>
    cases t with
    | nil => simp [after?]
    | cons c t => by_cases h : a = c <;> simp [after?, h, ih, eq_comm]

theorem cut?_eq_some {d : Char} {t a b : Text} (h : cut? d t = some (a, b)) :
    t = a ++ d :: b ∧ d ∉ a := by
  induction t generalizing a with
  | nil => simp [cut?] at h
  | cons c t ih =>
    by_cases hc : c = d
    · simp [cut?, hc] at h
      obtain ⟨rfl, rfl⟩ := h
      simp [hc]
    · simp only [cut?, hc, if_false, Option.map_eq_some_iff] at h
      obtain ⟨s, hs, he⟩ := h
      cases he
      obtain ⟨rfl, hn⟩ := ih hs
      simp [hn, Ne.symm hc]

end Text

end TemplateTypes
