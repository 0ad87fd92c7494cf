import TemplateTypes.Text.Basic

/-!
# Glob patterns

A pattern matches a name as a whole: a question mark matches one character, a star any number of
them, a bracket one character of a class.  Two stars stand for any number of directories and must
be all of a path component.  A faulty pattern is reported with the position, in characters, of
what is wrong.
-/

namespace TemplateTypes.Glob

/-! ## 1. Pieces -/

/-- One member of a character class. -/
inductive Member where
  | one (c : Char)
  | range (first last : Char)
deriving DecidableEq

def Member.holds (c : Char) : Member → Bool
  | .one d => c = d
  | .range first last => first ≤ c && c ≤ last

inductive Piece where
  | char (c : Char)
  | anyChar
  | anyText
  | anyDirectories
  | within (members : List Member)
  | without (members : List Member)
deriving DecidableEq

abbrev Pattern := List Piece

/-! ## 2. Matching -/

/-- The text itself and everything left when characters are dropped from its front. -/
def suffixes : Text → List Text
  | [] => [[]]
  | c :: t => (c :: t) :: suffixes t

def Piece.matchesChar (c : Char) : Piece → Bool
  | .char d => c = d
  | .anyChar => true
  | .within members => members.any (Member.holds c)
  | .without members => !members.any (Member.holds c)
  | .anyText | .anyDirectories => false

def Pattern.accepts : Pattern → Text → Bool
  | [], t => t.isEmpty
  | .anyText :: ps, t => (suffixes t).any (Pattern.accepts ps)
  | .anyDirectories :: ps, t => (suffixes t).any (Pattern.accepts ps)
  | _ :: _, [] => false
  | p :: ps, c :: t => p.matchesChar c && Pattern.accepts ps t

/-- The only text that a pattern without wildcards matches. -/
def Pattern.literal? : Pattern → Option Text
  | [] => some []
  | .char c :: ps => (literal? ps).map (c :: ·)
  | _ :: _ => none

/-! ## 3. Reading a pattern -/

inductive Fault where
  | range
  | recursive
  | wildcards
deriving DecidableEq, Inhabited

def Fault.message : Fault → Text
  | .range => "invalid range pattern".toList
  | .recursive => "recursive wildcards must form a single path component".toList
  | .wildcards => "wildcards are either regular `*` or recursive `**`".toList

structure PatternError where
  position : Nat
  fault : Fault
deriving DecidableEq, Inhabited

def PatternError.message (e : PatternError) : Text :=
  "Pattern syntax error near position ".toList ++ (toString e.position).toList ++ [':', ' '] ++
    e.fault.message

/-- Two characters with a dash between them are a range. -/
def members : Text → List Member
  | a :: '-' :: b :: t => .range a b :: members t
  | a :: t => .one a :: members t
  | [] => []

/-- What stands between the brackets, and what follows them.  A bracket in first place closes
nothing. -/
def cutClass? : Text → Option (Text × Text)
  | [] => none
  | c :: t => (Text.cut? ']' t).map fun s => (c :: s.1, s.2)

/-- The class that a bracket opens, and what follows it. -/
def class? : Text → Option (Piece × Text)
  | '!' :: t => (cutClass? t).map fun s => (.without (members s.1), s.2)
  | t => (cutClass? t).map fun s => (.within (members s.1), s.2)

/-- Whether a path component starts behind `previous`. -/
def startsComponent (previous : Option Char) : Bool :=
  previous = none || previous = some '/'

theorem length_lt_of_cut? {d : Char} {t a b : Text} (h : Text.cut? d t = some (a, b)) :
    b.length < t.length := by
  obtain ⟨rfl, -⟩ := Text.cut?_eq_some h
  simp
  omega

theorem length_lt_of_class? {t r : Text} {p : Piece} (h : class? t = some (p, r)) :
    r.length < t.length := by
  have cut {t a r : Text} (h : cutClass? t = some (a, r)) : r.length < t.length := by
    cases t with
    | nil => simp [cutClass?] at h
    | cons c t =>
      obtain ⟨s, hs, he⟩ := Option.map_eq_some_iff.1 h
      cases he
      have := length_lt_of_cut? (a := s.1) (b := s.2) hs
      simp
      omega
  unfold class? at h
  split at h <;> obtain ⟨s, hs, he⟩ := Option.map_eq_some_iff.1 h <;> cases he <;>
    have := cut (a := s.1) (r := s.2) hs <;> simp at * <;> omega

/-- Reads on at the given position, behind the character `previous`. -/
def readFrom (position : Nat) (previous : Option Char) (t : Text) :
    Except PatternError Pattern :=
  match t with
  | [] => .ok []
  | '?' :: r => (readFrom (position + 1) (some '?') r).map (.anyChar :: ·)
  | '*' :: '*' :: '*' :: _ => .error ⟨position + 2, .wildcards⟩
  | '*' :: '*' :: r =>
    if startsComponent previous then
      match r with
      | [] => .ok [.anyDirectories]
      | c :: r' =>
        if c = '/' then (readFrom (position + 3) (some '/') r').map (.anyDirectories :: ·)
        else .error ⟨position + 2, .recursive⟩
    else .error ⟨position - 1, .recursive⟩
  | '*' :: r => (readFrom (position + 1) (some '*') r).map (.anyText :: ·)
  | '[' :: r =>
    match _h : class? r with
    | none => .error ⟨position, .range⟩
    | some (p, rest) =>
      (readFrom (position + 1 + (r.length - rest.length)) (some ']') rest).map (p :: ·)
  | c :: r => (readFrom (position + 1) (some c) r).map (.char c :: ·)
termination_by t.length
decreasing_by
  all_goals first
    | (simp; done)
    | (simp; omega)
    | (have shorter := length_lt_of_class? _h; simp; omega)

def Pattern.ofText (t : Text) : Except PatternError Pattern :=
  readFrom 0 none t

end TemplateTypes.Glob
