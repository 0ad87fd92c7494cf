import TemplateTypes.Text.Basic

/-!
# Paths

A path is a text with slashes.  What it names, and how it compares with another path, is told by
its components: repeated slashes and inner dots vanish, while a dot at the very front of a relative
path counts.  The text itself is kept, since messages show a path as it was given.
-/

namespace TemplateTypes

abbrev Path := Text

inductive Component where
  | root
  | here
  | up
  | name (n : Text)
deriving DecidableEq, Inhabited

namespace Path

/-! ## 1. Components -/

/-- A piece that says where to go; an empty piece and a dot say nothing. -/
def component? (piece : Text) : Option Component :=
  if piece = [] ∨ piece = ['.'] then none
  else if piece = ['.', '.'] then some .up
  else some (.name piece)

/-- The first piece is empty in an absolute path, and a dot there counts. -/
def firstComponent? (piece : Text) (absolute : Bool) : Option Component :=
  if piece = [] then (if absolute then some .root else none)
  else if piece = ['.'] then some .here
  else component? piece

def isAbsolute (p : Path) : Bool :=
  p.head? = some '/'

def components (p : Path) : List Component :=
  match Text.pieces '/' p with
  | [] => []
  | first :: rest => (firstComponent? first (isAbsolute p)).toList ++ rest.filterMap component?

/-- Two spellings of one path. -/
def same (p q : Path) : Bool :=
  components p = components q

/-! ## 2. Order -/

/-- The root comes before a dot, a dot before two dots, and those before names, which are ordered
character by character. -/
def rank : Component → List Nat
  | .root => [0]
  | .here => [1]
  | .up => [2]
  | .name n => 3 :: n.map Char.toNat

def ranks (p : Path) : List (List Nat) :=
  (components p).map rank

/-- The second path does not come before the first: the first component that differs decides. -/
def le (p q : Path) : Bool :=
  !List.lex (ranks q) (ranks p) fun a b => List.lex a b (· < ·)

/-- Drops each path that only spells the one before it differently. -/
def dropRepeats : List Path → List Path
  | [] => []
  | [p] => [p]
  | p :: q :: ps => if same p q then dropRepeats (p :: ps) else p :: dropRepeats (q :: ps)

/-- In order, each path once; of several spellings the first. -/
def sorted (ps : List Path) : List Path :=
  dropRepeats (ps.mergeSort le)

/-! ## 3. Parts -/

def join (directory : Path) (name : Text) : Path :=
  if directory = [] ∨ directory.getLast? = some '/' then directory ++ name
  else directory ++ '/' :: name

/-- Drops the pieces at the end that say nothing. -/
def dropVoid (pieces : List Text) : List Text :=
  (pieces.reverse.dropWhile fun p => (component? p).isNone).reverse

/-- Everything before the last component.  The root and the empty path have no parent. -/
def parent? (p : Path) : Option Path :=
  match Text.pieces '/' p with
  | [] => none
  | first :: rest =>
    match (dropVoid rest).reverse with
    | [] => if first = [] then none else some []
    | _ :: before =>
      let kept := first :: dropVoid before.reverse
      some (if kept = [[]] then ['/'] else Text.join ['/'] kept)

def fileName? (p : Path) : Option Text :=
  match (components p).getLast? with
  | some (.name n) => some n
  | _ => none

/-- The two sides of the last dot; a name has none that begins with its only dot. -/
def splitName (name : Text) : Text × Option Text :=
  match Text.cutLast? '.' name with
  | some (stem, extension) => if stem = [] then (name, none) else (stem, some extension)
  | none => (name, none)

def extension? (p : Path) : Option Text :=
  (fileName? p).bind fun n => (splitName n).2

/-- The file name without its extension; a path without a file name stands for itself. -/
def stem (p : Path) : Text :=
  match fileName? p with
  | some n => (splitName n).1
  | none => p

end Path

end TemplateTypes
