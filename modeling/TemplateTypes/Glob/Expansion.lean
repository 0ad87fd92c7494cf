import TemplateTypes.Glob.Pattern
import TemplateTypes.FileTree.Basic

/-!
# Expanding a pattern in a file tree

A pattern is valid only if it is valid as a whole and component by component.  A component without
wildcards is looked up; one with wildcards is compared with the names in the directory reached so
far; two stars reach everything below it.  The dots that lead to a directory itself and to the one
above are found only by a component that begins with a dot.
-/

namespace TemplateTypes.Glob

/-! ## 1. Components -/

/-- The parts of a pattern between slashes; a slash at the end closes the last part. -/
def parts (t : Text) : List Text :=
  let ps := Text.pieces '/' t
  if ps.getLast? = some [] then ps.dropLast else ps

/-- Two stars that follow two stars add nothing. -/
def collapse : List Pattern → List Pattern
  | [.anyDirectories] :: [.anyDirectories] :: ps => collapse ([.anyDirectories] :: ps)
  | p :: ps => p :: collapse ps
  | [] => []

def readAll : List Text → Except PatternError (List Pattern)
  | [] => .ok []
  | t :: ts =>
    match Pattern.ofText t with
    | .error e => .error e
    | .ok p =>
      match readAll ts with
      | .error e => .error e
      | .ok ps => .ok (p :: ps)

/-- The patterns of the components; an empty pattern is one empty component. -/
def components (t : Text) : Except PatternError (List Pattern) :=
  match Pattern.ofText t with
  | .error e => .error e
  | .ok _ =>
    let body := if Path.isAbsolute t then t.tail else t
    (readAll (if body = [] then [[]] else parts body)).map collapse

/-! ## 2. Expansion -/

/-- A path below the directory at `p`; paths in the working directory do not mention it. -/
def childPath (p : Path) (name : Text) : Path :=
  if Path.components p = [.here] then name else Path.join p name

def isDots (t : Text) : Bool :=
  t = ['.'] || t = ['.', '.']

/-- Whether a name that was looked up leads on. -/
def leadsOn (t : FileTree) (p : Path) (name : Text) : Bool :=
  if isDots name then t.isDirectory p else t.isPresent (childPath p name)

/-- The dots, where the pattern begins with one and matches them. -/
def dotsFor (p : Path) (pattern : Pattern) : List Path :=
  if pattern.head? = some (.char '.') then
    ([['.'], ['.', '.']].filter pattern.accepts).map (Path.join p)
  else []

/-- The paths that the components reach from the directory at `p`. -/
def reach (t : FileTree) : List Pattern → Path → List Path
  | [], p => [p]
  | [[.anyDirectories]], p =>
    if t.isDirectory p then
      ((t.descendants p).map fun names => childPath p (Text.join ['/'] names)).filter t.isDirectory
    else []
  | [.anyDirectories] :: pattern :: ps, p =>
    if t.isDirectory p then
      ((t.descendants p).filter fun names => pattern.accepts (names.getLastD [])).flatMap
        fun names => reach t ps (childPath p (Text.join ['/'] names))
    else []
  | pattern :: ps, p =>
    match pattern.literal? with
    | some name => if leadsOn t p name then reach t ps (childPath p name) else []
    | none =>
      if t.isDirectory p then
        ((t.children p).filter pattern.accepts).flatMap
            (fun name => reach t ps (childPath p name)) ++
          (dotsFor p pattern).flatMap (reach t ps)
      else []

def isWildcard (c : Char) : Bool :=
  c == '*' || c == '?' || c == '['

/-- The directory that everything matching a pattern lies below, as far as the pattern tells. -/
def base (t : Text) : Path :=
  let leading := (parts t).dropLast.takeWhile fun part => !part.any isWildcard
  if leading = [] then ['.'] else if leading = [[]] then ['/'] else Text.join ['/'] leading

/-- Where an expansion starts. -/
def scope (t : Text) : Path :=
  if Path.isAbsolute t then ['/'] else ['.']

/-- The paths that match a pattern.  A slash at its end asks for directories. -/
def expand (tree : FileTree) (t : Text) : Except PatternError (List Path) :=
  match components t with
  | .error e => .error e
  | .ok ps =>
    let found := reach tree ps (scope t)
    .ok (if t.getLast? = some '/' then found.filter tree.isDirectory else found)

end TemplateTypes.Glob
