import TemplateTypes.Dictionary
import TemplateTypes.Path
import TemplateTypes.Text.Utf8

/-!
# File trees — directories and files as a value

A file tree gives a node to each location that exists, a location being the names on the way from
the root, and has a working directory where relative paths start.  Operations take a path, walk
along it, and give the next tree or the cause why there is none.
-/

namespace TemplateTypes

/-! ## 1. Causes -/

/-- Why an operation on a file tree fails. -/
inductive Cause where
  | notFound
  | alreadyExists
  | notADirectory
  | isADirectory
  | notText
deriving DecidableEq, Inhabited

def Cause.message : Cause → Text
  | .notFound => "No such file or directory (os error 2)".toList
  | .alreadyExists => "File exists (os error 17)".toList
  | .notADirectory => "Not a directory (os error 20)".toList
  | .isADirectory => "Is a directory (os error 21)".toList
  | .notText => "stream did not contain valid UTF-8".toList

/-! ## 2. Trees -/

abbrev Location := List Text

/-- What follows `base` in a location at or below it. -/
def Location.below? : Location → Location → Option (List Text)
  | [], l => some l
  | _ :: _, [] => none
  | a :: base, b :: l => if a = b then below? base l else none

inductive Node where
  | file (content : Bytes)
  | directory
deriving DecidableEq, Inhabited

structure FileTree where
  entries : Dictionary Location Node
  workingDirectory : Location
deriving DecidableEq

namespace FileTree

/-- A tree with nothing but an empty working directory. -/
def emptyAt (l : Location) : FileTree :=
  ⟨.ofList ((List.range l.length).map fun k => (l.take (k + 1), .directory)), l⟩

instance : Inhabited FileTree := ⟨emptyAt []⟩

/-- The root is always there. -/
def nodeAt? (t : FileTree) (l : Location) : Option Node :=
  if l = [] then some .directory else t.entries.get? l

def putAt (t : FileTree) (l : Location) (e : Node) : FileTree :=
  { t with entries := t.entries.insert l e }

theorem nodeAt?_putAt (t : FileTree) (l m : Location) (e : Node) :
    (t.putAt l e).nodeAt? m =
      if m = [] then some .directory else if m = l then some e else t.nodeAt? m := by
  simp only [nodeAt?, putAt, Dictionary.get?_insert]
  split <;> simp_all

/-! ## 3. Walking along a path -/

/-- The pieces of a path that a walk takes. -/
def steps (p : Path) : List Text :=
  (Text.pieces '/' p).filter (· ≠ [])

def start (t : FileTree) (p : Path) : Location :=
  if Path.isAbsolute p then [] else t.workingDirectory

def endsInSlash (p : Path) : Bool :=
  p.getLast? = some '/'

def stepTo (l : Location) (piece : Text) : Location :=
  if piece = ['.'] then l
  else if piece = ['.', '.'] then l.dropLast
  else l ++ [piece]

/-- Whether a walk can go on from a location. -/
def enter (t : FileTree) (l : Location) : Except Cause Unit :=
  match t.nodeAt? l with
  | some .directory => .ok ()
  | some (.file _) => .error .notADirectory
  | none => .error .notFound

/-- Where a path leads if everything on the way is a directory. -/
def locate (t : FileTree) (p : Path) : Location :=
  (steps p).foldl stepTo (t.start p)

/-- Only the location reached last need not exist. -/
def walk (t : FileTree) : Location → List Text → Except Cause Location
  | l, [] => .ok l
  | l, piece :: rest =>
    match t.enter l with
    | .error e => .error e
    | .ok () => walk t (stepTo l piece) rest

/-- A slash at the end asks for a directory, like a dot behind it. -/
def resolve (t : FileTree) (p : Path) : Except Cause Location :=
  if p = [] then .error .notFound
  else t.walk (t.start p) (steps p ++ if endsInSlash p then [['.']] else [])

def find (t : FileTree) (p : Path) : Except Cause Node :=
  match t.resolve p with
  | .error e => .error e
  | .ok l =>
    match t.nodeAt? l with
    | some e => .ok e
    | none => .error .notFound

def isPresent (t : FileTree) (p : Path) : Bool :=
  match t.find p with
  | .ok _ => true
  | .error _ => false

def isFile (t : FileTree) (p : Path) : Bool :=
  match t.find p with
  | .ok (.file _) => true
  | _ => false

def isDirectory (t : FileTree) (p : Path) : Bool :=
  match t.find p with
  | .ok .directory => true
  | _ => false

/-! ## 4. Reading -/

def read (t : FileTree) (p : Path) : Except Cause Bytes :=
  match t.find p with
  | .ok (.file content) => .ok content
  | .ok .directory => .error .isADirectory
  | .error e => .error e

def readText (t : FileTree) (p : Path) : Except Cause Text :=
  match t.read p with
  | .ok content =>
    match Text.Utf8.decode? content with
    | some text => .ok text
    | none => .error .notText
  | .error e => .error e

/-- Everything strictly below a location, by the names on the way down. -/
def below (t : FileTree) (l : Location) : List (List Text × Node) :=
  t.entries.entries.filterMap fun e =>
    match Location.below? l e.1 with
    | some (name :: names) => some (name :: names, e.2)
    | _ => none

/-- The names on the way down from the directory at `p`, for everything below it. -/
def descendants (t : FileTree) (p : Path) : List (List Text) :=
  match t.resolve p with
  | .ok l => (t.below l).map Prod.fst
  | .error _ => []

/-- The names directly inside the directory at `p`. -/
def children (t : FileTree) (p : Path) : List Text :=
  (t.descendants p).filterMap fun names =>
    match names with
    | [name] => some name
    | _ => none

/-! ## 5. Writing -/

/-- Where the last piece of a path stands: the directory it is looked up in, which must exist, and
the piece itself. -/
def place (t : FileTree) (p : Path) : Except Cause (Location × Option Text) :=
  match t.walk (t.start p) (steps p).dropLast with
  | .error e => .error e
  | .ok l =>
    match t.enter l with
    | .error e => .error e
    | .ok () => .ok (l, (steps p).getLast?)

/-- Dots and the root lead to directories, whatever the tree holds. -/
def namesDirectory (last : Option Text) : Bool :=
  last = none || last = some ['.'] || last = some ['.', '.']

/-- Makes a file, or replaces the content of one. -/
def write (t : FileTree) (p : Path) (content : Bytes) : Except Cause FileTree :=
  if p = [] then .error .notFound
  else
    match t.place p with
    | .error e => .error e
    | .ok (l, last) =>
      if namesDirectory last || endsInSlash p then .error .isADirectory
      else
        let target := l ++ last.toList
        match t.nodeAt? target with
        | some .directory => .error .isADirectory
        | _ => .ok (t.putAt target (.file content))

/-- Makes one directory, where nothing is yet. -/
def makeDirectory (t : FileTree) (p : Path) : Except Cause FileTree :=
  if p = [] then .error .notFound
  else
    match t.place p with
    | .error e => .error e
    | .ok (l, last) =>
      if namesDirectory last then .error .alreadyExists
      else
        let target := l ++ last.toList
        match t.nodeAt? target with
        | some _ => .error .alreadyExists
        | none => .ok (t.putAt target .directory)

/-- Makes a directory unless it is there already: the tree, and what went wrong. -/
def ensureDirectory (t : FileTree) (p : Path) : FileTree × Option Cause :=
  match t.makeDirectory p with
  | .ok t' => (t', none)
  | .error e => (t, if t.isDirectory p then none else some e)

/-- Makes a directory, and those above it where they are missing; what was made stays, even if
something goes wrong further down.  `above` lists the directories above, the nearest first. -/
def makeDirectoriesFrom (t : FileTree) (p : Path) (above : List Path) : FileTree × Option Cause :=
  if p = [] then (t, none)
  else
    match above, t.makeDirectory p with
    | q :: above, .error .notFound =>
      match makeDirectoriesFrom t q above with
      | (t', some e) => (t', some e)
      | (t', none) => t'.ensureDirectory p
    | _, _ => t.ensureDirectory p

/-- The paths above the one made up of the given pieces, last piece first. -/
def pathsAbove (absolute : Bool) : List Text → List Path
  | [] => []
  | _ :: before =>
    ((if absolute then ['/'] else []) ++ Text.join ['/'] before.reverse) ::
      pathsAbove absolute before

/-- Dots have no directory of their own above them. -/
def makeDirectories (t : FileTree) (p : Path) : FileTree × Option Cause :=
  t.makeDirectoriesFrom p (pathsAbove (Path.isAbsolute p) ((steps p).filter (· ≠ ['.'])).reverse)

/-- Takes away what is at the path, with everything below it. -/
def remove (t : FileTree) (p : Path) : FileTree :=
  match t.resolve p with
  | .error _ => t
  | .ok l => { t with entries := .ofList (t.entries.entries.filter fun e =>
      (Location.below? l e.1).isNone) }

/-- Everything below the working directory, by its path from there. -/
def listing (t : FileTree) : List (Path × Node) :=
  (t.below t.workingDirectory).map fun e => (Text.join ['/'] e.1, e.2)

end FileTree

end TemplateTypes
