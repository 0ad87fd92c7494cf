import TemplateTypes.QueryCommand
import TemplateTypes.StubCommand

/-!
# The command line

The first argument names the command, the others are the command's own.  This module only carries
the file system into a file tree before the command runs, and what the run changed back out of it
afterwards.  It starts no interpreter, so engine queries are answered as if none could be started.
-/

namespace TemplateTypes.Main

/-! ## 1. From the file system to a file tree -/

def toBytes (b : ByteArray) : Bytes := b.data.toList

def ofBytes (b : Bytes) : ByteArray := ⟨b.toArray⟩

/-- A location as a path from the root. -/
def absolutePath (l : Location) : String :=
  "/" ++ String.intercalate "/" (l.map String.ofList)

def locationOf (path : String) : Location :=
  FileTree.steps path.toList

/-- Takes up what is at a location, and with `deep` everything below it; what cannot be read is
left out. -/
partial def load (deep : Bool) (t : FileTree) (l : Location) : IO FileTree := do
  try
    let here ← IO.FS.realPath (absolutePath l)
    if ← here.isDir then
      let mut t := t.putAt l .directory
      if deep then
        for entry in ← here.readDir do
          t ← load deep t (l ++ [entry.fileName.toList])
      return t
    else
      return t.putAt l (.file (toBytes (← IO.FS.readBinFile here)))
  catch _ => return t

/-- Takes up what a place holds, and what is on the way to it. -/
def visit (t : FileTree) (l : Location) : IO FileTree := do
  let mut t := t
  for k in List.range l.length do
    t ← load false t (l.take k)
  load true t l

/-- The places that the arguments can lead to. -/
def snapshot (paths : List Path) : IO FileTree := do
  let t := FileTree.emptyAt (locationOf (← IO.currentDir).toString)
  paths.foldlM (fun t p => visit t (t.locate p)) t

/-! ## 2. From a file tree to the file system -/

def save (before after : FileTree) : IO Unit := do
  for (l, node) in after.entries.entries do
    if before.nodeAt? l ≠ some node then
      match node with
      | .directory => IO.FS.createDirAll (absolutePath l)
      | .file content => IO.FS.writeBinFile (absolutePath l) (ofBytes content)

/-! ## 3. Runs -/

partial def readAll (input : IO.FS.Stream) (read : ByteArray) : IO ByteArray := do
  let more ← input.read 65536
  if more.isEmpty then return read else readAll input (read ++ more)

def finish (o : CommandLine.Outcome) : IO UInt32 := do
  IO.print (String.ofList o.stdout)
  IO.eprint (String.ofList o.stderr)
  return o.code.toUInt32

def runStub (args : List Text) : IO UInt32 := do
  let needsInput := StubCommand.readsInput args
  let input ← if needsInput then readAll (← IO.getStdin) .empty else pure .empty
  let before ← snapshot (StubCommand.placesOf args)
  let (o, after) := StubCommand.run args (toBytes input) before
  save before after
  finish o

def runQuery (args : List Text) : IO UInt32 := do
  let t ← snapshot (QueryCommand.placesOf args)
  match QueryCommand.run "python3".toList args t with
  | .done o => finish o
  | .calls _ resume => finish (resume .notStarted)

def run (args : List String) : IO UInt32 := do
  match args.map String.toList with
  | command :: rest =>
    if command = "stub".toList then runStub rest
    else if command = "query".toList then runQuery rest
    else finish (.usage "usage: stub|query ARGUMENT...\n".toList)
  | [] => finish (.usage "usage: stub|query ARGUMENT...\n".toList)

end TemplateTypes.Main

def main (args : List String) : IO UInt32 :=
  TemplateTypes.Main.run args
