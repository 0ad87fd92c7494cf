import TemplateTypes.Interpreter.Exchange

/-!
# Pipes — an exchange while it goes on

The parent writes the whole source before it reads anything.  Until the source is delivered, or
nobody is left to take it, what the process writes stays in pipes that hold only so much, and a
process that has to write more waits.  How much a pipe holds, and which of the two sides goes on
when, lies with the system.
-/

namespace TemplateTypes

/-! ## 1. Processes -/

inductive Stream where
  | stdout
  | stderr
deriving DecidableEq, Inhabited

/-- What a process does next.  It can take some of its input, take all of it up to the end, give
it up, or write. -/
inductive Action where
  | read (bytes : Nat)
  | readAll
  | closeInput
  | write (stream : Stream) (bytes : Bytes)
deriving DecidableEq, Inhabited

/-- The process that a parent has started does one thing after the other, and then it ends. -/
structure Child where
  actions : List Action
  ending : Ending
deriving DecidableEq, Inhabited

/-- The parent goes on, writing so many bytes at most, or the child does. -/
inductive Turn where
  | parent (bytes : Nat)
  | child
deriving DecidableEq, Inhabited

/-! ## 2. Turns -/

/-- The source is `unsent` before the parent has written it and `unread` in the pipe.  Once it is
known whether all of it was `delivered`, the parent reads what the process writes. -/
structure Pipes where
  unsent : Bytes
  unread : Bytes
  delivered : Option Bool
  isOpen : Bool
  stdout : Bytes
  stderr : Bytes
  ahead : List Action
deriving DecidableEq, Inhabited

namespace Pipes

def start (source : Bytes) (actions : List Action) : Pipes where
  unsent := source
  unread := []
  delivered := if source = [] then some true else none
  isOpen := true
  stdout := []
  stderr := []
  ahead := actions

def written (s : Pipes) : Stream → Bytes
  | .stdout => s.stdout
  | .stderr => s.stderr

def put (s : Pipes) (stream : Stream) (bytes : Bytes) : Pipes :=
  { s with
    stdout := s.stdout ++ if stream = .stdout then bytes else []
    stderr := s.stderr ++ if stream = .stderr then bytes else [] }

/-- The process could still take input. -/
def listens (s : Pipes) : Bool :=
  s.isOpen && !s.ahead.isEmpty

/-- The parent writes what fits into the pipe, and gives up if nobody is left to take it. -/
def send (room bytes : Nat) (s : Pipes) : Pipes :=
  if s.delivered ≠ none then s
  else if s.listens then
    let n := min bytes (room - s.unread.length)
    { s with
      unsent := s.unsent.drop n
      unread := s.unread ++ s.unsent.take n
      delivered := if s.unsent.length ≤ n then some true else none }
  else { s with delivered := some false }

/-- The process takes its next action, or waits for input or for its output to be read. -/
def act (room : Nat) (s : Pipes) : Pipes :=
  match s.ahead with
  | [] => s
  | .read bytes :: rest =>
    if s.delivered = none ∧ s.isOpen ∧ s.unread = [] then s
    else { s with unread := s.unread.drop bytes, ahead := rest }
  | .readAll :: rest =>
    if s.delivered = none ∧ s.isOpen then { s with unread := [] }
    else { s with unread := [], ahead := rest }
  | .closeInput :: rest => { s with unread := [], isOpen := false, ahead := rest }
  | .write stream bytes :: rest =>
    if s.delivered = none ∧ room < (s.written stream).length + bytes.length then s
    else { s.put stream bytes with ahead := rest }

def turn (room : Nat) (s : Pipes) : Turn → Pipes
  | .parent bytes => s.send room bytes
  | .child => s.act room

def after (room : Nat) (s : Pipes) (turns : List Turn) : Pipes :=
  turns.foldl (turn room) s

/-- How the process has behaved, if it has ended and the parent knows what became of the source. -/
def behaviour? (s : Pipes) (ending : Ending) : Option Behaviour :=
  if s.ahead = [] then s.delivered.map fun d => ⟨d, s.stdout, s.stderr, ending⟩ else none

end Pipes

namespace Child

/-- How far a child and its parent have come after these turns. -/
def after (room : Nat) (turns : List Turn) (source : Text) (c : Child) : Pipes :=
  (Pipes.start (Text.Utf8.encode source) c.actions).after room turns

/-- The exchange that they have had, if it is over. -/
def meet (room : Nat) (turns : List Turn) (source : Text) (c : Child) : Option Exchange :=
  ((c.after room turns source).behaviour? c.ending).map .ended

end Child

end TemplateTypes
