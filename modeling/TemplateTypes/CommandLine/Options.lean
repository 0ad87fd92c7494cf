import TemplateTypes.Text.Basic

/-!
# Command-line arguments

Arguments are options and operands in any order.  An option is named by one letter behind a dash or
by a word behind two; letters can share a dash.  Some options take a value: attached, behind an
equals sign, or as the next argument, which then must not look like an option.  Two dashes end the
options.  A lone dash is an operand.
-/

namespace TemplateTypes.CommandLine

structure OptionSpec where
  letter : Option Char
  word : Text
  takesValue : Bool
deriving DecidableEq, Inhabited

/-- One thing that the arguments give, an option by its word. -/
inductive Given where
  | flag (word : Text)
  | value (word : Text) (value : Text)
  | operand (t : Text)
deriving DecidableEq, Inhabited

def byLetter? (specs : List OptionSpec) (c : Char) : Option OptionSpec :=
  specs.find? fun s => s.letter = some c

def byWord? (specs : List OptionSpec) (word : Text) : Option OptionSpec :=
  specs.find? fun s => s.word = word

def looksLikeOption (t : Text) : Bool :=
  t.head? = some '-' && t ≠ ['-']

/-- An equals sign between a letter and its value belongs to neither. -/
def attached : Text → Text
  | '=' :: t => t
  | t => t

/-- What the letters behind one dash give, and the option that still wants a value. -/
def letters (specs : List OptionSpec) : Text → Option (List Given × Option OptionSpec)
  | [] => some ([], none)
  | c :: t =>
    match byLetter? specs c with
    | none => none
    | some s =>
      if s.takesValue then
        if t = [] then some ([], some s) else some ([.value s.word (attached t)], none)
      else (letters specs t).map fun g => (.flag s.word :: g.1, g.2)

/-- What a word behind two dashes gives, or the option that still wants a value. -/
def word (specs : List OptionSpec) (t : Text) : Option (List Given × Option OptionSpec) :=
  match Text.cut? '=' t with
  | some (name, v) =>
    (byWord? specs name).bind fun s =>
      if s.takesValue then some ([.value s.word v], none) else none
  | none =>
    (byWord? specs t).map fun s =>
      if s.takesValue then ([], some s) else ([.flag s.word], none)

/-- What one argument gives before the options end. -/
def argument (specs : List OptionSpec) : Text → Option (List Given × Option OptionSpec)
  | '-' :: '-' :: t => word specs t
  | ['-'] => some ([.operand ['-']], none)
  | '-' :: t => letters specs t
  | t => some ([.operand t], none)

/-- Everything that the arguments give, in order; nothing where they are wrong. -/
def scan? (specs : List OptionSpec) : List Text → Option (List Given)
  | [] => some []
  | a :: rest =>
    if a = ['-', '-'] then some (rest.map .operand)
    else
      match argument specs a, rest with
      | none, _ => none
      | some (given, none), rest => (scan? specs rest).map (given ++ ·)
      | some (_, some _), [] => none
      | some (given, some s), v :: rest =>
        if looksLikeOption v then none
        else (scan? specs rest).map fun more => given ++ .value s.word v :: more

namespace Given

/-- The option that was given, if it is one. -/
def word? : Given → Option Text
  | .flag w => some w
  | .value w _ => some w
  | .operand _ => none

def operand? : Given → Option Text
  | .operand t => some t
  | _ => none

end Given

def operands (gs : List Given) : List Text :=
  gs.filterMap Given.operand?

/-- No option stands twice. -/
def distinctOptions (gs : List Given) : Bool :=
  decide (gs.filterMap Given.word?).Nodup

def valueOf? (gs : List Given) (w : Text) : Option Text :=
  gs.findSome? fun
    | .value w' v => if w' = w then some v else none
    | _ => none

/-! ## Outcomes -/

/-- What a run leaves on its outputs, and its exit code. -/
structure Outcome where
  code : Nat
  stdout : Text
  stderr : Text
deriving DecidableEq, Inhabited

/-- Wrong arguments end a run before it starts. -/
def Outcome.usage (message : Text) : Outcome :=
  ⟨2, [], message⟩

end TemplateTypes.CommandLine
