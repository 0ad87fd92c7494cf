import TemplateTypes.Text.Utf8

/-!
# JSON — tokens

The tokens of a JSON text, read from decoded bytes: an element that is no character may stand
inside a string and nowhere else.  Escapes are read one code unit at a time and paired up
afterwards.  A reading that meets anything else gives no tokens at all.
-/

namespace TemplateTypes.Json

inductive Token where
  | openList
  | closeList
  | openObject
  | closeObject
  | comma
  | colon
  | null
  | bool (b : Bool)
  | number
  | string (content : Option Text)
deriving DecidableEq, Inhabited

/-! ## 1. Strings -/

/-- One element of a string: a character, half of a surrogate pair, or bytes that spell nothing. -/
inductive Element where
  | char (c : Char)
  | high (unit : Nat)
  | low (unit : Nat)
  | illFormed
deriving DecidableEq

def Element.ofUnit (n : Nat) : Element :=
  if 0xD800 ≤ n ∧ n < 0xDC00 then .high n
  else if 0xDC00 ≤ n ∧ n < 0xE000 then .low n
  else .char (Char.ofNat n)

/-- The character of a surrogate pair. -/
def pairUp (high low : Nat) : Char :=
  Char.ofNat (0x10000 + (high - 0xD800) * 0x400 + (low - 0xDC00))

/-- The text that the elements spell, if they spell one. -/
def spell? : List Element → Option Text
  | [] => some []
  | .char c :: es => (spell? es).map (c :: ·)
  | .high h :: .low l :: es => (spell? es).map (pairUp h l :: ·)
  | _ :: _ => none

def hexValue? (c : Char) : Option Nat :=
  if '0' ≤ c ∧ c ≤ '9' then some (c.toNat - '0'.toNat)
  else if 'a' ≤ c ∧ c ≤ 'f' then some (c.toNat - 'a'.toNat + 10)
  else if 'A' ≤ c ∧ c ≤ 'F' then some (c.toNat - 'A'.toNat + 10)
  else none

/-- The character that an escape of one letter stands for. -/
def escaped? (c : Char) : Option Char :=
  if c = '"' ∨ c = '\\' ∨ c = '/' then some c
  else if c = 'b' then some '\x08'
  else if c = 'f' then some '\x0c'
  else if c = 'n' then some '\n'
  else if c = 'r' then some '\r'
  else if c = 't' then some '\t'
  else none

/-- Where the reading of a string stands: between elements, behind a backslash, or behind some
digits of a code unit. -/
inductive Within where
  | plain
  | escape
  | unit (digits value : Nat)

/-- Reads up to the closing quote: the elements, and what follows. -/
def readElements : Within → List (Option Char) → Option (List Element × List (Option Char))
  | _, [] => none
  | .plain, none :: r => (readElements .plain r).map fun s => (.illFormed :: s.1, s.2)
  | .plain, some c :: r =>
    if c = '"' then some ([], r)
    else if c = '\\' then readElements .escape r
    else if c.toNat < 0x20 then none
    else (readElements .plain r).map fun s => (.char c :: s.1, s.2)
  | .escape, none :: _ => none
  | .escape, some c :: r =>
    if c = 'u' then readElements (.unit 0 0) r
    else
      match escaped? c with
      | none => none
      | some d => (readElements .plain r).map fun s => (.char d :: s.1, s.2)
  | .unit _ _, none :: _ => none
  | .unit k v, some c :: r =>
    match hexValue? c with
    | none => none
    | some h =>
      if k = 3 then (readElements .plain r).map fun s => (.ofUnit (16 * v + h) :: s.1, s.2)
      else readElements (.unit (k + 1) (16 * v + h)) r

/-! ## 2. Numbers -/

def isDigit (c : Char) : Bool := '0' ≤ c && c ≤ '9'

def isNumberChar (c : Char) : Bool :=
  isDigit c || c == '-' || c == '+' || c == '.' || c == 'e' || c == 'E'

/-- At least one digit at the front; what follows the digits. -/
def afterDigits? (t : Text) : Option Text :=
  if (t.takeWhile isDigit).isEmpty then none else some (t.dropWhile isDigit)

def afterWhole? : Text → Option Text
  | '0' :: t => some t
  | t => afterDigits? t

def afterFraction? : Text → Option Text
  | '.' :: t => afterDigits? t
  | t => some t

def isExponent : Text → Bool
  | [] => true
  | c :: t =>
    if c = 'e' ∨ c = 'E' then
      let digits := match t with
        | '+' :: u => u
        | '-' :: u => u
        | u => u
      afterDigits? digits = some []
    else false

/-- A sign, a whole part without leading zeros, a fraction and an exponent, of which only the whole
part must be there. -/
def isNumber (t : Text) : Bool :=
  let unsigned := match t with
    | '-' :: u => u
    | u => u
  match (afterWhole? unsigned).bind afterFraction? with
  | some e => isExponent e
  | none => false

/-- The characters at the front that can stand in a number, and what follows them. -/
def cutNumber : List (Option Char) → Text × List (Option Char)
  | some c :: r =>
    if isNumberChar c then (c :: (cutNumber r).1, (cutNumber r).2) else ([], some c :: r)
  | r => ([], r)

/-! ## 3. One token -/

def isSpace (c : Option Char) : Bool :=
  c == some ' ' || c == some '\n' || c == some '\t' || c == some '\r'

/-- The token that begins with `c`, and what follows it. -/
def token? : Option Char → List (Option Char) → Option (Token × List (Option Char))
  | some '[', r => some (.openList, r)
  | some ']', r => some (.closeList, r)
  | some '{', r => some (.openObject, r)
  | some '}', r => some (.closeObject, r)
  | some ',', r => some (.comma, r)
  | some ':', r => some (.colon, r)
  | some '"', r => (readElements .plain r).map fun s => (.string (spell? s.1), s.2)
  | some 'n', some 'u' :: some 'l' :: some 'l' :: r => some (.null, r)
  | some 't', some 'r' :: some 'u' :: some 'e' :: r => some (.bool true, r)
  | some 'f', some 'a' :: some 'l' :: some 's' :: some 'e' :: r => some (.bool false, r)
  | some c, r =>
    if isNumber (c :: (cutNumber r).1) then some (.number, (cutNumber r).2) else none
  | none, _ => none

theorem length_le_of_readElements {w : Within} {t : List (Option Char)} {es : List Element}
    {r : List (Option Char)} (h : readElements w t = some (es, r)) : r.length ≤ t.length := by
  induction t generalizing w es with
  | nil => simp [readElements] at h
  | cons x t ih =>
    have next {w' : Within} {f : List Element × List (Option Char) → List Element}
        (hf : ((readElements w' t).map fun s => (f s, s.2)) = some (es, r)) :
        r.length ≤ t.length := by
      obtain ⟨s, hs, he⟩ := Option.map_eq_some_iff.1 hf
      cases he
      exact ih hs
    have step : r.length ≤ t.length := by
      cases w <;> cases x <;> simp only [readElements] at h
      · exact next h
      · split at h
        · cases h
          exact Nat.le_refl _
        split at h
        · exact ih h
        split at h
        · cases h
        · exact next h
      · cases h
      · split at h
        · exact ih h
        split at h
        · cases h
        · exact next h
      · cases h
      · split at h
        · cases h
        split at h
        · exact next h
        · exact ih h
    simp
    omega

theorem length_cutNumber_le (t : List (Option Char)) : (cutNumber t).2.length ≤ t.length := by
  induction t with
  | nil => simp [cutNumber]
  | cons x t ih =>
    cases x with
    | none => simp [cutNumber]
    | some c =>
      by_cases h : isNumberChar c
      · simp [cutNumber, h]
        omega
      · simp [cutNumber, h]

theorem length_le_of_token? {c : Option Char} {t r : List (Option Char)} {k : Token}
    (h : token? c t = some (k, r)) : r.length ≤ t.length := by
  unfold token? at h
  split at h <;> try (cases h <;> simp <;> omega)
  · obtain ⟨s, hs, he⟩ := Option.map_eq_some_iff.1 h
    cases he
    exact length_le_of_readElements hs
  · have := length_cutNumber_le t
    split at h
    · cases h
      exact this
    · cases h

/-! ## 4. All tokens -/

theorem length_lt_of_skip {t r : List (Option Char)} {c : Option Char}
    (h : t.dropWhile isSpace = c :: r) : r.length < t.length := by
  have := (List.dropWhile_sublist (l := t) isSpace).length_le
  rw [h] at this
  simp at this
  omega

/-- White space may stand between tokens. -/
def tokens (t : List (Option Char)) : Option (List Token) :=
  match _h : t.dropWhile isSpace with
  | [] => some []
  | c :: r =>
    match _k : token? c r with
    | none => none
    | some (token, rest) => (tokens rest).map (token :: ·)
termination_by t.length
decreasing_by
  have := length_lt_of_skip _h
  have := length_le_of_token? _k
  omega

end TemplateTypes.Json
