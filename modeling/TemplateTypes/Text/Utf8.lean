import TemplateTypes.Text.Basic

/-!
# UTF-8 — texts as bytes

Decoding never fails: a stretch of bytes that spells no character, as long as it could still have
become one, is read as one `none`.  The strict reading refuses any such stretch, the lenient one
puts the replacement character in its place.  Main statement: what was encoded is decoded
character by character, whatever follows (`decode_encode_append`).
-/

namespace TemplateTypes

abbrev Bytes := List UInt8

namespace Text.Utf8

/-! ## 1. Encoding -/

def encodeChar (c : Char) : Bytes :=
  let n := c.toNat
  if n < 0x80 then [.ofNat n]
  else if n < 0x800 then [.ofNat (0xC0 + n / 64), .ofNat (0x80 + n % 64)]
  else if n < 0x10000 then
    [.ofNat (0xE0 + n / 4096), .ofNat (0x80 + n / 64 % 64), .ofNat (0x80 + n % 64)]
  else
    [.ofNat (0xF0 + n / 262144), .ofNat (0x80 + n / 4096 % 64), .ofNat (0x80 + n / 64 % 64),
      .ofNat (0x80 + n % 64)]

def encode (t : Text) : Bytes :=
  t.flatMap encodeChar

/-! ## 2. Decoding -/

/-- A character under way: `more` bytes after the next one, the bits so far, and the bounds of
the next byte. -/
structure Partial where
  more : Nat
  bits : Nat
  low : Nat
  high : Nat

/-- What a byte can open: a character of its own, a longer one, or nothing. -/
inductive Lead where
  | whole (c : Char)
  | opens (p : Partial)
  | nothing

/-- The bounds of the second byte shut out overlong forms, surrogates and values past the last
code point. -/
def Lead.ofByte (b : Nat) : Lead :=
  if b < 0x80 then .whole (Char.ofNat b)
  else if b < 0xC2 then .nothing
  else if b < 0xE0 then .opens ⟨0, b - 0xC0, 0x80, 0xBF⟩
  else if b = 0xE0 then .opens ⟨1, 0, 0xA0, 0xBF⟩
  else if b = 0xED then .opens ⟨1, 0xD, 0x80, 0x9F⟩
  else if b < 0xF0 then .opens ⟨1, b - 0xE0, 0x80, 0xBF⟩
  else if b = 0xF0 then .opens ⟨2, 0, 0x90, 0xBF⟩
  else if b < 0xF4 then .opens ⟨2, b - 0xF0, 0x80, 0xBF⟩
  else if b = 0xF4 then .opens ⟨2, 4, 0x80, 0x8F⟩
  else .nothing

/-- A byte out of bounds ends the character under way and is then read afresh. -/
def decodeFrom : Option Partial → Bytes → List (Option Char)
  | none, [] => []
  | some _, [] => [none]
  | none, b :: r =>
    match Lead.ofByte b.toNat with
    | .whole c => some c :: decodeFrom none r
    | .opens p => decodeFrom (some p) r
    | .nothing => none :: decodeFrom none r
  | some p, b :: r =>
    if p.low ≤ b.toNat ∧ b.toNat ≤ p.high then
      let bits := p.bits * 64 + (b.toNat - 0x80)
      if p.more = 0 then some (Char.ofNat bits) :: decodeFrom none r
      else decodeFrom (some ⟨p.more - 1, bits, 0x80, 0xBF⟩) r
    else
      match Lead.ofByte b.toNat with
      | .whole c => none :: some c :: decodeFrom none r
      | .opens q => none :: decodeFrom (some q) r
      | .nothing => none :: none :: decodeFrom none r

/-- The characters that the bytes spell, with one `none` for each ill-formed stretch. -/
def decode (b : Bytes) : List (Option Char) :=
  decodeFrom none b

/-- The text, if every element is a character. -/
def allChars? : List (Option Char) → Option Text
  | [] => some []
  | none :: _ => none
  | some c :: r => (allChars? r).map (c :: ·)

def decode? (b : Bytes) : Option Text :=
  allChars? (decode b)

/-- Each ill-formed stretch becomes U+FFFD. -/
def decodeLossy (b : Bytes) : Text :=
  (decode b).map (·.getD '\ufffd')

/-! ## 3. One byte -/

theorem decodeFrom_whole {b : Nat} {c : Char} (hb : b < 256) (h : Lead.ofByte b = .whole c)
    (r : Bytes) : decodeFrom none (.ofNat b :: r) = some c :: decodeFrom none r := by
  rw [decodeFrom, UInt8.toNat_ofNat_of_lt' hb, h]

theorem decodeFrom_opens {b : Nat} {p : Partial} (hb : b < 256) (h : Lead.ofByte b = .opens p)
    (r : Bytes) : decodeFrom none (.ofNat b :: r) = decodeFrom (some p) r := by
  rw [decodeFrom, UInt8.toNat_ofNat_of_lt' hb, h]

section Within

variable {bits low high d : Nat} (hd : d < 64) (hlow : low ≤ 0x80 + d) (hhigh : 0x80 + d ≤ high)
include hd hlow hhigh

/-- A byte within its bounds adds six bits. -/
theorem decodeFrom_more (more : Nat) (r : Bytes) :
    decodeFrom (some ⟨more + 1, bits, low, high⟩) (.ofNat (0x80 + d) :: r) =
      decodeFrom (some ⟨more, bits * 64 + d, 0x80, 0xBF⟩) r := by
  have hbyte : 0x80 + d < 256 := by omega
  simp only [decodeFrom, UInt8.toNat_ofNat_of_lt' hbyte, hlow, hhigh, and_self, if_true,
    Nat.add_sub_cancel_left, Nat.add_sub_cancel, Nat.succ_ne_zero, if_false]

theorem decodeFrom_last (r : Bytes) :
    decodeFrom (some ⟨0, bits, low, high⟩) (.ofNat (0x80 + d) :: r) =
      some (Char.ofNat (bits * 64 + d)) :: decodeFrom none r := by
  have hbyte : 0x80 + d < 256 := by omega
  simp only [decodeFrom, UInt8.toNat_ofNat_of_lt' hbyte, hlow, hhigh, and_self, if_true,
    Nat.add_sub_cancel_left]

end Within

theorem ofByte_of_lt {n : Nat} (h : n < 0x80) : Lead.ofByte n = .whole (Char.ofNat n) :=
  if_pos h

theorem ofByte_two {a : Nat} (hlong : 2 ≤ a) (ha : a < 32) :
    Lead.ofByte (0xC0 + a) = .opens ⟨0, a, 0x80, 0xBF⟩ := by
  unfold Lead.ofByte
  rw [if_neg (by omega), if_neg (by omega), if_pos (by omega), Nat.add_sub_cancel_left]

/-- The second of three bytes is within its bounds, since the character is neither overlong nor a
surrogate. -/
theorem exists_ofByte_three {a d : Nat} (ha : a < 16) (hd : d < 64) (hlong : 0x20 ≤ a * 64 + d)
    (hsurrogate : a * 64 + d < 0x360 ∨ 0x37F < a * 64 + d) :
    ∃ low high, Lead.ofByte (0xE0 + a) = .opens ⟨1, a, low, high⟩ ∧
      low ≤ 0x80 + d ∧ 0x80 + d ≤ high := by
  unfold Lead.ofByte
  rw [if_neg (by omega), if_neg (by omega), if_neg (by omega)]
  by_cases h0 : a = 0
  · subst h0
    exact ⟨0xA0, 0xBF, rfl, by omega, by omega⟩
  by_cases hs : a = 0xD
  · subst hs
    exact ⟨0x80, 0x9F, rfl, by omega, by omega⟩
  · refine ⟨0x80, 0xBF, ?_, by omega, by omega⟩
    rw [if_neg (by omega), if_neg (by omega), if_pos (by omega), Nat.add_sub_cancel_left]

/-- The second of four bytes is within its bounds, since the character is neither overlong nor past
the last code point. -/
theorem exists_ofByte_four {a d : Nat} (hd : d < 64) (hlong : 0x10 ≤ a * 64 + d)
    (hlast : a * 64 + d < 0x110) :
    ∃ low high, Lead.ofByte (0xF0 + a) = .opens ⟨2, a, low, high⟩ ∧
      low ≤ 0x80 + d ∧ 0x80 + d ≤ high := by
  unfold Lead.ofByte
  rw [if_neg (by omega), if_neg (by omega), if_neg (by omega), if_neg (by omega),
    if_neg (by omega), if_neg (by omega)]
  by_cases h0 : a = 0
  · subst h0
    exact ⟨0x90, 0xBF, rfl, by omega, by omega⟩
  by_cases h4 : a = 4
  · subst h4
    exact ⟨0x80, 0x8F, rfl, by omega, by omega⟩
  · refine ⟨0x80, 0xBF, ?_, by omega, by omega⟩
    rw [if_neg (by omega), if_pos (by omega), Nat.add_sub_cancel_left]

/-! ## 4. Decoding what was encoded -/

theorem toNat_lt_surrogates_or (c : Char) :
    c.toNat < 0xD800 ∨ (0xDFFF < c.toNat ∧ c.toNat < 0x110000) :=
  c.valid

theorem decode_encodeChar_append (c : Char) (r : Bytes) :
    decode (encodeChar c ++ r) = some c :: decode r := by
  have hc := toNat_lt_surrogates_or c
  have hof : Char.ofNat c.toNat = c := Char.ofNat_toNat c
  have hlast : c.toNat % 64 < 64 := Nat.mod_lt _ (by decide)
  unfold encodeChar decode
  generalize c.toNat = n at *
  -- One case for each number of bytes; the bits of all bytes together are the code point.
  by_cases h1 : n < 0x80
  · simp only [h1, if_true, List.cons_append, List.nil_append]
    rw [decodeFrom_whole (by omega) (ofByte_of_lt h1), hof]
  by_cases h2 : n < 0x800
  · have hbits : n / 64 * 64 + n % 64 = n := by omega
    simp only [h1, h2, if_true, if_false, List.cons_append, List.nil_append]
    rw [decodeFrom_opens (by omega) (ofByte_two (by omega) (by omega)),
      decodeFrom_last hlast (by omega) (by omega), hbits, hof]
  by_cases h3 : n < 0x10000
  · have hd : n / 64 % 64 < 64 := Nat.mod_lt _ (by decide)
    have hbits : (n / 4096 * 64 + n / 64 % 64) * 64 + n % 64 = n := by omega
    obtain ⟨low, high, hlead, hlow, hhigh⟩ :=
      exists_ofByte_three (show n / 4096 < 16 by omega) hd (by omega) (by omega)
    simp only [h1, h2, h3, if_true, if_false, List.cons_append, List.nil_append]
    rw [decodeFrom_opens (by omega) hlead, decodeFrom_more hd hlow hhigh,
      decodeFrom_last hlast (by omega) (by omega), hbits, hof]
  · have hd : n / 4096 % 64 < 64 := Nat.mod_lt _ (by decide)
    have hd' : n / 64 % 64 < 64 := Nat.mod_lt _ (by decide)
    have hbits : ((n / 262144 * 64 + n / 4096 % 64) * 64 + n / 64 % 64) * 64 + n % 64 = n := by
      omega
    obtain ⟨low, high, hlead, hlow, hhigh⟩ :=
      exists_ofByte_four (a := n / 262144) hd (by omega) (by omega)
    simp only [h1, h2, h3, if_false, List.cons_append, List.nil_append]
    rw [decodeFrom_opens (by omega) hlead, decodeFrom_more hd hlow hhigh,
      decodeFrom_more hd' (by omega) (by omega), decodeFrom_last hlast (by omega) (by omega),
      hbits, hof]

theorem decode_encode_append (t : Text) (r : Bytes) :
    decode (encode t ++ r) = t.map some ++ decode r := by
  induction t with
  | nil => rfl
  | cons c t ih =>
    rw [encode, List.flatMap_cons, List.append_assoc, decode_encodeChar_append, ← encode, ih]
    rfl

theorem decode_encode (t : Text) : decode (encode t) = t.map some := by
  simpa [decode, decodeFrom] using decode_encode_append t []

@[simp] theorem allChars?_map_some (t : Text) : allChars? (t.map some) = some t := by
  induction t with
  | nil => rfl
  | cons c t ih => simp [allChars?, ih]

/-- Strict decoding inverts encoding. -/
theorem decode?_encode (t : Text) : decode? (encode t) = some t := by
  simp [decode?, decode_encode]

end Text.Utf8

end TemplateTypes
