import Mathlib.Data.List.Infix
import TemplateTypes.Comment
import TemplateTypes.Proofs.Trimming

/-!
# Comment blocks — where a block begins and ends

An interior never holds a closing marker, because the first one behind the start marker ends the
block.  Conversely a start marker, a text without a closing marker, and a closing marker written
one after the other are read as a block with that text as its interior.
-/

namespace TemplateTypes.Comment

/-- Nothing in the text closes a block. -/
def Unclosed (t : Text) : Prop := ¬ closingMarker <:+: t

instance (t : Text) : Decidable (Unclosed t) :=
  inferInstanceAs (Decidable (¬ closingMarker <:+: t))

theorem Unclosed.mono {s t : Text} (h : Unclosed t) (hs : s <:+: t) : Unclosed s :=
  fun hc => h (hc.trans hs)

theorem unclosed_nil : Unclosed [] := by
  intro h
  simp [closingMarker] at h

/-! ## 1. The closing marker -/

theorem unclosed_cons {c : Char} {t : Text} (h : Unclosed t)
    (hc : c = '#' → '}' ∉ t.head?) : Unclosed (c :: t) := by
  intro hi
  rcases List.infix_cons_iff.1 hi with hp | ht
  · obtain ⟨u, hu⟩ := hp
    cases hu
    exact hc rfl rfl
  · exact h ht

theorem Unclosed.head {t : Text} (h : Unclosed ('#' :: t)) : '}' ∉ t.head? := by
  intro ht
  obtain ⟨u, rfl⟩ := List.head?_eq_some_iff.1 ht
  exact h ⟨[], u, rfl⟩

/-- Two texts without a closing marker can only make one where they meet. -/
theorem Unclosed.append {s t : Text} (hs : Unclosed s) (ht : Unclosed t)
    (hm : '#' ∈ s.getLast? → '}' ∉ t.head?) : Unclosed (s ++ t) := by
  induction s with
  | nil => exact ht
  | cons c s ih =>
    have hs' : Unclosed s := hs.mono (List.suffix_cons c s).isInfix
    rw [List.cons_append]
    cases s with
    | nil =>
      apply unclosed_cons ht
      rintro rfl
      exact hm rfl
    | cons d s =>
      apply unclosed_cons (ih hs' (fun h => hm (by simpa using h)))
      rintro rfl
      exact hs.head

theorem Unclosed.append_cons {s t : Text} {c : Char} (hs : Unclosed s) (ht : Unclosed t)
    (hc : c ≠ '#' ∧ c ≠ '}') : Unclosed (s ++ c :: t) := by
  refine hs.append (unclosed_cons ht fun h => absurd h hc.1) fun _ h => hc.2 ?_
  exact Option.some.inj h

theorem unclosed_flatMap_lineFeed {ls : List Text} (h : ∀ l ∈ ls, Unclosed l) :
    Unclosed (ls.flatMap (· ++ ['\n'])) := by
  induction ls with
  | nil => exact unclosed_nil
  | cons l ls ih =>
    have hl : Unclosed l := h l List.mem_cons_self
    have hls : ∀ k ∈ ls, Unclosed k := fun k hk => h k (List.mem_cons_of_mem l hk)
    rw [List.flatMap_cons, List.append_assoc, List.singleton_append]
    exact hl.append_cons (ih hls) (by decide)

theorem cutClosing?_append {a : Text} (h : Unclosed a) (r : Text) :
    cutClosing? (a ++ (closingMarker ++ r)) = some (a, r) := by
  induction a with
  | nil => simp [closingMarker, cutClosing?]
  | cons c a ih =>
    have ha : Unclosed a := h.mono (List.suffix_cons c a).isInfix
    rw [List.cons_append, cutClosing?, ih ha]
    · rfl
    · -- A marker could only begin at `c` if it lay in `a` or ended at the hash behind it.
      rintro u rfl hu
      cases a with
      | nil => simp [closingMarker] at hu
      | cons d a =>
        cases hu
        exact h.head rfl

theorem eq_of_cutClosing? {t a r : Text} (h : cutClosing? t = some (a, r)) :
    t = a ++ (closingMarker ++ r) ∧ Unclosed a := by
  induction t using cutClosing?.induct generalizing a with
  | case1 => simp [cutClosing?] at h
  | case2 t =>
    rw [cutClosing?] at h
    cases h
    exact ⟨rfl, unclosed_nil⟩
  | case3 c t hne ih =>
    rw [cutClosing?] at h
    · -- The scan went past `c`, so no marker begins there and `ih` speaks of the rest.
      obtain ⟨s, hs, he⟩ := Option.map_eq_some_iff.1 h
      cases he
      obtain ⟨rfl, hu⟩ := ih hs
      refine ⟨rfl, unclosed_cons hu ?_⟩
      rintro rfl hh
      obtain ⟨u, hu'⟩ := List.head?_eq_some_iff.1 hh
      exact hne (u ++ (closingMarker ++ s.2)) rfl (by rw [hu']; rfl)
    · exact hne

/-! ## 2. The start marker -/

/-- A label that white space in front of it cannot swallow. -/
def IsVisible (label : Text) : Prop := ∃ c ∈ label.head?, Text.isBlank c = false

theorem afterMarker?_append {label w : Text} (hl : IsVisible label) (hw : Text.AllBlank w)
    (r : Text) : afterMarker? label ('{' :: '#' :: (w ++ (label ++ r))) = some r := by
  obtain ⟨c, hc, hb⟩ := hl
  obtain ⟨l, rfl⟩ := List.head?_eq_some_iff.1 hc
  rw [afterMarker?, List.dropWhile_append_of_pos hw, List.cons_append,
    List.dropWhile_cons_of_neg (by simp [hb]), ← List.cons_append, Text.after?_eq_some_iff]

theorem eq_of_afterMarker? {label t r : Text} (h : afterMarker? label t = some r) :
    ∃ w, Text.AllBlank w ∧ t = '{' :: '#' :: (w ++ (label ++ r)) := by
  unfold afterMarker? at h
  split at h
  · rename_i u
    rw [Text.after?_eq_some_iff] at h
    refine ⟨u.takeWhile Text.isBlank, fun _ hc => List.mem_takeWhile_imp hc, ?_⟩
    rw [← h, List.takeWhile_append_dropWhile]
  · cases h

/-! ## 3. Blocks -/

theorem block?_append {label w s : Text} (hl : IsVisible label) (hw : Text.AllBlank w)
    (hs : Unclosed s) (r : Text) :
    block? label ('{' :: '#' :: (w ++ (label ++ (s ++ (closingMarker ++ r))))) = some (s, r) := by
  rw [block?, afterMarker?_append hl hw, Option.bind_some, cutClosing?_append hs]

theorem eq_of_block? {label t s r : Text} (h : block? label t = some (s, r)) :
    Unclosed s ∧ ∃ w, Text.AllBlank w ∧
      t = '{' :: '#' :: (w ++ (label ++ (s ++ (closingMarker ++ r)))) := by
  obtain ⟨u, hu, hs⟩ := Option.bind_eq_some_iff.1 h
  obtain ⟨rfl, ho⟩ := eq_of_cutClosing? hs
  exact ⟨ho, eq_of_afterMarker? hu⟩

theorem unclosed_of_mem_interiors {label t s : Text} (h : s ∈ interiors label t) :
    Unclosed s := by
  induction t using interiors.induct label with
  | case1 => simp at h
  | case2 c t a r hb ih =>
    rw [interiors_of_block? hb] at h
    rcases List.mem_cons.1 h with rfl | h
    · exact (eq_of_block? hb).1
    · exact ih h
  | case3 c t hb ih =>
    rw [interiors_cons_of_not_block hb] at h
    exact ih h

theorem unclosed_of_first? {label t s : Text} (h : first? label t = some s) : Unclosed s :=
  unclosed_of_mem_interiors (List.mem_of_head? h)

/-- The text begins with a block, so this block is its first. -/
theorem first?_of_block? {label t s r : Text} (h : block? label t = some (s, r)) :
    first? label t = some s := by
  rw [first?, interiors_of_block? h]
  rfl

/-- Somewhere in the text stands a start marker, and somewhere behind it a closing marker. -/
def HasBlock (label t : Text) : Prop :=
  ∃ p w s q, Text.AllBlank w ∧
    t = p ++ ('{' :: '#' :: (w ++ (label ++ (s ++ (closingMarker ++ q)))))

theorem cutClosing?_ne_none (s q : Text) : cutClosing? (s ++ (closingMarker ++ q)) ≠ none := by
  induction s with
  | nil => simp [closingMarker, cutClosing?]
  | cons c s ih =>
    rw [List.cons_append]
    unfold cutClosing?
    split <;> simp_all

theorem first?_eq_none_iff {label t : Text} (hl : IsVisible label) :
    first? label t = none ↔ ¬ HasBlock label t := by
  rw [first?, List.head?_eq_none_iff]
  induction t using interiors.induct label with
  | case1 =>
    have : ¬ HasBlock label [] := by
      rintro ⟨p, w, s, q, -, h⟩
      simp at h
    simpa using this
  | case2 c t a r hb ih =>
    obtain ⟨-, w, hw, ht⟩ := eq_of_block? hb
    have : HasBlock label (c :: t) := ⟨[], w, a, r, hw, ht⟩
    rw [interiors_of_block? hb]
    simpa using this
  | case3 c t hb ih =>
    rw [interiors_cons_of_not_block hb, ih, not_iff_not]
    constructor
    · rintro ⟨p, w, s, q, hw, rfl⟩
      exact ⟨c :: p, w, s, q, hw, rfl⟩
    · rintro ⟨p, w, s, q, hw, ht⟩
      cases p with
      | nil =>
        -- The block would begin at the first character, where there is none.
        rw [List.nil_append] at ht
        rw [ht, block?, afterMarker?_append hl hw, Option.bind_some] at hb
        exact absurd hb (cutClosing?_ne_none s q)
      | cons d p =>
        obtain ⟨-, rfl⟩ := List.cons.inj ht
        exact ⟨p, w, s, q, hw, rfl⟩

end TemplateTypes.Comment
