import Mathlib
import QueryLint.Proofs.Text.Word
import QueryLint.Text.Quoted

/-!
# What the case of letters does not matter to

Two texts with the same letters have their words at the same places (`IsRun.of_sameLetters`) and the
same quoted stretches (`quotedStretches_congr`): whether a character belongs to words does not hang
on its case, and quotes and backslashes have none.
-/

namespace QueryLint.Text

/-! ## Characters -/

/-- A character that is no letter is the same as every character with its small letter. -/
theorem eq_of_toLower_eq {c d : Char} (h : c.toLower = d.toLower) (hc : c.isAlpha = false) :
    c = d := by
  have hd : d.isAlpha = false := by
    rw [← Char.isAlpha_toLower_eq_isAlpha, ← h, Char.isAlpha_toLower_eq_isAlpha, hc]
  have hlower : ∀ {c : Char}, c.isAlpha = false → c.toLower = c := by
    intro c hc
    refine Char.toLower_eq_of_not_isUpper fun hupper => ?_
    rw [Char.isAlpha, hupper, Bool.true_or] at hc
    cases hc
  rw [hlower hc, hlower hd] at h
  exact h

/-- Whether a character is a given one that is no letter can be told by its small letter. -/
theorem eq_iff_of_toLower_eq {c d q : Char} (h : c.toLower = d.toLower) (hq : q.isAlpha = false) :
    c = q ↔ d = q := by
  constructor
  · rintro rfl
    exact (eq_of_toLower_eq h hq).symm
  · rintro rfl
    exact (eq_of_toLower_eq h.symm hq).symm

/-- A character with the letter of a capital is a letter, and the capital is its own. -/
theorem toUpper_of_toLower_eq {c d : Char} (h : c.toLower = d.toLower) (hd : d.isUpper = true) :
    c.isAlpha = true ∧ d = c.toUpper := by
  constructor
  · rw [← Char.isAlpha_toLower_eq_isAlpha, h, Char.isAlpha_toLower_eq_isAlpha, Char.isAlpha, hd,
      Bool.true_or]
  · have hupper : d.toUpper = d := Char.toUpper_eq_of_not_isLower (Char.not_isLower_of_isUpper hd)
    calc d = d.toUpper := hupper.symm
      _ = d.toLower.toUpper := (Char.toUpper_toLower_eq_toUpper d).symm
      _ = c.toLower.toUpper := by rw [h]
      _ = c.toUpper := Char.toUpper_toLower_eq_toUpper c

/-- Whether a character may stand in a word does not depend on its case. -/
theorem isWordLetter_congr {c d : Char} (h : c.toLower = d.toLower) :
    IsWordLetter c ↔ IsWordLetter d := by
  have halpha : c.isAlpha = d.isAlpha := by
    rw [← Char.isAlpha_toLower_eq_isAlpha, h, Char.isAlpha_toLower_eq_isAlpha]
  rw [← isWordChar_iff, ← isWordChar_iff]
  cases hc : c.isAlpha with
  | true => simp [isWordChar, Char.isAlphanum, ← halpha, hc]
  | false => rw [eq_of_toLower_eq h hc]

/-! ## Texts with the same letters -/

namespace SameLetters

variable {a b : List Char}

theorem length_eq (h : SameLetters a b) : a.length = b.length := by
  simpa using congrArg List.length h

theorem symm (h : SameLetters a b) : SameLetters b a := Eq.symm h

theorem trans {c : List Char} (h : SameLetters a b) (h' : SameLetters b c) : SameLetters a c :=
  Eq.trans h h'

/-- The letters of a text can be compared one by one. -/
theorem iff_getElem? :
    SameLetters a b ↔ ∀ i : Nat, a[i]?.map Char.toLower = b[i]?.map Char.toLower := by
  unfold SameLetters
  rw [List.ext_getElem?_iff]
  simp only [List.getElem?_map]

/-- Word letters stay word letters. -/
theorem forall_isWordLetter (h : SameLetters a b) (hb : ∀ c ∈ b, IsWordLetter c) :
    ∀ c ∈ a, IsWordLetter c := by
  intro c hc
  have hmem : c.toLower ∈ b.map Char.toLower := h ▸ List.mem_map_of_mem hc
  obtain ⟨d, hd, heq⟩ := List.mem_map.1 hmem
  exact (isWordLetter_congr heq).1 (hb d hd)

/-- A character that is no letter is in both texts or in none. -/
theorem mem_iff (h : SameLetters a b) {q : Char} (hq : q.isAlpha = false) : q ∈ a ↔ q ∈ b := by
  have himp : ∀ {a b : List Char}, SameLetters a b → q ∈ a → q ∈ b := by
    intro a b h hmem
    have hlower : q.toLower ∈ b.map Char.toLower := h ▸ List.mem_map_of_mem hmem
    obtain ⟨d, hd, heq⟩ := List.mem_map.1 hlower
    rwa [eq_of_toLower_eq heq.symm hq]
  exact ⟨himp h, himp h.symm⟩

end SameLetters

/-! ## Words -/

/-- The ends of texts with the same letters are word letters, or not, both of them. -/
theorem forall_mem_congr {x y : Option Char} (h : x.map Char.toLower = y.map Char.toLower)
    (hy : ∀ c ∈ y, ¬ IsWordLetter c) : ∀ c ∈ x, ¬ IsWordLetter c := by
  intro c hc
  rw [Option.mem_def.1 hc, Option.map_some] at h
  obtain ⟨d, hd, heq⟩ := Option.map_eq_some_iff.1 h.symm
  rw [isWordLetter_congr heq.symm]
  exact hy d hd

/-- Where a line has a word, every line with the same letters has a word with the same letters. -/
theorem IsRun.of_sameLetters {line line' : List Char} (h : SameLetters line line') {w : Word}
    (hw : IsRun line' w) :
    ∃ v, IsRun line v ∧ v.start = w.start ∧ SameLetters v.text w.text := by
  obtain ⟨before', after', rfl, hstart, hne, hword, hbefore, hafter⟩ := hw
  -- The line is cut where the other one is.
  rw [SameLetters, List.map_append, List.map_append] at h
  obtain ⟨front, after, rfl, hfront, hafter'⟩ := List.map_eq_append_iff.1 h
  obtain ⟨before, text, rfl, hbefore', htext⟩ := List.map_eq_append_iff.1 hfront
  have hlength : before.length = before'.length := SameLetters.length_eq hbefore'
  refine ⟨⟨w.start, text⟩, ⟨before, after, rfl, hlength.trans hstart, ?_, ?_, ?_, ?_⟩, rfl, htext⟩
  · rintro rfl
    exact hne (List.map_eq_nil_iff.1 htext.symm)
  · exact SameLetters.forall_isWordLetter htext hword
  · refine forall_mem_congr ?_ hbefore
    rw [← List.getLast?_map, ← List.getLast?_map, hbefore']
  · refine forall_mem_congr ?_ hafter
    rw [← List.head?_map, ← List.head?_map, hafter']

/-! ## Quoted stretches -/

/-- Quotes are no letters, so they have no case. -/
theorem isAlpha_of_isQuote {c : Char} (h : isQuote c = true) : c.isAlpha = false := by
  rw [isQuote, Bool.or_eq_true, decide_eq_true_eq, decide_eq_true_eq] at h
  rcases h with rfl | rfl <;> decide

theorem isQuote_congr {c d : Char} (h : c.toLower = d.toLower) : isQuote c = isQuote d := by
  unfold isQuote
  rw [decide_eq_decide.2 (eq_iff_of_toLower_eq h (by decide)),
    decide_eq_decide.2 (eq_iff_of_toLower_eq h (by decide))]

/-- A stretch is closed at the same place. -/
theorem closing?_congr {quote : Char} (hquote : quote.isAlpha = false) :
    ∀ {a b : List Char}, SameLetters a b →
      ∀ escaped, closing? quote escaped a = closing? quote escaped b
  | [], [], _, _ => rfl
  | [], d :: b, h, _ => by cases h
  | c :: a, [], h, _ => by cases h
  | c :: a, d :: b, h, escaped => by
    rw [SameLetters, List.map_cons, List.map_cons, List.cons.injEq] at h
    obtain ⟨hcd, hab⟩ := h
    have ih := closing?_congr hquote hab
    have hbackslash : (c = '\\') = (d = '\\') := propext (eq_iff_of_toLower_eq hcd (by decide))
    have hclose : (c = quote) = (d = quote) := propext (eq_iff_of_toLower_eq hcd hquote)
    rw [closing?, closing?]
    simp only [ih, hbackslash, hclose]

/-- Texts of the same letters have their quotes in the same places. The induction is on both at once. -/
theorem quotedFrom_congr :
    ∀ {a b : List Char}, SameLetters a b →
      ∀ skip offset, quotedFrom skip offset a = quotedFrom skip offset b
  | [], [], _, _, _ => rfl
  | [], d :: b, h, _, _ => by cases h
  | c :: a, [], h, _, _ => by cases h
  | c :: a, d :: b, h, skip, offset => by
    rw [SameLetters, List.map_cons, List.map_cons, List.cons.injEq] at h
    obtain ⟨hcd, hab⟩ := h
    have ih := quotedFrom_congr hab
    cases skip with
    | succ skip =>
      rw [quotedFrom, quotedFrom]
      exact ih skip (offset + 1)
    | zero =>
      rw [quotedFrom, quotedFrom]
      cases hc : isQuote c with
      | true =>
        -- A quote is no letter, so both lines have it.
        obtain rfl := eq_of_toLower_eq hcd (isAlpha_of_isQuote hc)
        simp only [hc, closing?_congr (isAlpha_of_isQuote hc) hab, ih]
      | false =>
        have hd : isQuote d = false := isQuote_congr hcd ▸ hc
        simp only [hd, Bool.false_eq_true, if_false, ih]

/-- Lines with the same letters have the same quoted stretches. -/
theorem quotedStretches_congr {a b : List Char} (h : SameLetters a b) :
    quotedStretches a = quotedStretches b :=
  quotedFrom_congr h 0 0

end QueryLint.Text
