import Mathlib.Data.List.Basic
import QueryLint.Proofs.Text.Word
import QueryLint.Text.Lowercase

/-!
# Lower case and ASCII

Two characters beyond ASCII have an ASCII letter in their lower-case form, and they are easily told
apart from the letter itself: the capital I with a dot leaves its dot behind, which is not ASCII, and
the Kelvin sign becomes a `k`. A text whose lower case is in ASCII and has no `k` is therefore in ASCII
itself, and letters of all scripts come to the same as ASCII letters (`lowercase_eq_iff`).
-/

namespace QueryLint.Text

/-- The small form of an ASCII character is a single character. -/
theorem lowercaseChar_of_ascii {c : Char} (h : c.toNat < 128) : lowercaseChar c = [c.toLower] :=
  if_pos h

/-- The capitals of a run become characters beyond ASCII, the Kelvin sign apart. -/
theorem shift_lowercaseRuns : ∀ run ∈ lowercaseRuns, ∀ code, run.contains code = true →
    (code = 0x212A ∧ run.shift = -8383) ∨
      (128 ≤ (code + run.shift).toNat ∧ (code + run.shift).toNat.isValidChar) := by
  -- A run is judged by its ends: it stays on one side of the surrogates.
  have hends : ∀ run ∈ lowercaseRuns,
      (run.first = 0x212A ∧ run.last = 0x212A ∧ run.shift = -8383)
        ∨ (128 ≤ run.first + run.shift ∧ run.last + run.shift < 0xD800)
        ∨ (0xDFFF < run.first + run.shift ∧ run.last + run.shift < 0x110000) := by decide +kernel
  intro run hrun code hcode
  simp only [LowercaseRun.contains, Bool.and_eq_true, decide_eq_true_eq] at hcode
  have := hcode.1
  rw [Nat.isValidChar]
  rcases hends run hrun with h | h | h <;> omega

/-- A character beyond ASCII leaves something beyond ASCII in its lower-case form, or a `k`. -/
theorem lowercaseChar_of_not_ascii {c : Char} (h : ¬ c.toNat < 128) :
    ∃ d ∈ lowercaseChar c, 128 ≤ d.toNat ∨ d = 'k' := by
  rw [lowercaseChar, if_neg h]
  split
  · exact ⟨Char.ofNat 0x307, by simp, .inl (by decide)⟩
  · split
    next run hfind =>
      refine ⟨_, List.mem_singleton_self _, ?_⟩
      rcases shift_lowercaseRuns run (List.mem_of_find?_eq_some hfind) c.toNat
        (by simpa using List.find?_some hfind) with ⟨hcode, hshift⟩ | ⟨hlow, hvalid⟩
      · rw [hcode, hshift]
        exact .inr (by decide)
      · rw [Char.ofNat, dif_pos hvalid]
        exact .inl hlow
    next => exact ⟨c, List.mem_singleton_self c, .inl (Nat.le_of_not_lt h)⟩

/-- In ASCII only ASCII letters have another form. -/
theorem lowercase_of_ascii {text : List Char} (h : ∀ c ∈ text, c.toNat < 128) :
    lowercase text = text.map Char.toLower := by
  rw [lowercase, List.flatMap_congr fun c hc => lowercaseChar_of_ascii (h c hc), List.map_eq_flatMap]

/-- **Letters of other scripts do not matter** to what lower case in ASCII a text has, as long as there
is no `k` in it. -/
theorem lowercase_eq_iff {text small : List Char}
    (hsmall : ∀ c ∈ small, c.toNat < 128 ∧ c ≠ 'k') :
    lowercase text = small ↔ text.map Char.toLower = small := by
  constructor
  · intro h
    have hascii : ∀ c ∈ text, c.toNat < 128 := by
      intro c hc
      by_contra hbeyond
      obtain ⟨d, hd, hbad⟩ := lowercaseChar_of_not_ascii hbeyond
      have hmem : d ∈ small := h ▸ List.mem_flatMap.2 ⟨c, hc, hd⟩
      rcases hbad with hbad | rfl
      · exact absurd (hsmall d hmem).1 (Nat.not_lt_of_le hbad)
      · exact (hsmall _ hmem).2 rfl
    rw [← lowercase_of_ascii hascii, h]
  · intro h
    have hascii : ∀ c ∈ text, c.toNat < 128 := fun c hc =>
      ascii_of_toLower (hsmall _ (h ▸ List.mem_map_of_mem hc)).1
    rw [lowercase_of_ascii hascii, h]

end QueryLint.Text
