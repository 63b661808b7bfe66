import QueryLint.Proofs.Text.Edit
import QueryLint.Proofs.Text.Quoted

/-!
# What does not matter to quoted stretches

Other characters between the two quotes of a stretch leave all stretches of the line where they are
(`quotedStretches_requoted`), as long as none of them is a quote or a backslash: the stretch is closed
by the quote that closed it, although that may have been an escaped one, and a quote elsewhere is closed
by one elsewhere or by none. Nor does a character behind the end of the line matter unless it is a quote
(`quotedStretches_concat`).

Both follow the scan of the line and say step by step that it can be made on the other line.
-/

namespace QueryLint.Text

variable {chars chars' : List Char} {s : Stretch} {quote : Char}

/-! ## Between the quotes -/

/-- Two lines are the same outside of a stretch and in its quotes, and the second has neither quotes nor
backslashes in between. -/
structure Requoted (chars chars' : List Char) (s : Stretch) : Prop where
  outside : ∀ i, i ≤ s.start ∨ s.stop ≤ i + 1 → chars'[i]? = chars[i]?
  inside : ∀ i, s.start < i → i + 1 < s.stop → ∀ c, chars'[i]? = some c → isQuote c = false ∧ c ≠ '\\'

namespace Requoted

/-- There are no quotes that were not there before, and none between the two of the stretch. -/
theorem later (h : Requoted chars chars' s) (hquote : isQuote quote = true) {i j : Nat}
    (hlater : Later chars' i quote j) :
    Later chars i quote j ∧ ¬ (s.start < j ∧ j + 1 < s.stop) := by
  obtain ⟨hlt, hj⟩ := hlater
  have hnot : ¬ (s.start < j ∧ j + 1 < s.stop) := by
    rintro ⟨hstart, hstop⟩
    cases hquote.symm.trans (h.inside j hstart hstop quote hj).1
  rw [h.outside j (by omega)] at hj
  exact ⟨⟨hlt, hj⟩, hnot⟩

/-- Quotes outside of the stretch are escaped as they were. -/
theorem escaped_iff (h : Requoted chars chars' s) {i j : Nat}
    (hj : j ≤ s.start + 1 ∨ s.stop ≤ j) : Escaped chars' i j ↔ Escaped chars i j := by
  rw [Escaped, Escaped]
  refine and_congr_right fun hlt => ?_
  rw [h.outside (j - 1) (by omega)]

/-- The stretch is closed where it was: no quote is left before, and this one is not escaped. -/
theorem closes_self (h : Requoted chars chars' s) (hs : s.Quoted chars quote) :
    Closes chars' s.start quote (s.stop - 1) := by
  have hlt := hs.start_lt
  refine .first ⟨by omega, (h.outside _ (by omega)).trans hs.last⟩ ?_ fun j hj hbefore => ?_
  · rintro ⟨hopening, hbackslash⟩
    exact (h.inside _ hopening (by omega) _ hbackslash).2 rfl
  · exact absurd ⟨hj.1, by omega⟩ (h.later hs.isQuote hj).2

/-- A stretch before it or behind it is closed where it was. -/
theorem closes_apart (h : Requoted chars chars' s) (hquote : isQuote quote = true) {i stop : Nat}
    (hcloses : Closes chars i quote stop) (hapart : stop < s.start ∨ s.stop ≤ i) :
    Closes chars' i quote stop := by
  have hlt := hcloses.isLater.1
  have hstop : chars'[stop]? = some quote := (h.outside stop (by omega)).trans hcloses.isLater.2
  refine hcloses.mono ⟨hlt, hstop⟩ (fun j hj => (h.later hquote hj).1) fun j hle hj => ?_
  have hbehind := hj.1
  exact h.escaped_iff (by omega)

end Requoted

/-- The scan of a line is one of every line that differs from it inside of a stretch only. The stretch is
still to come or lies behind the place of the scan; the places inside of it are never visited. -/
theorem Scans.requoted (h : Requoted chars chars' s) {i : Nat} {found : List Stretch}
    (hscan : Scans chars i found) (hplace : s ∈ found ∨ s.stop ≤ i) : Scans chars' i found := by
  have hoff : ∀ {i : Nat} {found : List Stretch}, Scans chars i found → s ∈ found ∨ s.stop ≤ i →
      i ≤ s.start ∨ s.stop ≤ i := by
    rintro i found hscan (hmem | hstop)
    · exact .inl (hscan.le_start s hmem)
    · exact .inr hstop
  induction hscan with
  | @done i hend =>
    have hat := hoff (.done hend) hplace
    exact .done ((h.outside i (by omega)).trans hend)
  | @other i c found hc hplain hrest ih =>
    have hrest' : s ∈ found ∨ s.stop ≤ i + 1 := hplace.imp_right Nat.le_succ_of_le
    have hat := hoff hrest hrest'
    exact .other ((h.outside i (by omega)).trans hc) hplain (ih hrest')
  | @unclosed i c found hc hquote hnone hrest ih =>
    have hrest' : s ∈ found ∨ s.stop ≤ i + 1 := hplace.imp_right Nat.le_succ_of_le
    have hat := hoff hrest hrest'
    refine .unclosed ((h.outside i (by omega)).trans hc) hquote (fun j hj => ?_) (ih hrest')
    exact hnone j (h.later hquote hj).1
  | @string i stop c found hc hquote hcloses hrest ih =>
    have hlt := hcloses.isLater.1
    have hat := hoff (.string hc hquote hcloses hrest) hplace
    have hc' : chars'[i]? = some c := (h.outside i (by omega)).trans hc
    rcases hplace with hmem | hbehind
    · rcases List.mem_cons.1 hmem with rfl | hmem
      · exact .string hc' hquote (h.closes_self ⟨hc, hquote, hcloses⟩) (ih (.inr (Nat.le_refl _)))
      · have hafter := hrest.le_start s hmem
        exact .string hc' hquote (h.closes_apart hquote hcloses (.inl hafter)) (ih (.inl hmem))
    · exact .string hc' hquote (h.closes_apart hquote hcloses (.inr hbehind)) (ih (.inr (by omega)))

/-- The stretches of a line stay where they are if something else is put between the quotes of one. -/
theorem quotedStretches_requoted (hmem : s ∈ quotedStretches chars) (h : Requoted chars chars' s) :
    quotedStretches chars' = quotedStretches chars := by
  have hscan : Scans chars 0 (quotedStretches chars) := scans_iff.2 rfl
  exact (scans_iff.1 (hscan.requoted h (.inl hmem))).symm

/-- Putting as many other characters between the quotes of a stretch is such a change. -/
theorem requoted_overwrite (hmem : s ∈ quotedStretches chars) {new : List Char}
    (hlength : new.length = s.stop - 1 - (s.start + 1))
    (hnew : ∀ c ∈ new, isQuote c = false ∧ c ≠ '\\') :
    Requoted chars (overwrite (s.start + 1) (s.stop - 1) new chars) s := by
  obtain ⟨quote, hs⟩ := quoted_of_mem hmem
  have hstart := hs.start_lt
  have hstop := hs.stop_le
  have hfits : s.start + 1 + new.length = s.stop - 1 := by omega
  have hget := getElem?_overwrite hfits (Nat.le_trans (Nat.sub_le s.stop 1) hstop)
  constructor
  · intro i hi
    rw [hget, if_neg (by omega)]
  · intro i hbehind hbefore c hc
    rw [hget, if_pos (by omega)] at hc
    exact hnew c (List.mem_of_getElem? hc)

/-! ## Behind the end -/

/-- A character behind the end is at no place of the line. -/
theorem getElem?_concat_eq_some {c d : Char} {i : Nat} (h : (chars ++ [c])[i]? = some d) :
    chars[i]? = some d ∨ i = chars.length ∧ d = c := by
  rw [List.getElem?_append] at h
  split at h
  next => exact .inl h
  next hge =>
    have hlt := (List.getElem?_eq_some_iff.1 h).1
    rw [List.length_singleton] at hlt
    obtain rfl : i = chars.length := by omega
    rw [Nat.sub_self, List.getElem?_cons_zero, Option.some.injEq] at h
    exact .inr ⟨rfl, h.symm⟩

/-- A character at the end moves none of those before it. -/
theorem getElem?_concat_of_some {d : Char} {i : Nat} (h : chars[i]? = some d) (c : Char) :
    (chars ++ [c])[i]? = some d := by
  rw [List.getElem?_append_left (List.getElem?_eq_some_iff.1 h).1, h]

/-- The scan of a line goes on over one more character that is no quote. -/
theorem Scans.concat {c : Char} (hc : isQuote c = false) {i : Nat} {found : List Stretch}
    (hscan : Scans chars i found) : Scans (chars ++ [c]) i found := by
  have hback : ∀ {i j : Nat} {quote : Char}, isQuote quote = true → Later (chars ++ [c]) i quote j →
      Later chars i quote j := by
    rintro i j quote hquote ⟨hlt, hj⟩
    rcases getElem?_concat_eq_some hj with hj | ⟨-, rfl⟩
    · exact ⟨hlt, hj⟩
    · cases hquote.symm.trans hc
  induction hscan with
  | @done i hend =>
    cases hlast : (chars ++ [c])[i]? with
    | none => exact .done hlast
    | some d =>
      -- The place of the scan is that of the character: it is passed over, and then the line ends.
      rcases getElem?_concat_eq_some hlast with hd | ⟨rfl, rfl⟩
      · cases hend.symm.trans hd
      · exact .other hlast hc (.done (List.getElem?_eq_none (by simp)))
  | other hd hplain _ ih => exact .other (getElem?_concat_of_some hd c) hplain ih
  | unclosed hd hquote hnone _ ih =>
    exact .unclosed (getElem?_concat_of_some hd c) hquote (fun j hj => hnone j (hback hquote hj)) ih
  | string hd hquote hcloses _ ih =>
    refine .string (getElem?_concat_of_some hd c) hquote
      (hcloses.mono ?_ (fun j => hback hquote) fun j _ hj => ?_) ih
    · exact ⟨hcloses.isLater.1, getElem?_concat_of_some hcloses.isLater.2 c⟩
    · have hlt := (List.getElem?_eq_some_iff.1 hj.2).1
      rw [Escaped, Escaped, List.getElem?_append_left (by omega)]

/-- A character behind the end of a line that is no quote leaves its stretches as they are. -/
theorem quotedStretches_concat {c : Char} (hc : isQuote c = false) (chars : List Char) :
    quotedStretches (chars ++ [c]) = quotedStretches chars :=
  (scans_iff.1 ((scans_iff.2 rfl).concat hc)).symm

end QueryLint.Text
