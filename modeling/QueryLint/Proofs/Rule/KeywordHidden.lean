import QueryLint.Proofs.Rule.KeywordLine
import QueryLint.Proofs.Text.Hidden

/-!
# Quoted text is not looked at

What stands between the quotes of a stretch has no influence on what is reported: with as many other
characters in its place, as long as they neither open nor close nor escape anything, the issues of the
text are the same (`scan_requote`).

The stretches of the line stay where they are (`Text.quotedStretches_requoted`). A word that is reported
starts outside of all of them, so it lies before the opening quote or behind the closing one, with all
that tells it from its neighbours; there the lines do not differ (`isMisspelling_of_outside`).
-/

namespace QueryLint.KeywordCase

open Text

variable {chars chars' : List Char} {s : Stretch} {keyword : String} {word : Word}

/-! ## Words outside of a stretch -/

/-- A word that starts outside of a stretch lies outside of it, as do the characters next to it, apart
from the quotes. -/
theorem outside_of_run (hmem : s ∈ quotedStretches chars) (hrun : IsRun chars word)
    (hvisible : ¬ (s.start ≤ word.start ∧ word.start < s.stop)) :
    word.start + word.text.length ≤ s.start ∨ s.stop ≤ word.start := by
  obtain ⟨quote, hs⟩ := quoted_of_mem hmem
  by_cases hbefore : word.start < s.start
  · refine .inl (hrun.stop_le_of_not hs.opens ?_ (Nat.le_of_lt hbefore))
    rcases isQuote_iff.1 hs.isQuote with rfl | rfl <;> exact isWordChar_eq_false_iff.1 rfl
  · exact .inr (by omega)

/-- Where two lines are the same outside of a stretch they have the same misspellings. -/
theorem isMisspelling_of_outside (hmem : s ∈ quotedStretches chars)
    (hstretches : quotedStretches chars' = quotedStretches chars)
    (hsame : ∀ i, i ≤ s.start ∨ s.stop ≤ i + 1 → chars'[i]? = chars[i]?)
    (h : IsMisspelling keyword chars word) : IsMisspelling keyword chars' word := by
  have hwhere := outside_of_run hmem h.run (h.visible s hmem)
  refine ⟨h.run.congr fun i hfrom hto => hsame i ?_, h.same, h.differs, hstretches ▸ h.visible⟩
  omega

/-- What stands between quotes has no influence on what is reported of a line. -/
theorem scanLine_requoted (hmem : s ∈ quotedStretches chars) (h : Requoted chars chars' s)
    (number : Nat) : scanLine number chars' = scanLine number chars := by
  have hstretches := quotedStretches_requoted hmem h
  refine scanLine_congr (fun keyword word => ⟨?_, ?_⟩) number
  · exact isMisspelling_of_outside (hstretches ▸ hmem) hstretches.symm
      fun i hi => (h.outside i hi).symm
  · exact isMisspelling_of_outside hmem hstretches h.outside

/-! ## The text -/

/-- A change to one member of a list that a function does not see. -/
theorem map_modify_of_eq {α β : Type} {f : α → β} {g : α → α} {xs : List α} {i : Nat} {x : α}
    (hx : xs[i]? = some x) (h : f (g x) = f x) : (xs.modify i g).map f = xs.map f := by
  refine List.ext_getElem? fun j => ?_
  rw [List.getElem?_map, List.getElem?_map, List.getElem?_modify]
  by_cases hj : i = j
  · subst hj
    rw [hx]
    simp [h]
  · simp [hj]

/-- A text with other characters between the quotes of a stretch in one of its lines. -/
def requote (text : List Char) (row : Nat) (s : Stretch) (new : List Char) : List Char :=
  ['\n'].intercalate (Edit.apply (text.splitOn '\n') ⟨row, s.start + 1, s.stop - 1, new⟩)

/-- The lines of a text are the old ones, but for the one with the stretch. -/
theorem splitOn_requote {text : List Char} {row : Nat} {new : List Char} (hnew : '\n' ∉ new) :
    (requote text row s new).splitOn '\n' =
      Edit.apply (text.splitOn '\n') ⟨row, s.start + 1, s.stop - 1, new⟩ := by
  refine List.splitOn_intercalate '\n' ?_ ?_
  · intro line' hline' hnewline
    obtain ⟨i, hi⟩ := List.getElem?_of_mem hline'
    rw [Edit.apply, List.getElem?_modify] at hi
    obtain ⟨line, hline, rfl⟩ := Option.map_eq_some_iff.1 hi
    have hold : '\n' ∉ line := newline_not_mem (List.mem_of_getElem? hline)
    split at hnewline
    · rw [overwrite, List.mem_append, List.mem_append] at hnewline
      rcases hnewline with (htake | hmem) | hdrop
      · exact hold (List.mem_of_mem_take htake)
      · exact hnew hmem
      · exact hold (List.mem_of_mem_drop hdrop)
    · exact hold hnewline
  · intro hnil
    have hlength := congrArg List.length hnil
    rw [Edit.apply, List.length_modify] at hlength
    exact List.splitOn_ne_nil '\n' text (List.length_eq_zero_iff.1 hlength)

/-- **Quoted text is not looked at.** Between the quotes of a stretch as many other characters can stand
that are no quotes, backslashes or newlines: the issues are the same, with all that they say, and in the
same order. -/
theorem scan_requote {text line new : List Char} {row : Nat} {s : Stretch}
    (hline : (text.splitOn '\n')[row]? = some line) (hmem : s ∈ quotedStretches line)
    (hlength : new.length = s.stop - 1 - (s.start + 1))
    (hnew : ∀ c ∈ new, c ≠ '\'' ∧ c ≠ '"' ∧ c ≠ '\\' ∧ c ≠ '\n') :
    scan (requote text row s new) = scan text := by
  have hrequoted : Requoted line (overwrite (s.start + 1) (s.stop - 1) new line) s := by
    refine requoted_overwrite hmem hlength fun c hc => ?_
    obtain ⟨hsingle, hdouble, hbackslash, -⟩ := hnew c hc
    refine ⟨Bool.eq_false_iff.2 fun hquote => ?_, hbackslash⟩
    rcases isQuote_iff.1 hquote with h | h
    · exact hsingle h
    · exact hdouble h
  rw [scan_eq_scanLines, scan_eq_scanLines]
  refine scanLines_congr ?_ 0
  rw [splitOn_requote fun hnewline => (hnew _ hnewline).2.2.2 rfl, Edit.apply]
  exact map_modify_of_eq hline (funext fun number => scanLine_requoted hmem hrequoted number)

/-- A keyword between quotes is no different from other letters there, also where an escaped quote closes
the stretch; the keyword behind the stretch is reported in either case. -/
theorem scan_requote_keyword :
    let text := "x\nas 'from\\' Or".toList
    scan (requote text 1 ⟨3, 10⟩ "é—* !".toList) = scan text
      ∧ issueOf 2 "OR" ⟨11, "Or".toList⟩ ∈ scan (requote text 1 ⟨3, 10⟩ "é—* !".toList) := by
  intro text
  have hline : (text.splitOn '\n')[1]? = some "as 'from\\' Or".toList := by decide
  have hmem : ⟨3, 10⟩ ∈ quotedStretches "as 'from\\' Or".toList := by decide
  have hnew : ∀ c ∈ "é—* !".toList, c ≠ '\'' ∧ c ≠ '"' ∧ c ≠ '\\' ∧ c ≠ '\n' := by simp
  have hscan := scan_requote hline hmem rfl hnew
  refine ⟨hscan, ?_⟩
  rw [hscan]
  decide +kernel

end QueryLint.KeywordCase
