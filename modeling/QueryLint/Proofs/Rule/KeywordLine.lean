import Mathlib.Data.List.Sort
import QueryLint.Proofs.Rule.KeywordCase
import QueryLint.Proofs.Text.Hidden

/-!
# Line by line

What is reported of a line is a matter of that line: nothing is carried over from one to the next, no
quote, no word and no place. So the issues of two texts with a line ending between them are those of the
one and, further down, those of the other (`scan_line_by_line`).

A line ending can be a newline or a carriage return and a newline. The carriage return stays at the end
of its line, where it is neither a quote nor a letter: it closes nothing, and a word ends before it as
it ends at the end of the line (`scanLine_concat`).
-/

namespace QueryLint

/-- An issue so many lines further down. -/
def Issue.moveDown (n : Nat) (issue : Issue) : Issue :=
  { issue with line := issue.line.map (· + n), endLine := issue.endLine.map (· + n) }

namespace KeywordCase

open Text

variable {line line' : List Char} {keyword : String} {word : Word}

/-! ## One line -/

/-- Lines with the same misspellings have the same issues: the words of a line come in order, so it is
enough that the two lines have the same ones. -/
theorem scanLine_congr
    (h : ∀ keyword word, IsMisspelling keyword line' word ↔ IsMisspelling keyword line word)
    (number : Nat) : scanLine number line' = scanLine number line := by
  have hirrefl : Std.Irrefl fun v w : Word => v.start < w.start := ⟨fun _ => Nat.lt_irrefl _⟩
  have hantisymm : Std.Antisymm fun v w : Word => v.start < w.start :=
    ⟨fun _ _ h h' => absurd h' (Nat.lt_asymm h)⟩
  refine List.flatMap_congr fun keyword hk => ?_
  have hwords : misspelt keyword line' = misspelt keyword line := by
    refine (pairwise_misspelt keyword line').eq_of_mem_iff (pairwise_misspelt keyword line) ?_
    intro word
    rw [mem_misspelt hk, mem_misspelt hk]
    exact h keyword word
  rw [hwords]

/-- The issues of a line under a greater number are the same further down. -/
theorem scanLine_add (number n : Nat) (line : List Char) :
    scanLine (number + n) line = (scanLine number line).map (Issue.moveDown n) := by
  rw [scanLine, scanLine, List.map_flatMap]
  refine List.flatMap_congr fun keyword _ => ?_
  rw [List.map_map]
  rfl

/-- A run of a line is one of the line with one more character that is no word letter. -/
theorem isRun_concat_iff {c : Char} (hc : ¬ IsWordLetter c) :
    IsRun (line ++ [c]) word ↔ IsRun line word := by
  rw [isRun_iff, isRun_iff]
  refine and_congr_right fun hne => and_congr_right fun hword => ?_
  constructor
  · rintro ⟨hletters, hbefore, hafter⟩
    refine ⟨fun k hk => ?_, fun i d hi hd => ?_, fun d hd => ?_⟩
    · have hletter := hletters k hk
      rw [List.getElem?_eq_getElem hk] at hletter ⊢
      rcases getElem?_concat_eq_some hletter with hd | ⟨-, rfl⟩
      · exact hd
      · exact absurd (hword _ (List.getElem_mem hk)) hc
    · exact hbefore i d hi (getElem?_concat_of_some hd c)
    · exact hafter d (getElem?_concat_of_some hd c)
  · rintro ⟨hletters, hbefore, hafter⟩
    refine ⟨fun k hk => ?_, fun i d hi hd => ?_, fun d hd => ?_⟩
    · have hletter := hletters k hk
      rw [List.getElem?_eq_getElem hk] at hletter ⊢
      exact getElem?_concat_of_some hletter c
    · rcases getElem?_concat_eq_some hd with hd | ⟨-, rfl⟩
      · exact hbefore i d hi hd
      · exact hc
    · rcases getElem?_concat_eq_some hd with hd | ⟨-, rfl⟩
      · exact hafter d hd
      · exact hc

/-- A character behind the end of a line that is neither a quote nor a word letter does not matter. -/
theorem scanLine_concat {c : Char} (hquote : isQuote c = false) (hletter : ¬ IsWordLetter c)
    (number : Nat) (line : List Char) : scanLine number (line ++ [c]) = scanLine number line := by
  have hstretches := quotedStretches_concat hquote line
  refine scanLine_congr (fun keyword word => ⟨fun h => ?_, fun h => ?_⟩) number
  · exact ⟨(isRun_concat_iff hletter).1 h.run, h.same, h.differs, hstretches ▸ h.visible⟩
  · exact ⟨(isRun_concat_iff hletter).2 h.run, h.same, h.differs, hstretches.symm ▸ h.visible⟩

/-! ## A text -/

/-- The issues of lines, the first of which has the number that comes next. -/
def scanLines (before : Nat) (lines : List (List Char)) : List Issue :=
  (lines.zipIdx (before + 1)).flatMap fun (line, number) => scanLine number line

/-- A text is scanned line by line. -/
theorem scan_eq_scanLines (text : List Char) : scan text = scanLines 0 (text.splitOn '\n') := by
  rw [scan, numberedLines_eq, List.flatMap_map]
  rfl

/-- Lines below others are scanned as lines of their own, with higher numbers. -/
theorem scanLines_append (before : Nat) (above below : List (List Char)) :
    scanLines before (above ++ below) =
      scanLines before above ++ scanLines (before + above.length) below := by
  rw [scanLines, List.zipIdx_append, List.flatMap_append, Nat.add_right_comm]
  rfl

/-- The issues of lines that stand further down are the same further down. -/
theorem scanLines_add (before n : Nat) (lines : List (List Char)) :
    scanLines (before + n) lines = (scanLines before lines).map (Issue.moveDown n) := by
  induction lines generalizing before with
  | nil => rfl
  | cons line lines ih =>
    have hcons : ∀ before, scanLines before (line :: lines) =
        scanLine (before + 1) line ++ scanLines (before + 1) lines := fun _ => rfl
    rw [hcons, hcons, List.map_append, ← ih, Nat.add_right_comm, scanLine_add]

/-- The issues of lines are a matter of the issues that each has under any number. -/
theorem scanLines_congr {lines lines' : List (List Char)}
    (h : lines'.map (fun line number => scanLine number line) =
      lines.map fun line number => scanLine number line) (before : Nat) :
    scanLines before lines' = scanLines before lines := by
  have hmap : ∀ lines : List (List Char), scanLines before lines =
      ((lines.map fun line number => scanLine number line).zipIdx (before + 1)).flatMap
        fun (issues, number) => issues number := by
    intro lines
    rw [scanLines, List.zipIdx_map, List.flatMap_map]
    rfl
  rw [hmap, hmap, h]

/-- Behind a newline the numbers of the lines go on. -/
theorem scan_append_newline (a b : List Char) :
    scan (a ++ '\n' :: b) = scan a ++ (scan b).map (Issue.moveDown (a.count '\n' + 1)) := by
  rw [scan_eq_scanLines, scan_eq_scanLines, scan_eq_scanLines, List.splitOn_append_cons_self,
    scanLines_append, scanLines_add, length_splitOn]

/-- A character behind the end of a text that is no newline, no quote and no word letter does not
matter. -/
theorem scan_concat {c : Char} (hc : c ≠ '\n') (hquote : isQuote c = false)
    (hletter : ¬ IsWordLetter c) (text : List Char) : scan (text ++ [c]) = scan text := by
  obtain ⟨above, last, hlines, hconcat⟩ := exists_splitOn_concat hc text
  rw [scan_eq_scanLines, scan_eq_scanLines, hlines, hconcat]
  refine scanLines_congr ?_ 0
  have hlast : (fun number => scanLine number (last ++ [c])) = fun number => scanLine number last :=
    funext fun number => scanLine_concat hquote hletter number last
  rw [List.map_append, List.map_append, List.map_singleton, List.map_singleton, hlast]

/-- Behind a line ending of either kind the numbers of the lines go on. -/
theorem scan_join (a b : List Char) (ending : LineEnd) : scan (a ++ ending.chars ++ b) =
    scan a ++ (scan b).map (Issue.moveDown (1 + a.count '\n')) := by
  rw [Nat.add_comm 1]
  cases ending with
  | newline =>
    rw [LineEnd.chars, List.append_assoc, List.singleton_append]
    exact scan_append_newline a b
  | returnNewline =>
    -- The carriage return is the last character of the text before the newline.
    have htext : a ++ LineEnd.returnNewline.chars ++ b = (a ++ ['\r']) ++ '\n' :: b := by
      simp [LineEnd.chars]
    have hcount : (a ++ ['\r']).count '\n' = a.count '\n' := by
      simp [List.count_append]
    rw [htext, scan_append_newline, hcount,
      scan_concat (by decide) rfl (isWordChar_eq_false_iff.1 rfl)]

/-- Other line endings make no difference. -/
theorem scan_reended {text text' : List Char} (h : Reended text text') :
    scan text' = scan text := by
  induction h with
  | refl => rfl
  | ending before old new _ ih => rw [scan_join, scan_join, ih]

/-- A line by itself is the only one. -/
theorem scan_of_not_mem {line : List Char} (h : '\n' ∉ line) : scan line = scanLine 1 line := by
  rw [scan_eq_scanLines, List.splitOn_eq_singleton h]
  exact List.append_nil _

/-- The issues of lines with other numbers are not among those of a line. -/
theorem filter_scanLines_eq_nil {lines : List (List Char)} {before number : Nat}
    (h : number ≤ before ∨ before + lines.length < number) :
    (scanLines before lines).filter (fun issue => issue.line = some number) = [] := by
  rw [List.filter_eq_nil_iff]
  intro issue hissue
  rw [scanLines] at hissue
  obtain ⟨⟨line, n⟩, hline, hissue⟩ := List.mem_flatMap.1 hissue
  have hn := List.mem_zipIdx hline
  rw [line_of_mem_scanLine hissue, decide_eq_true_eq, Option.some.injEq]
  omega

/-- The issues with the number of a line are those of the line by itself, further down. -/
theorem filter_line_scan {text line : List Char} {row : Nat}
    (h : (text.splitOn '\n')[row]? = some line) :
    (scan text).filter (fun issue => issue.line = some (row + 1)) =
      (scan line).map (Issue.moveDown row) := by
  have hlines : text.splitOn '\n' =
      (text.splitOn '\n').take row ++ ([line] ++ (text.splitOn '\n').drop (row + 1)) := by
    obtain ⟨hrow, rfl⟩ := List.getElem?_eq_some_iff.1 h
    rw [List.singleton_append, List.getElem_cons_drop, List.take_append_drop]
  have hlength : ((text.splitOn '\n').take row).length = row := by
    have := (List.getElem?_eq_some_iff.1 h).1
    rw [List.length_take]
    omega
  have hself : (scanLines row [line]).filter (fun issue => issue.line = some (row + 1)) =
      (scan line).map (Issue.moveDown row) := by
    rw [scan_of_not_mem (newline_not_mem (List.mem_of_getElem? h)), ← scanLine_add,
      Nat.add_comm 1 row]
    refine (congrArg _ (List.append_nil _)).trans (List.filter_eq_self.2 fun issue hissue => ?_)
    rw [line_of_mem_scanLine hissue, decide_eq_true_eq]
  rw [scan_eq_scanLines, hlines, scanLines_append, scanLines_append, List.filter_append,
    List.filter_append, hlength, Nat.zero_add, hself, filter_scanLines_eq_nil (.inr ?_),
    filter_scanLines_eq_nil (.inl ?_), List.nil_append, List.append_nil]
  · rw [List.length_singleton]
  · omega

/-- **Line by line.** The issues of two texts with a line ending between them, be it a newline or a
carriage return and a newline, are those of the first and those of the second, moved down by the lines of
the first. So the issues with the number of a line are those of the line by itself, moved down by the
lines before it, and with other line endings the issues of a text are the same. -/
theorem scan_line_by_line :
    (∀ (a b : List Char) (ending : LineEnd), scan (a ++ ending.chars ++ b) =
      scan a ++ (scan b).map (Issue.moveDown (1 + a.count '\n')))
    ∧ (∀ (text line : List Char) (row : Nat), (text.splitOn '\n')[row]? = some line →
      (scan text).filter (fun issue => issue.line = some (row + 1)) =
        (scan line).map (Issue.moveDown row))
    ∧ ∀ text text' : List Char, Reended text text' → scan text' = scan text :=
  ⟨scan_join, fun _ _ _ h => filter_line_scan h, fun _ _ h => scan_reended h⟩

/-- A quote that is not closed on its line, before a carriage return; the word in the second line is
reported as it is in that line alone, whichever way the first line ends. -/
theorem scan_line_by_line_open_quote :
    (scan "Or '\\\r\n'as\n".toList).filter (fun issue => issue.line = some 2) =
        (scan "'as".toList).map (Issue.moveDown 1)
      ∧ issueOf 1 "AS" ⟨1, "as".toList⟩ ∈ scan "'as".toList
      ∧ scan "Or '\\\n'as\r\n".toList = scan "Or '\\\r\n'as\n".toList := by
  obtain ⟨-, hline, hends⟩ := scan_line_by_line
  refine ⟨hline _ _ 1 (by decide), by decide +kernel, hends _ _ ?_⟩
  exact .ending "Or '\\".toList .returnNewline .newline
    (.ending "'as".toList .newline .returnNewline (.refl []))

end KeywordCase

end QueryLint
