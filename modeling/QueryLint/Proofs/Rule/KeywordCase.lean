import Mathlib.Data.List.Nodup
import QueryLint.Proofs.Text.Line
import QueryLint.Proofs.Text.Word
import QueryLint.Rule.KeywordCase

/-!
# What is reported of keywords

The rule goes through a text line by line, through each line keyword by keyword, and through the
words of the line from left to right. `scan_report` says what comes of it, in terms of the text
alone: the lines are the text split at newlines, the words are the maximal runs of ASCII word
letters (`Text.IsRun`), and a word is reported where it spells a keyword in another case and does
not start in a quoted stretch (`IsMisspelling`).

No word is reported twice. Two keywords differ in more than case (`keywords_differ`), and two runs
that start at one place are one run (`Text.IsRun.text_unique`), so the place of an issue tells which
word and which keyword it is about.
-/

namespace QueryLint.KeywordCase

open Text

/-- A word of a line that spells a keyword in another case, outside of every quoted stretch. -/
structure IsMisspelling (keyword : String) (line : List Char) (word : Word) : Prop where
  run : IsRun line word
  same : SameLetters word.text keyword.toList
  differs : word.text ≠ keyword.toList
  visible : ∀ stretch ∈ quotedStretches line,
    ¬ (stretch.start ≤ word.start ∧ word.start < stretch.stop)

/-! ## The keywords -/

theorem keywords_ne_nil : ∀ keyword ∈ keywords, keyword.toList ≠ [] := by
  decide

/-- Keywords are written in ASCII letters. -/
theorem keywords_ascii : ∀ keyword ∈ keywords, ∀ c ∈ keyword.toList, c.toLower.toNat < 128 := by
  -- Deciding the statement itself may mean going through all characters that there are.
  have hall : (keywords.all fun keyword => keyword.toList.all fun c =>
      decide (c.toLower.toNat < 128)) = true := by
    decide
  intro keyword hk c hc
  exact of_decide_eq_true (List.all_eq_true.1 (List.all_eq_true.1 hall keyword hk) c hc)

/-- No two keywords have the same letters. -/
theorem keywords_differ :
    keywords.Pairwise fun a b => a.toList.map Char.toLower ≠ b.toList.map Char.toLower := by
  decide

/-! ## The words of one line -/

/-- For one keyword the misspellings of a line are reported, and nothing else. -/
theorem mem_misspelt {keyword : String} (hk : keyword ∈ keywords) {line : List Char} {word : Word} :
    word ∈ misspelt keyword line ↔ IsMisspelling keyword line word := by
  unfold misspelt
  rw [List.mem_filter, mem_occurrences (keywords_ne_nil keyword hk)]
  simp only [Bool.and_eq_true, Bool.not_eq_eq_eq_not, Bool.not_true, List.any_eq_false,
    Stretch.contains, decide_eq_true_eq, bne_iff_ne]
  constructor
  · rintro ⟨⟨hrun, hsame⟩, hvisible, hdiffers⟩
    exact ⟨hrun, hsame, hdiffers, hvisible⟩
  · rintro ⟨hrun, hsame, hdiffers, hvisible⟩
    exact ⟨⟨hrun, hsame⟩, hvisible, hdiffers⟩

-- A longer word, a quoted one and one in capitals are passed over.
example : misspelt "IN" "in into 'in' IN".toList = [⟨0, ['i', 'n']⟩] := by
  decide

/-- The words of one keyword come from left to right. -/
theorem pairwise_misspelt (keyword : String) (line : List Char) :
    (misspelt keyword line).Pairwise (·.start < ·.start) :=
  (pairwise_occurrences keyword.toList line).filter _

/-! ## Places -/

/-- Where an issue starts. -/
def place (issue : Issue) : Option Nat × Option Nat := (issue.line, issue.column)

theorem place_issueOf (number : Nat) (keyword : String) (word : Word) :
    place (issueOf number keyword word) = (some number, some (word.start + 1)) := rfl

/-- The words reported for two keywords never start at one place: the run there would have the
letters of both. -/
theorem misspelt_start_ne {a b : String} (ha : a ∈ keywords) (hb : b ∈ keywords)
    (hab : a.toList.map Char.toLower ≠ b.toList.map Char.toLower) {line : List Char} {v w : Word}
    (hv : v ∈ misspelt a line) (hw : w ∈ misspelt b line) : v.start ≠ w.start := by
  intro hstart
  have hv := (mem_misspelt ha).1 hv
  have hw := (mem_misspelt hb).1 hw
  have htext := hv.run.text_unique hw.run hstart
  have hsame := hv.same
  rw [htext] at hsame
  exact hab (hsame.symm.trans hw.same)

/-- On one line no two issues start at one place. -/
theorem nodup_place_scanLine (number : Nat) (line : List Char) :
    ((scanLine number line).map place).Nodup := by
  rw [scanLine, List.map_flatMap, List.nodup_flatMap]
  constructor
  · -- Of one keyword: the columns grow from word to word.
    intro keyword _
    rw [List.map_map, List.Nodup, List.pairwise_map]
    refine (pairwise_misspelt keyword line).imp ?_
    intro v w hlt heq
    simp only [Function.comp, place_issueOf, Prod.mk.injEq, Option.some.injEq] at heq
    omega
  · -- Of two keywords: a common place would be that of one run with the letters of both.
    refine keywords_differ.imp_of_mem ?_
    intro a b ha hb hab p hpa hpb
    obtain ⟨i, hi, rfl⟩ := List.mem_map.1 hpa
    obtain ⟨j, hj, heq⟩ := List.mem_map.1 hpb
    obtain ⟨v, hv, rfl⟩ := List.mem_map.1 hi
    obtain ⟨w, hw, rfl⟩ := List.mem_map.1 hj
    simp only [place_issueOf, Prod.mk.injEq, Option.some.injEq] at heq
    exact misspelt_start_ne ha hb hab hv hw (by omega)

theorem line_of_mem_scanLine {number : Nat} {line : List Char} {issue : Issue}
    (h : issue ∈ scanLine number line) : issue.line = some number := by
  unfold scanLine at h
  obtain ⟨keyword, _, h⟩ := List.mem_flatMap.1 h
  obtain ⟨word, _, rfl⟩ := List.mem_map.1 h
  rfl

/-- The issues of a text are those of the words that its lines have for one keyword or another. -/
theorem mem_scan {text : List Char} {issue : Issue} :
    issue ∈ scan text ↔ ∃ number line, (number, line) ∈ numberedLines text
      ∧ ∃ keyword ∈ keywords, ∃ word ∈ misspelt keyword line,
        issue = issueOf number keyword word := by
  unfold scan scanLine
  simp only [List.mem_flatMap, List.mem_map, Prod.exists, eq_comm]

/-- In a whole text no two issues start at one place. -/
theorem nodup_place_scan (text : List Char) : ((scan text).map place).Nodup := by
  rw [scan, List.map_flatMap, List.nodup_flatMap]
  constructor
  · rintro ⟨number, line⟩ _
    exact nodup_place_scanLine number line
  · -- Of two lines: their numbers differ, and every issue has the number of its line.
    refine (pairwise_numberedLines text).imp ?_
    rintro ⟨m, k⟩ ⟨n, l⟩ hne p hk hl
    obtain ⟨a, ha, rfl⟩ := List.mem_map.1 hk
    obtain ⟨b, hb, heq⟩ := List.mem_map.1 hl
    have hline : b.line = a.line := congrArg Prod.fst heq
    rw [line_of_mem_scanLine ha, line_of_mem_scanLine hb] at hline
    exact hne (Option.some.inj hline).symm

/-! ## The report -/

/-- **The report of a text.** Line by line and keyword by keyword, from left to right, there is one
issue for each misspelling, at the characters that it takes; no two issues start at one place; and
letters beyond ASCII neither belong to words nor stand for letters of keywords. -/
theorem scan_report (text : List Char) :
    (scan text = ((text.splitOn '\n').zipIdx 1).flatMap fun (line, number) =>
      keywords.flatMap fun keyword => (misspelt keyword line).map fun word =>
        { rule := "keyword-case", severity := .warning
          message := "Keyword \"" ++ String.ofList word.text ++ "\" should be uppercase \""
            ++ keyword ++ "\""
          line := some number, column := some (1 + word.start)
          endLine := some number, endColumn := some (1 + word.start + word.text.length) })
    ∧ (∀ keyword ∈ keywords, ∀ line, (misspelt keyword line).Pairwise (·.start < ·.start)
      ∧ ∀ word, word ∈ misspelt keyword line ↔ IsMisspelling keyword line word)
    ∧ ((scan text).map fun issue => (issue.line, issue.column)).Nodup
    ∧ ∀ c : Char, 128 ≤ c.toNat → ¬ IsWordLetter c
      ∧ ∀ keyword ∈ keywords, ∀ k ∈ keyword.toList, c.toLower ≠ k.toLower := by
  refine ⟨?_, ?_, nodup_place_scan text, ?_⟩
  · rw [scan, numberedLines_eq, List.flatMap_map]
    refine List.flatMap_congr fun p _ => List.flatMap_congr fun keyword _ => ?_
    refine List.map_congr_left fun word _ => ?_
    rw [issueOf, Nat.add_comm word.start 1]
    rfl
  · intro keyword hk line
    exact ⟨pairwise_misspelt keyword line, fun word => mem_misspelt hk⟩
  · intro c hc
    refine ⟨fun h => ?_, fun keyword hk k hmem => ?_⟩
    · have := h.ascii
      omega
    · exact toLower_ne_of_ascii hc (keywords_ascii keyword hk k hmem)

/-- A word behind a letter beyond ASCII is a word by itself, and reported as one. -/
theorem scan_report_behind_letter : "SELECT" ∈ keywords
    ∧ IsMisspelling "SELECT" "éSelect".toList ⟨1, "Select".toList⟩
    ∧ 128 ≤ 'é'.toNat ∧ ¬ IsWordLetter 'é' := by
  have hkeyword : "SELECT" ∈ keywords := by decide
  have hfound : ⟨1, "Select".toList⟩ ∈ misspelt "SELECT" "éSelect".toList := by decide
  have hbeyond : 128 ≤ 'é'.toNat := by decide
  have hreport := scan_report "éSelect".toList
  refine ⟨hkeyword, ?_, hbeyond, (hreport.2.2.2 'é' hbeyond).1⟩
  exact ((hreport.2.1 "SELECT" hkeyword _).2 _).1 hfound

end QueryLint.KeywordCase
