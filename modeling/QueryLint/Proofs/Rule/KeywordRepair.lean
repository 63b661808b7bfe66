import QueryLint.Proofs.Rule.KeywordCase
import QueryLint.Proofs.Text.Case
import QueryLint.Proofs.Text.Edit

/-!
# Doing as the rule says

Every issue of a misspelt keyword is an instruction: it says which characters of which line it is
about, and its message names the keyword that they should be. `repair` follows the instructions,
knowing nothing but the issues. `scan_repair` says that they can be followed, each by itself and in
any order, that this changes nothing but the case of letters, and that nothing is left to report.

The last is no matter of course. The text that comes out is another one, with words and quoted
stretches of its own; that they are where they were is because the two texts have the same letters
(`sameLetters_repairedLines`). A word of the new text was then a word of the old one, and either was
a misspelling, which has become its keyword, or was the keyword and no edit was about it, because
overlapping words are one word and a word has the letters of one keyword.
-/

namespace QueryLint.KeywordCase

open Text

/-! ## What issues ask for -/

/-- The texts that a message has outside and inside of its quotation marks, by turns. -/
def messageParts (message : String) : List (List Char) :=
  message.toList.splitOn '"'

/-- The edit that an issue asks for: on its line, the characters from its column up to the column
where it ends become the second text that its message has between quotation marks. -/
def edit? (issue : Issue) : Option Edit :=
  match issue.line, issue.column, issue.endLine, issue.endColumn,
    (messageParts issue.message)[3]? with
  | some (row + 1), some (start + 1), some endLine, some (stop + 1), some new =>
    if endLine = row + 1 then some ⟨row, start, stop, new⟩ else none
  | _, _, _, _, _ => none

/-- The edits that the issues of a text ask for. -/
def edits (text : List Char) : List Edit :=
  (scan text).filterMap edit?

/-- A text with the edits that issues ask for. -/
def repair (text : List Char) (issues : List Issue) : List Char :=
  ['\n'].intercalate (Edit.applyAll (text.splitOn '\n') (issues.filterMap edit?))

/-- The edit of a misspelling. -/
def editOf (row : Nat) (keyword : String) (word : Word) : Edit :=
  ⟨row, word.start, word.start + word.text.length, keyword.toList⟩

/-! ## The messages -/

theorem keywords_upper : ∀ keyword ∈ keywords, ∀ c ∈ keyword.toList, c.isUpper = true := by
  have hall : (keywords.all fun keyword => keyword.toList.all Char.isUpper) = true := by
    decide
  intro keyword hk c hc
  exact List.all_eq_true.1 (List.all_eq_true.1 hall keyword hk) c hc

/-- No keyword has a quote in it, so a message that quotes one can be taken apart. -/
theorem quote_not_mem_keyword {keyword : String} (hk : keyword ∈ keywords) :
    '"' ∉ keyword.toList := by
  intro hmem
  exact absurd (keywords_upper keyword hk '"' hmem) (by decide)

/-- A message has the word and the keyword between its quotation marks. -/
theorem messageParts_message {word : List Char} {keyword : String} (hword : '"' ∉ word)
    (hkeyword : '"' ∉ keyword.toList) :
    messageParts (message (String.ofList word) keyword) =
      ["Keyword ".toList, word, " should be uppercase ".toList, keyword.toList, []] := by
  have hmessage : (message (String.ofList word) keyword).toList = ['"'].intercalate
      ["Keyword ".toList, word, " should be uppercase ".toList, keyword.toList, []] := by
    simp [message, List.intercalate]
  rw [messageParts, hmessage, List.splitOn_intercalate]
  · intro part hpart
    simp only [List.mem_cons, List.not_mem_nil, or_false] at hpart
    rcases hpart with rfl | rfl | rfl | rfl | rfl
    · decide
    · exact hword
    · decide
    · exact hkeyword
    · exact List.not_mem_nil
  · exact List.cons_ne_nil _ _

/-! ## The edits -/

section Misspelling

variable {keyword : String} {chars : List Char} {word : Word}

/-- A word has no quotation mark in it. -/
theorem quote_not_mem_word (h : IsRun chars word) : '"' ∉ word.text := by
  obtain ⟨-, -, -, -, -, hword, -⟩ := h
  intro hmem
  exact absurd (isWordChar_iff.2 (hword '"' hmem)) (by decide)

/-- The message about a misspelling tells the word and the keyword. -/
theorem messageParts_issueOf (hk : keyword ∈ keywords) (h : IsMisspelling keyword chars word)
    (number : Nat) : messageParts (issueOf number keyword word).message =
      ["Keyword ".toList, word.text, " should be uppercase ".toList, keyword.toList, []] :=
  messageParts_message (quote_not_mem_word h.run) (quote_not_mem_keyword hk)

/-- The issue of a misspelling asks for its keyword in the place of the word. -/
theorem edit?_issueOf (hk : keyword ∈ keywords) (h : IsMisspelling keyword chars word) (row : Nat) :
    edit? (issueOf (row + 1) keyword word) = some (editOf row keyword word) := by
  have hparts : (messageParts (issueOf (row + 1) keyword word).message)[3]? =
      some keyword.toList := by
    rw [messageParts_issueOf hk h]
    rfl
  have hstop : (issueOf (row + 1) keyword word).endColumn =
      some (word.start + word.text.length + 1) := by
    rw [issueOf, Nat.add_right_comm]
  rw [edit?, hparts, hstop]
  exact if_pos rfl

/-- A misspelling has as many letters as its keyword. -/
theorem length_eq_of_misspelling (h : IsMisspelling keyword chars word) :
    keyword.toList.length = word.text.length :=
  h.same.symm.length_eq

/-- Where a misspelling has a letter, its keyword has the capital of it. -/
theorem letter_of_misspelling (hk : keyword ∈ keywords) (h : IsMisspelling keyword chars word)
    {k : Nat} (hlt : k < word.text.length) :
    ∃ c, chars[word.start + k]? = some c ∧ c.isAlpha = true
      ∧ keyword.toList[k]? = some c.toUpper := by
  have hk' : k < keyword.toList.length := by
    rw [length_eq_of_misspelling h]
    exact hlt
  have hsame := SameLetters.iff_getElem?.1 h.same k
  rw [List.getElem?_eq_getElem hlt, List.getElem?_eq_getElem hk', Option.map_some, Option.map_some,
    Option.some.injEq] at hsame
  obtain ⟨halpha, hupper⟩ :=
    toUpper_of_toLower_eq hsame (keywords_upper keyword hk _ (List.getElem_mem hk'))
  refine ⟨word.text[k], ?_, halpha, ?_⟩
  · rw [h.run.getElem? hlt, List.getElem?_eq_getElem hlt]
  · rw [List.getElem?_eq_getElem hk', hupper]

end Misspelling

variable {text : List Char}

/-- The issues of a text are those of the misspellings in its lines. -/
theorem mem_scan_iff {issue : Issue} :
    issue ∈ scan text ↔ ∃ row line keyword word, (text.splitOn '\n')[row]? = some line
      ∧ keyword ∈ keywords ∧ IsMisspelling keyword line word
      ∧ issue = issueOf (row + 1) keyword word := by
  rw [mem_scan]
  constructor
  · rintro ⟨number, line, hline, keyword, hk, word, hword, rfl⟩
    obtain ⟨row, rfl, hrow⟩ := mem_numberedLines.1 hline
    exact ⟨row, line, keyword, word, hrow, hk, (mem_misspelt hk).1 hword, rfl⟩
  · rintro ⟨row, line, keyword, word, hrow, hk, h, rfl⟩
    exact ⟨row + 1, line, mem_numberedLines.2 ⟨row, rfl, hrow⟩, keyword, hk, word,
      (mem_misspelt hk).2 h, rfl⟩

/-- The edits of a text are those of the misspellings in its lines. -/
theorem mem_edits_iff {e : Edit} :
    e ∈ edits text ↔ ∃ row line keyword word, (text.splitOn '\n')[row]? = some line
      ∧ keyword ∈ keywords ∧ IsMisspelling keyword line word ∧ e = editOf row keyword word := by
  rw [edits, List.mem_filterMap]
  constructor
  · rintro ⟨issue, hissue, hedit⟩
    obtain ⟨row, line, keyword, word, hrow, hk, h, rfl⟩ := mem_scan_iff.1 hissue
    rw [edit?_issueOf hk h, Option.some.injEq] at hedit
    exact ⟨row, line, keyword, word, hrow, hk, h, hedit.symm⟩
  · rintro ⟨row, line, keyword, word, hrow, hk, h, rfl⟩
    exact ⟨_, mem_scan_iff.2 ⟨row, line, keyword, word, hrow, hk, h, rfl⟩, edit?_issueOf hk h row⟩

/-- Every edit is about characters that there are, and puts in as many as it takes out. -/
theorem fits_of_mem_edits {e : Edit} (he : e ∈ edits text) : e.Fits (text.splitOn '\n') := by
  obtain ⟨row, line, keyword, word, hrow, -, h, rfl⟩ := mem_edits_iff.1 he
  refine ⟨⟨line, hrow, h.run.stop_le⟩, ?_⟩
  rw [editOf, length_eq_of_misspelling h]

/-- No two edits overlap: of two on one line, that of the word that starts later starts behind the
other. -/
theorem pairwise_edits (text : List Char) : (edits text).Pairwise Edit.Apart := by
  have hplaces : (scan text).Pairwise fun i j => place i ≠ place j :=
    List.pairwise_map.1 (nodup_place_scan text)
  rw [edits, List.pairwise_filterMap]
  refine hplaces.imp_of_mem fun {i j} hi hj hne e he f hf => ?_
  obtain ⟨row, line, keyword, word, hrow, hk, h, rfl⟩ := mem_scan_iff.1 hi
  obtain ⟨row', line', keyword', word', hrow', hk', h', rfl⟩ := mem_scan_iff.1 hj
  rw [edit?_issueOf hk h, Option.some.injEq] at he
  rw [edit?_issueOf hk' h', Option.some.injEq] at hf
  subst he hf
  by_cases hsame : row = row'
  · subst hsame
    obtain rfl : line = line' := Option.some.inj (hrow.symm.trans hrow')
    have hstart : word.start ≠ word'.start := by
      intro heq
      exact hne (by rw [place_issueOf, place_issueOf, heq])
    rcases Nat.lt_or_gt_of_ne hstart with hlt | hgt
    · exact .inr (.inl (h.run.stop_le_start h'.run hlt))
    · exact .inr (.inr (h'.run.stop_le_start h.run hgt))
  · exact .inl hsame

/-- Where an edit changes something there is a letter, and its capital takes its place. -/
theorem letter_of_covers {e : Edit} (he : e ∈ edits text) {row column : Nat}
    (hcovers : e.Covers row column) :
    ∃ c, cell? (text.splitOn '\n') row column = some c ∧ c.isAlpha = true
      ∧ e.new[column - e.start]? = some c.toUpper := by
  obtain ⟨row', line, keyword, word, hrow, hk, h, rfl⟩ := mem_edits_iff.1 he
  obtain ⟨rfl, hstart, hstop⟩ := hcovers
  change word.start ≤ column at hstart
  change column < word.start + word.text.length at hstop
  obtain ⟨c, hc, halpha, hupper⟩ := letter_of_misspelling hk h (k := column - word.start) (by omega)
  rw [Nat.add_sub_cancel' hstart] at hc
  refine ⟨c, ?_, halpha, hupper⟩
  exact (cell?_of_getElem? hrow column).trans hc

/-! ## The repaired text -/

/-- The lines of a text with the edits that its issues ask for. -/
def repairedLines (text : List Char) : List (List Char) :=
  Edit.applyAll (text.splitOn '\n') (edits text)

/-- Repairing makes no line longer or shorter. -/
theorem map_length_repairedLines (text : List Char) :
    (repairedLines text).map List.length = (text.splitOn '\n').map List.length :=
  Edit.map_length_applyAll fun _ he => fits_of_mem_edits he

/-- A character that no edit covers stays. -/
theorem cell?_repairedLines_of_not_covers {row column : Nat}
    (h : ∀ e ∈ edits text, ¬ e.Covers row column) :
    cell? (repairedLines text) row column = cell? (text.splitOn '\n') row column :=
  Edit.cell?_applyAll_of_not_covers (fun _ he => fits_of_mem_edits he) h

/-- A character that an edit covers is the one that the edit puts there. -/
theorem cell?_repairedLines_of_mem {e : Edit} (he : e ∈ edits text) {row column : Nat}
    (hcovers : e.Covers row column) :
    cell? (repairedLines text) row column = e.new[column - e.start]? :=
  Edit.cell?_applyAll_of_mem (fun _ he => fits_of_mem_edits he) (pairwise_edits text) he hcovers

/-- A line of the repaired text has the letters of the line that it comes from. -/
theorem sameLetters_repairedLines {row : Nat} {line line' : List Char}
    (hline : (text.splitOn '\n')[row]? = some line)
    (hline' : (repairedLines text)[row]? = some line') : SameLetters line line' := by
  refine SameLetters.iff_getElem?.2 fun column => ?_
  -- Place by place: an edit only makes capitals, and without one a place stays as it is.
  rw [← cell?_of_getElem? hline, ← cell?_of_getElem? hline']
  by_cases hcovered : ∃ e ∈ edits text, e.Covers row column
  · obtain ⟨e, he, hcovers⟩ := hcovered
    obtain ⟨c, hc, -, hupper⟩ := letter_of_covers he hcovers
    rw [cell?_repairedLines_of_mem he hcovers, hc, hupper, Option.map_some, Option.map_some,
      Char.toLower_toUpper_eq_toLower]
  · rw [cell?_repairedLines_of_not_covers fun e he hcovers => hcovered ⟨e, he, hcovers⟩]

/-- Every line of the repaired text comes from one of the text. -/
theorem exists_line_of_repairedLines {row : Nat} {line' : List Char}
    (hline' : (repairedLines text)[row]? = some line') :
    ∃ line, (text.splitOn '\n')[row]? = some line ∧ SameLetters line line' := by
  have hrow : (text.splitOn '\n')[row]?.map List.length = some line'.length := by
    rw [← List.getElem?_map, ← map_length_repairedLines, List.getElem?_map, hline', Option.map_some]
  obtain ⟨line, hline, -⟩ := Option.map_eq_some_iff.1 hrow
  exact ⟨line, hline, sameLetters_repairedLines hline hline'⟩

/-- The lines of the repaired text are those that were made. -/
theorem splitOn_repair (text : List Char) :
    (repair text (scan text)).splitOn '\n' = repairedLines text := by
  refine List.splitOn_intercalate '\n' ?_ ?_
  · -- A newline is no letter, so no edit brings one into a line.
    intro line' hmem
    obtain ⟨row, hline'⟩ := List.getElem?_of_mem hmem
    obtain ⟨line, hline, hsame⟩ := exists_line_of_repairedLines hline'
    rw [← hsame.mem_iff (by decide)]
    exact newline_not_mem (List.mem_of_getElem? hline)
  · intro hnil
    have hlength := congrArg List.length (map_length_repairedLines text)
    change (List.map List.length (repairedLines text)).length = _ at hlength
    rw [List.length_map, List.length_map, show repairedLines text = [] from hnil] at hlength
    exact List.splitOn_ne_nil '\n' text (List.length_eq_zero_iff.1 hlength.symm)

/-! ## Nothing is left -/

/-- Keywords with the same letters are the same. -/
theorem keyword_unique {a b : String} (ha : a ∈ keywords) (hb : b ∈ keywords)
    (h : SameLetters a.toList b.toList) : a = b := by
  have hnodup : (keywords.map fun keyword => keyword.toList.map Char.toLower).Nodup :=
    List.pairwise_map.2 keywords_differ
  exact List.inj_on_of_nodup_map hnodup ha hb h

section Word

variable {row : Nat} {chars chars' : List Char} {keyword : String} {word word' : Word}

/-- A misspelling becomes its keyword. -/
theorem text_eq_of_misspelling (hold : (text.splitOn '\n')[row]? = some chars)
    (hnew : (repairedLines text)[row]? = some chars') (hk : keyword ∈ keywords)
    (h : IsMisspelling keyword chars word) (hrun : IsRun chars' word')
    (hstart : word.start = word'.start) (hlength : word.text.length = word'.text.length) :
    word'.text = keyword.toList := by
  have hedit : editOf row keyword word ∈ edits text :=
    mem_edits_iff.2 ⟨row, chars, keyword, word, hold, hk, h, rfl⟩
  refine hrun.text_eq ((length_eq_of_misspelling h).trans hlength) fun k hlt => ?_
  have hcovers : (editOf row keyword word).Covers row (word.start + k) :=
    ⟨rfl, Nat.le_add_right _ _, Nat.add_lt_add_left (hlength ▸ hlt) _⟩
  have hcell := cell?_repairedLines_of_mem hedit hcovers
  rw [cell?_of_getElem? hnew, hstart] at hcell
  rw [hcell, editOf, hstart, Nat.add_sub_cancel_left]

/-- An edit that is about a letter of a word is that of the word: the two words have a letter in
common, so that neither ends before the other starts. -/
theorem not_covers_of_keyword (hold : (text.splitOn '\n')[row]? = some chars)
    (hk : keyword ∈ keywords) (hword : IsRun chars word) (htext : word.text = keyword.toList)
    {k : Nat} (hlt : k < word.text.length) :
    ∀ e ∈ edits text, ¬ e.Covers row (word.start + k) := by
  intro e he hcovers
  obtain ⟨row', line, other, misspelling, hrow, hother, h, rfl⟩ := mem_edits_iff.1 he
  obtain ⟨rfl, hfrom, hto⟩ := hcovers
  change misspelling.start ≤ word.start + k at hfrom
  change word.start + k < misspelling.start + misspelling.text.length at hto
  obtain rfl : line = chars := Option.some.inj (hrow.symm.trans hold)
  -- Words with a letter in common are one word, and then the keywords are one as well.
  have hsame : misspelling.start = word.start := by
    rcases Nat.lt_trichotomy misspelling.start word.start with hbefore | heq | hbehind
    · have := h.run.stop_le_start hword hbefore
      omega
    · exact heq
    · have := hword.stop_le_start h.run hbehind
      omega
  have hequal : misspelling.text = word.text := h.run.text_unique hword hsame
  have hletters : SameLetters keyword.toList other.toList := by
    rw [← htext, ← hequal]
    exact h.same
  obtain rfl := keyword_unique hk hother hletters
  exact h.differs (hequal.trans htext)

/-- A word that is a keyword stays as it is. -/
theorem text_eq_of_keyword (hold : (text.splitOn '\n')[row]? = some chars)
    (hnew : (repairedLines text)[row]? = some chars') (hk : keyword ∈ keywords)
    (hword : IsRun chars word) (htext : word.text = keyword.toList) (hrun : IsRun chars' word')
    (hstart : word.start = word'.start) (hlength : word.text.length = word'.text.length) :
    word'.text = keyword.toList := by
  refine hrun.text_eq (htext ▸ hlength) fun k hlt => ?_
  have hlt' : k < word.text.length := hlength ▸ hlt
  have hcell := cell?_repairedLines_of_not_covers (not_covers_of_keyword hold hk hword htext hlt')
  rw [cell?_of_getElem? hnew, cell?_of_getElem? hold, hword.getElem? hlt', htext, hstart] at hcell
  exact hcell

end Word

/-- In the repaired text there is nothing to report. A word of it that had the letters of a keyword
had them before; if it was the keyword it still is, and if it was not it has become it. -/
theorem scan_repair_eq_nil (text : List Char) : scan (repair text (scan text)) = [] := by
  refine List.eq_nil_iff_forall_not_mem.2 fun issue hissue => ?_
  obtain ⟨row, chars', keyword, word', hnew, hk, h, -⟩ := mem_scan_iff.1 hissue
  rw [splitOn_repair] at hnew
  obtain ⟨chars, hold, hsame⟩ := exists_line_of_repairedLines hnew
  obtain ⟨word, hrun, hstart, hletters⟩ := h.run.of_sameLetters hsame
  have hlength := hletters.length_eq
  refine h.differs ?_
  by_cases htext : word.text = keyword.toList
  · exact text_eq_of_keyword hold hnew hk hrun htext h.run hstart hlength
  · -- The word was reported: it stood outside of every quoted stretch then as it does now.
    have hvisible : ∀ stretch ∈ quotedStretches chars,
        ¬ (stretch.start ≤ word.start ∧ word.start < stretch.stop) := by
      rw [quotedStretches_congr hsame, hstart]
      exact h.visible
    have hmisspelt : IsMisspelling keyword chars word :=
      ⟨hrun, hletters.trans h.same, htext, hvisible⟩
    exact text_eq_of_misspelling hold hnew hk hmisspelt h.run hstart hlength

/-- **Doing as the rule says.** Each issue of a text is about some characters of one line, which are
the word that its message tells, and names a keyword of as many letters; no two are about one
character. So the keywords can be put in the place of the words, in any order. This leaves all lines
at their lengths, touches no character but those that the issues are about, and makes capitals of
these, which are letters. In the text that comes out there is nothing to report. -/
theorem scan_repair (text : List Char) :
    let old := text.splitOn '\n'
    let new := (repair text (scan text)).splitOn '\n'
    (∀ issue ∈ scan text, ∃ e line keyword, edit? issue = some e ∧ old[e.row]? = some line
      ∧ e.start < e.stop ∧ e.stop ≤ line.length
      ∧ keyword ∈ keywords ∧ e.new = keyword.toList ∧ e.new.length = e.stop - e.start
      ∧ (messageParts issue.message)[1]? = some ((line.drop e.start).take (e.stop - e.start)))
    ∧ (edits text).Pairwise Edit.Apart
    ∧ (∀ issues, issues.Perm (scan text) → repair text issues = repair text (scan text))
    ∧ new.map List.length = old.map List.length
    ∧ (∀ row column, (∀ e ∈ edits text, ¬ e.Covers row column) →
      cell? new row column = cell? old row column)
    ∧ (∀ e ∈ edits text, ∀ row column, e.Covers row column →
      ∃ c, cell? old row column = some c ∧ c.isAlpha = true
        ∧ cell? new row column = some c.toUpper ∧ e.new[column - e.start]? = some c.toUpper)
    ∧ scan (repair text (scan text)) = [] := by
  intro old new
  have hnew : new = repairedLines text := splitOn_repair text
  refine ⟨?_, pairwise_edits text, ?_, ?_, ?_, ?_, scan_repair_eq_nil text⟩
  · intro issue hissue
    obtain ⟨row, line, keyword, word, hrow, hk, h, rfl⟩ := mem_scan_iff.1 hissue
    have hpositive : 0 < word.text.length := by
      obtain ⟨-, -, -, -, hne, -⟩ := h.run
      exact List.length_pos_iff.2 hne
    have hlength : word.start + word.text.length - word.start = word.text.length :=
      Nat.add_sub_cancel_left ..
    refine ⟨editOf row keyword word, line, keyword, edit?_issueOf hk h row, hrow,
      Nat.lt_add_of_pos_right hpositive, h.run.stop_le, hk, rfl, ?_, ?_⟩
    · exact (length_eq_of_misspelling h).trans hlength.symm
    · rw [messageParts_issueOf hk h, editOf, hlength, h.run.take_drop]
      rfl
  · -- Issues in another order ask for the same edits in another order.
    intro issues hperm
    rw [repair, repair]
    congr 1
    exact Edit.applyAll_perm (hperm.filterMap edit?) (fun e he => fits_of_mem_edits he)
      (pairwise_edits text)
  · rw [hnew]
    exact map_length_repairedLines text
  · intro row column hnot
    rw [hnew]
    exact cell?_repairedLines_of_not_covers hnot
  · intro e he row column hcovers
    obtain ⟨c, hc, halpha, hupper⟩ := letter_of_covers he hcovers
    refine ⟨c, hc, halpha, ?_, hupper⟩
    rw [hnew, cell?_repairedLines_of_mem he hcovers, hupper]

/-- Two lines with a word each to correct, behind a letter beyond ASCII and before a quoted one: the
second word becomes its keyword, the first character stays, and the order of the edits can be turned
round. -/
theorem scan_repair_two_lines :
    let text := "éSelect 'as'\naS".toList
    let new := repair text (scan text)
    new = "éSELECT 'as'\nAS".toList
    ∧ (∃ issue ∈ scan text, ∃ e, edit? issue = some e ∧ e = ⟨0, 1, 7, "SELECT".toList⟩)
    ∧ repair text (scan text).reverse = new
    ∧ cell? (new.splitOn '\n') 0 0 = some 'é'
    ∧ cell? (new.splitOn '\n') 1 0 = some 'A' := by
  intro text new
  obtain ⟨hfits, -, hperm, -, hstays, hchanges, -⟩ := scan_repair text
  have hnew : new = "éSELECT 'as'\nAS".toList := by decide +kernel
  have hissue : issueOf 1 "SELECT" ⟨1, "Select".toList⟩ ∈ scan text := by decide +kernel
  have hfirst : ∀ e ∈ edits text, ¬ e.Covers 0 0 := by decide +kernel
  have hsecond : ⟨1, 0, 2, "AS".toList⟩ ∈ edits text := by decide +kernel
  refine ⟨hnew, ⟨_, hissue, ?_⟩, hperm _ (List.reverse_perm _), ?_, ?_⟩
  · obtain ⟨e, -, -, he, -⟩ := hfits _ hissue
    have hedit : edit? (issueOf 1 "SELECT" ⟨1, "Select".toList⟩) =
        some ⟨0, 1, 7, "SELECT".toList⟩ := by decide +kernel
    exact ⟨e, he, Option.some.inj (he.symm.trans hedit)⟩
  · rw [hstays 0 0 hfirst]
    rfl
  · obtain ⟨c, hc, -, hcell, -⟩ := hchanges _ hsecond 1 0 (by decide)
    obtain rfl : 'a' = c := Option.some.inj hc
    exact hcell

end QueryLint.KeywordCase
