import QueryLint.Text.Line

/-!
# Lines are what lies between newlines

`lines` puts every character on the first line of what follows it. `lines_eq_splitOn` says that this
is the text split at its newlines, so that all that is known of splitting lists holds of lines;
`numberedLines` counts the pieces from one, each number once.
-/

namespace QueryLint.Text

@[simp] theorem lines_newline (text : List Char) : lines ('\n' :: text) = [] :: lines text := by
  rw [lines, if_pos rfl]

theorem lines_ne_nil : ∀ text : List Char, lines text ≠ []
  | [] => by simp [lines]
  | c :: text => by
    unfold lines
    split
    next => exact List.cons_ne_nil _ _
    next => split <;> exact List.cons_ne_nil _ _

/-- A character that is no newline goes to the front of the line that follows it. -/
theorem lines_cons {c : Char} (hc : c ≠ '\n') (text : List Char) :
    lines (c :: text) = (lines text).modifyHead (c :: ·) := by
  rw [lines, if_neg hc]
  cases h : lines text with
  | nil => exact absurd h (lines_ne_nil text)
  | cons line more => rfl

/-- The lines of a text are the text split at its newlines. -/
theorem lines_eq_splitOn (text : List Char) : lines text = text.splitOn '\n' := by
  induction text with
  | nil => rfl
  | cons c text ih =>
    rw [List.splitOn_cons_eq_if_modifyHead]
    by_cases hc : c = '\n'
    · subst hc
      rw [lines_newline, ih]
      rfl
    · rw [lines_cons hc, if_neg (by simpa using hc), ih]

/-- Lines are numbered in order, from one on. -/
theorem numberedLines_eq (text : List Char) :
    numberedLines text = ((text.splitOn '\n').zipIdx 1).map fun (line, number) => (number, line) := by
  rw [numberedLines, lines_eq_splitOn]

/-- The number of a line is one more than the number of lines before it. -/
theorem mem_numberedLines {text line : List Char} {number : Nat} :
    (number, line) ∈ numberedLines text ↔
      ∃ row, number = row + 1 ∧ (text.splitOn '\n')[row]? = some line := by
  rw [numberedLines_eq, List.mem_map]
  constructor
  · rintro ⟨⟨line', number'⟩, hmem, heq⟩
    obtain ⟨rfl, rfl⟩ := Prod.mk.inj heq
    obtain ⟨hle, hget⟩ := List.mk_mem_zipIdx_iff_le_and_getElem?_sub.1 hmem
    exact ⟨number' - 1, by omega, hget⟩
  · rintro ⟨row, rfl, hget⟩
    exact ⟨(line, row + 1), List.mk_mem_zipIdx_iff_le_and_getElem?_sub.2 ⟨by omega, hget⟩, rfl⟩

/-- No line has a newline in it. -/
theorem newline_not_mem {text line : List Char} (h : line ∈ text.splitOn '\n') : '\n' ∉ line := by
  rw [← lines_eq_splitOn] at h
  induction text generalizing line with
  | nil =>
    obtain rfl := List.mem_singleton.1 h
    exact List.not_mem_nil
  | cons c text ih =>
    by_cases hc : c = '\n'
    · subst hc
      rw [lines_newline] at h
      rcases List.mem_cons.1 h with rfl | h
      · exact List.not_mem_nil
      · exact ih h
    · rw [lines_cons hc] at h
      cases hlines : lines text with
      | nil => exact absurd hlines (lines_ne_nil text)
      | cons first more =>
        -- The character is at the front of the first line, and no newline.
        rw [hlines, List.modifyHead_cons] at h
        rw [hlines] at ih
        rcases List.mem_cons.1 h with rfl | h
        · intro hmem
          rcases List.mem_cons.1 hmem with heq | hmem
          · exact hc heq.symm
          · exact ih List.mem_cons_self hmem
        · exact ih (List.mem_cons_of_mem _ h)

/-- No two lines have one number. -/
theorem pairwise_numberedLines (text : List Char) :
    (numberedLines text).Pairwise (fun a b => a.1 ≠ b.1) := by
  have hmap : (numberedLines text).map Prod.fst = List.range' 1 (lines text).length := by
    rw [numberedLines, List.map_map, ← List.zipIdx_map_snd 1 (lines text)]
    rfl
  have hnodup : ((numberedLines text).map Prod.fst).Nodup := by
    rw [hmap]
    exact List.nodup_range'
  exact List.pairwise_map.1 hnodup

/-! ## Line endings -/

/-- The two ways to end a line. -/
inductive LineEnd
  | newline
  | returnNewline
  deriving DecidableEq, Repr

/-- The characters of a line ending. -/
def LineEnd.chars : LineEnd → List Char
  | newline => ['\n']
  | returnNewline => ['\r', '\n']

/-- The second text is the first with other endings of some of its lines. -/
inductive Reended : List Char → List Char → Prop
  | refl (text : List Char) : Reended text text
  | ending (before : List Char) (old new : LineEnd) {behind behind' : List Char}
    (h : Reended behind behind') :
    Reended (before ++ old.chars ++ behind) (before ++ new.chars ++ behind')

/-- A text has one line more than newlines. -/
theorem length_splitOn (text : List Char) : (text.splitOn '\n').length = text.count '\n' + 1 := by
  rw [← lines_eq_splitOn]
  induction text with
  | nil => rfl
  | cons c text ih =>
    by_cases hc : c = '\n'
    · subst hc
      rw [lines_newline, List.length_cons, ih, List.count_cons_self]
    · rw [lines_cons hc, List.length_modifyHead, ih, List.count_cons_of_ne hc]

/-- A character behind the end of a text goes to the end of its last line. -/
theorem exists_splitOn_concat {c : Char} (hc : c ≠ '\n') (text : List Char) :
    ∃ above last, text.splitOn '\n' = above ++ [last]
      ∧ (text ++ [c]).splitOn '\n' = above ++ [last ++ [c]] := by
  rw [← lines_eq_splitOn, ← lines_eq_splitOn]
  induction text with
  | nil =>
    refine ⟨[], [], rfl, ?_⟩
    rw [List.nil_append, lines_cons hc]
    rfl
  | cons d text ih =>
    obtain ⟨above, last, hlines, hconcat⟩ := ih
    rw [List.cons_append]
    by_cases hd : d = '\n'
    · subst hd
      refine ⟨[] :: above, last, ?_, ?_⟩
      · rw [lines_newline, hlines, List.cons_append]
      · rw [lines_newline, hconcat, List.cons_append]
    · rw [lines_cons hd, lines_cons hd, hlines, hconcat]
      cases above with
      | nil => exact ⟨[], d :: last, rfl, rfl⟩
      | cons first above => exact ⟨(d :: first) :: above, last, rfl, rfl⟩

end QueryLint.Text
