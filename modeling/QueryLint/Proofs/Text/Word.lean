import QueryLint.Text.Word

/-!
# Words are maximal runs

`occurrencesFrom` goes through a line once and carries two things along: whether the character
before is part of a word, and how many characters were passed. This file says what it finds without
either of them: `IsRun line w` states that `w` is a maximal run of word letters of the line, by the
text before and after it, and

> `mem_occurrences`: the words found for a keyword are the maximal runs that have its letters,

each of them once and from left to right (`pairwise_occurrences`). The class of word letters is
written out as ranges of ASCII, so that a letter of any other script ends a run
(`IsWordLetter.ascii`) and is the capital of no ASCII letter (`toLower_ne_of_ascii`).
-/

namespace QueryLint.Text

/-- A character that words are made of: an ASCII digit, an ASCII letter, or the underscore. -/
def IsWordLetter (c : Char) : Prop :=
  ('0' ≤ c ∧ c ≤ '9') ∨ ('A' ≤ c ∧ c ≤ 'Z') ∨ ('a' ≤ c ∧ c ≤ 'z') ∨ c = '_'

/-- Two texts are the same but for the case of ASCII letters. -/
def SameLetters (a b : List Char) : Prop :=
  a.map Char.toLower = b.map Char.toLower

/-- A word is a maximal run of word letters of a line: it is neither empty nor next to another word
letter, and its place is the number of characters before it. -/
def IsRun (line : List Char) (w : Word) : Prop :=
  ∃ before after, line = before ++ w.text ++ after ∧ before.length = w.start
    ∧ w.text ≠ [] ∧ (∀ c ∈ w.text, IsWordLetter c)
    ∧ (∀ c ∈ before.getLast?, ¬ IsWordLetter c) ∧ (∀ c ∈ after.head?, ¬ IsWordLetter c)

/-! ## Letters -/

/-- The characters of words are ASCII letters, digits and the underscore. -/
theorem isWordChar_iff {c : Char} : isWordChar c = true ↔ IsWordLetter c := by
  unfold isWordChar IsWordLetter Char.isAlphanum Char.isAlpha Char.isUpper Char.isLower Char.isDigit
  simp only [Bool.or_eq_true, Bool.and_eq_true, decide_eq_true_eq, ge_iff_le, Char.le_def]
  constructor
  · rintro (((h | h) | h) | h)
    · exact Or.inr (Or.inl h)
    · exact Or.inr (Or.inr (Or.inl h))
    · exact Or.inl h
    · exact Or.inr (Or.inr (Or.inr h))
  · rintro (h | h | h | h)
    · exact Or.inl (Or.inr h)
    · exact Or.inl (Or.inl (Or.inl h))
    · exact Or.inl (Or.inl (Or.inr h))
    · exact Or.inr h

theorem isWordChar_eq_false_iff {c : Char} : isWordChar c = false ↔ ¬ IsWordLetter c := by
  rw [← isWordChar_iff, Bool.not_eq_true]

/-- Word letters are ASCII characters. -/
theorem IsWordLetter.ascii {c : Char} (h : IsWordLetter c) : c.toNat < 128 := by
  rcases h with ⟨_, h⟩ | ⟨_, h⟩ | ⟨_, h⟩ | rfl
  · exact Nat.lt_of_le_of_lt h (by decide)
  · exact Nat.lt_of_le_of_lt h (by decide)
  · exact Nat.lt_of_le_of_lt h (by decide)
  · decide

/-- Only ASCII characters have ASCII characters for small letters. -/
theorem ascii_of_toLower {c : Char} (h : c.toLower.toNat < 128) : c.toNat < 128 := by
  by_cases hc : c.val ≥ 'A'.val ∧ c.val ≤ 'Z'.val
  · exact Nat.lt_of_le_of_lt hc.2 (by decide)
  · have hlower : c.toLower = c := dif_neg hc
    rw [hlower] at h
    exact h

/-- A character beyond ASCII differs from every ASCII character in more than case. -/
theorem toLower_ne_of_ascii {c d : Char} (hc : 128 ≤ c.toNat) (hd : d.toLower.toNat < 128) :
    c.toLower ≠ d.toLower := by
  intro h
  have := ascii_of_toLower (h ▸ hd)
  omega

/-- Comparing character by character decides whether two texts have the same letters. -/
theorem sameLetters_iff : ∀ {a b : List Char}, sameLetters a b = true ↔ SameLetters a b
  | [], [] => by simp [sameLetters, SameLetters]
  | [], _ :: _ => by simp [sameLetters, SameLetters]
  | _ :: _, [] => by simp [sameLetters, SameLetters]
  | a :: as, b :: bs => by
    have ih : sameLetters as bs = true ↔ SameLetters as bs := sameLetters_iff
    rw [sameLetters, Bool.and_eq_true, decide_eq_true_eq, ih, SameLetters, SameLetters,
      List.map_cons, List.map_cons, List.cons.injEq]

/-! ## The word that a text starts with -/

/-- The leading word takes all word letters up to the first other character. -/
theorem leadingWord_eq_iff {text word : List Char} :
    leadingWord text = word ↔
      ∃ after, text = word ++ after ∧ (∀ c ∈ word, IsWordLetter c)
        ∧ (∀ c ∈ after.head?, ¬ IsWordLetter c) := by
  constructor
  · rintro rfl
    refine ⟨text.dropWhile isWordChar, List.takeWhile_append_dropWhile.symm, ?_, ?_⟩
    · intro c hc
      exact isWordChar_iff.1 (List.all_eq_true.1 List.all_takeWhile c hc)
    · intro c hc
      have := List.head?_dropWhile_not isWordChar text
      rw [Option.mem_def.1 hc] at this
      exact isWordChar_eq_false_iff.1 this
  · rintro ⟨after, rfl, hword, hafter⟩
    have hall : ∀ c ∈ word, isWordChar c = true := fun c hc => isWordChar_iff.2 (hword c hc)
    rw [leadingWord, List.takeWhile_append_of_pos hall]
    cases after with
    | nil => simp
    | cons c rest =>
      have hc : ¬ isWordChar c = true := by
        rw [isWordChar_iff]
        exact hafter c rfl
      rw [List.takeWhile_cons_of_neg hc, List.append_nil]

/-! ## The words of a line -/

/-- What stands before a place ends in a word letter, or is empty and the line began in one. -/
def endsInside (inside : Bool) (before : List Char) : Bool :=
  (before.map isWordChar).getLastD inside

@[simp] theorem endsInside_nil (inside : Bool) : endsInside inside [] = inside := rfl

@[simp] theorem endsInside_cons (inside : Bool) (c : Char) (before : List Char) :
    endsInside inside (c :: before) = endsInside (isWordChar c) before := by
  rw [endsInside, List.map_cons, List.getLastD_cons, endsInside]

/-- At the start of a line nothing precedes, so only the last character before counts. -/
theorem endsInside_false_iff {before : List Char} :
    endsInside false before = false ↔ ∀ c ∈ before.getLast?, ¬ IsWordLetter c := by
  rw [endsInside, List.getLastD_eq_getLast?, List.getLast?_map]
  cases before.getLast? with
  | none => simp
  | some c => simp [isWordChar_eq_false_iff]

/-- What is found from a character on is the word that starts there, if it is a word and has the
letters of the keyword, and what is found behind the character. -/
theorem mem_occurrencesFrom_cons {keyword : List Char} {inside : Bool} {start : Nat} {c : Char}
    {line : List Char} {w : Word} :
    w ∈ occurrencesFrom keyword inside start (c :: line) ↔
      (inside = false ∧ SameLetters (leadingWord (c :: line)) keyword
        ∧ w = ⟨start, leadingWord (c :: line)⟩)
      ∨ w ∈ occurrencesFrom keyword (isWordChar c) (start + 1) line := by
  have hcond : (!inside && sameLetters (leadingWord (c :: line)) keyword) = true ↔
      inside = false ∧ SameLetters (leadingWord (c :: line)) keyword := by
    rw [Bool.and_eq_true, sameLetters_iff, Bool.not_eq_eq_eq_not, Bool.not_true]
  rw [occurrencesFrom]
  split
  next h =>
    obtain ⟨hin, hsame⟩ := hcond.1 h
    simp [hin, hsame]
  next h =>
    constructor
    · exact Or.inr
    · rintro (⟨hin, hsame, -⟩ | h')
      · exact absurd (hcond.2 ⟨hin, hsame⟩) h
      · exact h'

/-- The words that are found stand where the rest of the line starts with them and nothing before
them goes on into them. The induction follows the line; the place of the head is the empty text
before it, and a place further on has the head added to the text before. -/
theorem mem_occurrencesFrom {keyword : List Char} {w : Word} :
    ∀ {line : List Char} {inside : Bool} {start : Nat},
      w ∈ occurrencesFrom keyword inside start line ↔
        ∃ before rest, line = before ++ rest ∧ rest ≠ [] ∧ w.start = start + before.length
          ∧ endsInside inside before = false ∧ leadingWord rest = w.text
          ∧ SameLetters w.text keyword := by
  intro line
  induction line with
  | nil =>
    intro inside start
    constructor
    · intro h
      simp [occurrencesFrom] at h
    · rintro ⟨before, rest, h, hne, -⟩
      exact absurd (List.append_eq_nil_iff.1 h.symm).2 hne
  | cons c line ih =>
    intro inside start
    rw [mem_occurrencesFrom_cons, ih]
    constructor
    · rintro (⟨hin, hsame, rfl⟩ | ⟨before, rest, rfl, hne, hstart, hin, hlead, hsame⟩)
      · -- The word starts at the head: nothing stands before it.
        exact ⟨[], c :: line, rfl, by simp, rfl, hin, rfl, hsame⟩
      · -- It starts further on: the head is one more character before it.
        refine ⟨c :: before, rest, rfl, hne, ?_, by simpa using hin, hlead, hsame⟩
        rw [hstart, List.length_cons]
        omega
    · rintro ⟨before, rest, hline, hne, hstart, hin, hlead, hsame⟩
      cases before with
      | nil =>
        rw [List.nil_append] at hline
        subst hline
        have hword : w = ⟨start, leadingWord (c :: line)⟩ := by
          rw [hlead]
          cases w
          simpa using hstart
        exact Or.inl ⟨hin, hlead ▸ hsame, hword⟩
      | cons d before =>
        rw [List.cons_append, List.cons.injEq] at hline
        obtain ⟨rfl, rfl⟩ := hline
        refine Or.inr ⟨before, rest, rfl, hne, ?_, by simpa using hin, hlead, hsame⟩
        rw [hstart, List.length_cons]
        omega

/-- **The words of a line.** What is found for a keyword is the maximal runs of word letters that
have the letters of the keyword, whatever their case. -/
theorem mem_occurrences {keyword line : List Char} {w : Word} (hk : keyword ≠ []) :
    w ∈ occurrences keyword line ↔ IsRun line w ∧ SameLetters w.text keyword := by
  rw [occurrences, mem_occurrencesFrom]
  constructor
  · rintro ⟨before, rest, rfl, -, hstart, hin, hlead, hsame⟩
    obtain ⟨after, rfl, hword, hafter⟩ := leadingWord_eq_iff.1 hlead
    -- A keyword has a letter, so a word with its letters has one too.
    have hne : w.text ≠ [] := by
      intro h
      rw [h, SameLetters, List.map_nil] at hsame
      exact hk (List.map_eq_nil_iff.1 hsame.symm)
    refine ⟨⟨before, after, (List.append_assoc ..).symm, ?_, hne, hword, ?_, hafter⟩, hsame⟩
    · rw [hstart, Nat.zero_add]
    · exact endsInside_false_iff.1 hin
  · rintro ⟨⟨before, after, rfl, hstart, hne, hword, hbefore, hafter⟩, hsame⟩
    refine ⟨before, w.text ++ after, List.append_assoc .., ?_, ?_, ?_, ?_, hsame⟩
    · exact fun h => hne (List.append_eq_nil_iff.1 h).1
    · rw [hstart, Nat.zero_add]
    · exact endsInside_false_iff.2 hbefore
    · exact leadingWord_eq_iff.2 ⟨after, rfl, hword, hafter⟩

-- A letter beyond ASCII stands between words, an underscore does not.
example : occurrences "AS".toList "éas as_x As".toList = [⟨1, ['a', 's']⟩, ⟨9, ['A', 's']⟩] := by
  decide

/-- Nothing is found before the place where the search starts. -/
theorem start_le_of_mem_occurrencesFrom {keyword line : List Char} {inside : Bool} {start : Nat}
    {w : Word} (h : w ∈ occurrencesFrom keyword inside start line) : start ≤ w.start := by
  obtain ⟨before, _, _, _, hstart, _⟩ := mem_occurrencesFrom.1 h
  omega

/-- Words are found from left to right. The induction is on the line. -/
theorem pairwise_occurrencesFrom (keyword : List Char) :
    ∀ (line : List Char) (inside : Bool) (start : Nat),
      (occurrencesFrom keyword inside start line).Pairwise (·.start < ·.start)
  | [], _, _ => List.Pairwise.nil
  | c :: line, inside, start => by
    have ih := pairwise_occurrencesFrom keyword line (isWordChar c) (start + 1)
    rw [occurrencesFrom]
    split
    next =>
      refine List.pairwise_cons.2 ⟨fun w hw => ?_, ih⟩
      exact start_le_of_mem_occurrencesFrom hw
    next => exact ih

/-- The words are found from left to right, no two at one place. -/
theorem pairwise_occurrences (keyword line : List Char) :
    (occurrences keyword line).Pairwise (·.start < ·.start) :=
  pairwise_occurrencesFrom keyword line false 0

/-! ## One run at a place -/

/-- A run is what the line starts with behind the text before it. -/
theorem IsRun.leadingWord {line : List Char} {w : Word} (h : IsRun line w) :
    leadingWord (line.drop w.start) = w.text := by
  obtain ⟨before, after, rfl, hstart, -, hword, -, hafter⟩ := h
  rw [List.append_assoc, ← hstart, List.drop_left]
  exact leadingWord_eq_iff.2 ⟨after, rfl, hword, hafter⟩

/-- Two runs of a line that start at one place are the same. -/
theorem IsRun.text_unique {line : List Char} {v w : Word} (hv : IsRun line v) (hw : IsRun line w)
    (h : v.start = w.start) : v.text = w.text := by
  rw [← hv.leadingWord, ← hw.leadingWord, h]

/-- The letters of a run are those of the line behind the text before it. -/
theorem IsRun.getElem? {chars : List Char} {w : Word} (h : IsRun chars w) {k : Nat}
    (hk : k < w.text.length) : chars[w.start + k]? = w.text[k]? := by
  obtain ⟨before, after, rfl, hstart, -⟩ := h
  rw [List.append_assoc, ← hstart, List.getElem?_append_right (Nat.le_add_right _ _),
    Nat.add_sub_cancel_left, List.getElem?_append_left hk]

/-- A run is what its line has in its place. -/
theorem IsRun.take_drop {line : List Char} {w : Word} (h : IsRun line w) :
    (line.drop w.start).take w.text.length = w.text := by
  obtain ⟨before, after, rfl, hstart, -⟩ := h
  rw [List.append_assoc, ← hstart, List.drop_left, List.take_left]

/-- A run can be told letter by letter. -/
theorem IsRun.text_eq {chars : List Char} {w : Word} (h : IsRun chars w) {new : List Char}
    (hlength : new.length = w.text.length)
    (hletters : ∀ k < w.text.length, chars[w.start + k]? = new[k]?) : w.text = new := by
  refine List.ext_getElem? fun k => ?_
  by_cases hlt : k < w.text.length
  · rw [← h.getElem? hlt, hletters k hlt]
  · rw [List.getElem?_eq_none (Nat.le_of_not_lt hlt),
      List.getElem?_eq_none (hlength ▸ Nat.le_of_not_lt hlt)]

/-- A run lies inside its line. -/
theorem IsRun.stop_le {line : List Char} {w : Word} (h : IsRun line w) :
    w.start + w.text.length ≤ line.length := by
  obtain ⟨before, after, rfl, hstart, -⟩ := h
  rw [List.length_append, List.length_append, hstart]
  exact Nat.le_add_right _ _

/-- A run that starts behind another one starts behind its end: the letter before it, which is no
word letter, would be one of the other's. -/
theorem IsRun.stop_le_start {line : List Char} {v w : Word} (hv : IsRun line v) (hw : IsRun line w)
    (h : v.start < w.start) : v.start + v.text.length ≤ w.start := by
  refine Nat.le_of_not_lt fun hlt => ?_
  obtain ⟨before, after, hline, hstart, -, -, hbefore, -⟩ := hw
  have hk : w.start - 1 - v.start < v.text.length := by omega
  have hletter : before.getLast? = v.text[w.start - 1 - v.start]? := by
    rw [← hv.getElem? hk, List.getLast?_eq_getElem?, hline, List.append_assoc,
      List.getElem?_append_left (by omega)]
    congr 1
    omega
  rw [List.getElem?_eq_getElem hk] at hletter
  obtain ⟨-, -, -, -, -, hword, -, -⟩ := hv
  exact hbefore _ (Option.mem_def.2 hletter) (hword _ (List.getElem_mem hk))

/-! ## Runs place by place -/

/-- A run can be told by the characters of its line, from the one before it to the one behind it. -/
theorem isRun_iff {chars : List Char} {w : Word} :
    IsRun chars w ↔ w.text ≠ [] ∧ (∀ c ∈ w.text, IsWordLetter c)
      ∧ (∀ k < w.text.length, chars[w.start + k]? = w.text[k]?)
      ∧ (∀ i c, w.start = i + 1 → chars[i]? = some c → ¬ IsWordLetter c)
      ∧ ∀ c, chars[w.start + w.text.length]? = some c → ¬ IsWordLetter c := by
  constructor
  · intro h
    refine ⟨?_, ?_, fun k hk => h.getElem? hk, ?_, ?_⟩
    · obtain ⟨-, -, -, -, hne, -⟩ := h
      exact hne
    · obtain ⟨-, -, -, -, -, hword, -⟩ := h
      exact hword
    · obtain ⟨before, after, rfl, hstart, -, -, hbefore, -⟩ := h
      intro i c hi hc
      rw [List.append_assoc, List.getElem?_append_left (by omega)] at hc
      refine hbefore c ?_
      rw [Option.mem_def, List.getLast?_eq_getElem?, ← hc]
      congr 1
      omega
    · obtain ⟨before, after, rfl, hstart, -, -, -, hafter⟩ := h
      intro c hc
      rw [← hstart, ← List.length_append, List.getElem?_append_right (Nat.le_refl _), Nat.sub_self,
        ← List.head?_eq_getElem?] at hc
      exact hafter c hc
  · rintro ⟨hne, hword, hletters, hbefore, hafter⟩
    have htext : (chars.drop w.start).take w.text.length = w.text := by
      refine List.ext_getElem? fun k => ?_
      rw [List.getElem?_take, List.getElem?_drop]
      split
      next hk => exact hletters k hk
      next hk => exact (List.getElem?_eq_none (Nat.le_of_not_lt hk)).symm
    have hstart : w.start < chars.length := by
      have hpos := List.length_pos_iff.2 hne
      have hfirst := hletters 0 hpos
      rw [List.getElem?_eq_getElem hpos] at hfirst
      exact (List.getElem?_eq_some_iff.1 hfirst).1
    refine ⟨chars.take w.start, (chars.drop w.start).drop w.text.length, ?_, ?_, hne, hword, ?_, ?_⟩
    · have hrest : w.text ++ (chars.drop w.start).drop w.text.length = chars.drop w.start :=
        calc w.text ++ (chars.drop w.start).drop w.text.length
          _ = (chars.drop w.start).take w.text.length
                ++ (chars.drop w.start).drop w.text.length := by rw [htext]
          _ = chars.drop w.start := List.take_append_drop _ _
      rw [List.append_assoc, hrest, List.take_append_drop]
    · rw [List.length_take]
      omega
    · intro c hc
      rw [Option.mem_def, List.getLast?_take] at hc
      split at hc
      next => cases hc
      next hne =>
        rw [List.getElem?_eq_getElem (by omega), Option.some_or] at hc
        exact hbefore (w.start - 1) c (by omega) (by rw [← hc, List.getElem?_eq_getElem])
    · intro c hc
      rw [List.drop_drop, Option.mem_def, List.head?_drop] at hc
      exact hafter c hc

/-- A run of a line is one of every line that is the same around it. -/
theorem IsRun.congr {chars chars' : List Char} {w : Word} (h : IsRun chars w)
    (hsame : ∀ i, w.start ≤ i + 1 → i ≤ w.start + w.text.length → chars'[i]? = chars[i]?) :
    IsRun chars' w := by
  obtain ⟨hne, hword, hletters, hbefore, hafter⟩ := isRun_iff.1 h
  refine isRun_iff.2 ⟨hne, hword, fun k hk => ?_, fun i c hi hc => ?_, fun c hc => ?_⟩
  · rw [hsame _ (by omega) (by omega), hletters k hk]
  · rw [hsame i (by omega) (by omega)] at hc
    exact hbefore i c hi hc
  · rw [hsame _ (by omega) (by omega)] at hc
    exact hafter c hc

/-- A run ends before every character behind its start that is no word letter. -/
theorem IsRun.stop_le_of_not {chars : List Char} {w : Word} (h : IsRun chars w) {i : Nat} {c : Char}
    (hc : chars[i]? = some c) (hnot : ¬ IsWordLetter c) (hi : w.start ≤ i) :
    w.start + w.text.length ≤ i := by
  refine Nat.le_of_not_lt fun hlt => ?_
  obtain ⟨-, hword, hletters, -⟩ := isRun_iff.1 h
  have hletter := hletters (i - w.start) (by omega)
  rw [Nat.add_sub_cancel' hi, hc] at hletter
  exact hnot (hword c (List.mem_of_getElem? hletter.symm))

end QueryLint.Text
