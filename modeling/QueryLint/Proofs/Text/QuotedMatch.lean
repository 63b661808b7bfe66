import QueryLint.Proofs.Text.Bytes
import QueryLint.Proofs.Text.Quoted
import QueryLint.Proofs.Text.Regex

/-!
# Quoted text as an expression

Quoted text can be written as a regular expression (`Regex.quoted`): a quote, then as often as possible
a backslash with the quote behind it or a character that is not the quote, then the quote. A backslash
is such a character too, so the expression leaves open whether a quote behind it closes the text. The
order in which the ways are tried decides: to go on first, and back to the quote if nothing else closes.

> `findAll_quoted`: the matches of the expression are the stretches that are found.

`quoted_scan` puts together what there is to say of the stretches of a line: the scan that finds them,
the expression that matches them, and where they lie when the characters are counted in bytes.
-/

namespace QueryLint.Text

/-! ## The expression -/

variable {chars : List Char}

namespace Regex

/-- A quote behind a backslash, or a character that is not the quote. -/
def quotedPart (quote : Char) : Regex :=
  .either (.next (char '\\') (char quote)) (Regex.not quote)

/-- As many parts as possible, then the closing quote. -/
def closed (quote : Char) : Regex :=
  .next (.many (quotedPart quote)) (char quote)

/-- Quoted text of either kind: `'(?:\\'|[^'])*'|"(?:\\"|[^"])*"`. -/
def quoted : Regex :=
  .either (.next (char '\'') (closed '\'')) (.next (char '"') (closed '"'))

variable {quote : Char}

/-- Between quotes one character is taken, or two where the first is a backslash. -/
theorem rests_quotedPart_cons (c : Char) (text : List Char) :
    (quotedPart quote).rests (c :: text) =
      (if c = '\\' then (char quote).rests text else []) ++ if c = quote then [] else [text] := by
  rw [quotedPart, rests, rests, rests_char_cons, rests_not_cons]
  by_cases hc : c = '\\'
  · rw [if_pos hc, if_pos hc, List.flatMap_singleton]
  · rw [if_neg hc, if_neg hc, List.flatMap_nil]

/-- Either way some text is taken, so the repetition comes to an end. -/
theorem length_lt_of_mem_quotedPart {text : List Char} :
    ∀ rest ∈ (quotedPart quote).rests text, rest.length < text.length := by
  intro rest hrest
  cases text with
  | nil => cases hrest
  | cons c text =>
    rw [rests_quotedPart_cons, List.mem_append] at hrest
    rcases hrest with hrest | hrest
    · split at hrest
      · cases text with
        | nil => cases hrest
        | cons d text =>
          rw [rests_char_cons] at hrest
          split at hrest
          · obtain rfl := List.mem_singleton.1 hrest
            rw [List.length_cons, List.length_cons]
            omega
          · cases hrest
      · cases hrest
    · split at hrest
      · cases hrest
      · obtain rfl := List.mem_singleton.1 hrest
        exact Nat.lt_succ_self _

/-- Going on is tried before closing. -/
theorem rests_closed (quote : Char) (text : List Char) :
    (closed quote).rests text =
      (((quotedPart quote).rests text).flatMap (closed quote).rests) ++ (char quote).rests text := by
  rw [closed, rests, rests, repeated_eq length_lt_of_mem_quotedPart, List.flatMap_append,
    List.flatMap_assoc, List.flatMap_singleton]
  rfl

theorem rests_closed_nil (quote : Char) : (closed quote).rests [] = [] := by
  rw [rests_closed]
  rfl

/-- At the quote nothing can go on. -/
theorem rests_closed_quote (hquote : quote ≠ '\\') (text : List Char) :
    (closed quote).rests (quote :: text) = [text] := by
  rw [rests_closed, rests_quotedPart_cons, if_neg hquote, if_pos rfl, rests_char_cons, if_pos rfl]
  rfl

/-- A quote behind a backslash is taken as text first, and given back if it has to close the rest. -/
theorem rests_closed_escaped (hquote : quote ≠ '\\') (text : List Char) :
    (closed quote).rests ('\\' :: quote :: text) = (closed quote).rests text ++ [text] := by
  rw [rests_closed, rests_quotedPart_cons, if_pos rfl, if_neg hquote.symm, rests_char_cons,
    if_pos rfl, rests_char_cons, if_neg hquote.symm, List.append_nil, List.singleton_append,
    List.flatMap_cons, List.flatMap_cons, List.flatMap_nil, List.append_nil,
    rests_closed_quote hquote]

/-- Everything else is taken as text. -/
theorem rests_closed_other {c : Char} {text : List Char} (hc : c ≠ quote)
    (hescaped : c = '\\' → text.head? ≠ some quote) :
    (closed quote).rests (c :: text) = (closed quote).rests text := by
  have hpart : (quotedPart quote).rests (c :: text) = [text] := by
    rw [rests_quotedPart_cons, if_neg hc]
    by_cases hbackslash : c = '\\'
    · rw [if_pos hbackslash]
      cases text with
      | nil => rfl
      | cons d text =>
        have hd : d ≠ quote := fun h => hescaped hbackslash (congrArg some h)
        rw [rests_char_cons, if_neg hd, List.nil_append]
    · rw [if_neg hbackslash, List.nil_append]
  rw [rests_closed, hpart, rests_char_cons, if_neg hc, List.append_nil, List.flatMap_cons,
    List.flatMap_nil, List.append_nil]

end Regex

/-- A flag that nothing turns on a quote for does not matter. -/
theorem closing?_of_head?_ne {quote : Char} {text : List Char} (h : text.head? ≠ some quote)
    (escaped : Bool) : closing? quote escaped text = closing? quote false text := by
  cases text with
  | nil => rfl
  | cons c text =>
    have hc : c ≠ quote := fun heq => h (congrArg some heq)
    rw [closing?, closing?, if_neg hc, if_neg hc]

theorem map_drop_cons (c : Char) (text : List Char) (n? : Option Nat) :
    (n?.map (· + 1)).map (fun n => (c :: text).drop n) = n?.map fun n => text.drop n := by
  cases n? <;> rfl

/-- The first way to close a stretch is where the pass closes it. -/
theorem matchAt?_closed {quote : Char} (hquote : quote ≠ '\\') :
    ∀ text : List Char, (Regex.closed quote).matchAt? text =
      (closing? quote false text).map fun n => text.drop n
  | [] => by
    rw [Regex.matchAt?, Regex.rests_closed_nil]
    rfl
  | c :: text => by
    by_cases hclose : c = quote
    · subst hclose
      rw [Regex.matchAt?, Regex.rests_closed_quote hquote, closing?, if_pos rfl]
      rfl
    · rw [closing?, if_neg hclose, map_drop_cons]
      by_cases hescaped : c = '\\' ∧ text.head? = some quote
      · -- Both ways with the quote behind the backslash are there, and to go on comes first.
        obtain ⟨rfl, hhead⟩ := hescaped
        obtain ⟨text, rfl⟩ := List.head?_eq_some_iff.1 hhead
        have ih := matchAt?_closed hquote text
        rw [Regex.matchAt?] at ih
        rw [Regex.matchAt?, Regex.rests_closed_escaped hquote, List.head?_append, ih, closing?,
          if_pos rfl, if_pos (decide_eq_true rfl)]
        cases closing? quote false text <;> rfl
      · have ih := matchAt?_closed hquote text
        rw [Regex.matchAt?, Regex.rests_closed_other hclose fun h hhead => hescaped ⟨h, hhead⟩,
          ← Regex.matchAt?, ih]
        by_cases hbackslash : c = '\\'
        · rw [closing?_of_head?_ne (fun hhead => hescaped ⟨hbackslash, hhead⟩) (decide (c = '\\'))]
        · rw [decide_eq_false hbackslash]
termination_by text => text.length

/-- Quoted text starts at a quote that can be closed, and ends where it is closed. -/
theorem matchAt?_quoted (c : Char) (text : List Char) : Regex.quoted.matchAt? (c :: text) =
    if isQuote c then (closing? c false text).map fun n => text.drop n else none := by
  have hrests : Regex.quoted.rests (c :: text) =
      if isQuote c then (Regex.closed c).rests text else [] := by
    rw [Regex.quoted, Regex.rests, Regex.rests, Regex.rests, Regex.rests_char_cons,
      Regex.rests_char_cons]
    by_cases hsingle : c = '\''
    · subst hsingle
      simp [isQuote]
    · by_cases hdouble : c = '"'
      · subst hdouble
        simp [isQuote]
      · simp [isQuote, hsingle, hdouble]
  rw [Regex.matchAt?, hrests]
  cases hquote : isQuote c with
  | false => rfl
  | true =>
    rw [if_pos rfl, if_pos rfl]
    exact matchAt?_closed (ne_backslash_of_isQuote hquote) text

/-- A stretch that is closed ends inside its line. -/
theorem closing?_le_length {quote : Char} (hquote : isQuote quote = true) {text : List Char} {n : Nat}
    (h : closing? quote false text = some n) : n ≤ text.length := by
  have hcloses : ClosesFrom (quote :: text) 0 quote 1 _ := closesFrom_opening hquote
  rw [List.drop_succ_cons, List.drop_zero, h] at hcloses
  obtain ⟨stop, hstop, hstops⟩ := hcloses
  have hlt := (List.getElem?_eq_some_iff.1 hstops.isLater.2).1
  rw [List.length_cons] at hlt
  omega

/-- The matches from an offset on are the stretches from there on. -/
theorem findAllFrom_quoted (offset : Nat) (text : List Char) :
    Regex.quoted.findAllFrom offset text = quotedFrom 0 offset text := by
  match text with
  | [] => rw [Regex.findAllFrom, quotedFrom]
  | c :: text =>
    have ih := findAllFrom_quoted (offset + 1) text
    rw [Regex.findAllFrom, quotedFrom, matchAt?_quoted]
    cases hquote : isQuote c with
    | false =>
      simp only [Bool.false_eq_true, if_false]
      exact ih
    | true =>
      rw [if_pos rfl, if_pos rfl]
      cases hanswer : closing? c false text with
      | none => exact ih
      | some n =>
        have hle := closing?_le_length hquote hanswer
        have hstop : offset + ((c :: text).length - (text.drop n).length) = offset + 1 + n := by
          rw [List.length_cons, List.length_drop]
          omega
        have hshorter : (text.drop n).length < (c :: text).length := by
          rw [List.length_cons, List.length_drop]
          omega
        have ih := findAllFrom_quoted (offset + 1 + n) (text.drop n)
        simp only [Option.map_some, if_pos hshorter, hstop]
        rw [quotedFrom_skip, ih]
termination_by text.length

/-- **The stretches are matches.** What is found is what the expression for quoted text matches. -/
theorem findAll_quoted (chars : List Char) : Regex.quoted.findAll chars = quotedStretches chars :=
  findAllFrom_quoted 0 chars

/-! ## The description of a line -/

/-- The quoted stretches of a line, as intervals of bytes. -/
def quotedRanges (chars : List Char) : List Stretch :=
  (quotedStretches chars).map (Stretch.inBytes chars)

/-- A range is that of a stretch with its quotes. -/
theorem exists_of_mem_quotedRanges {r : Stretch} (h : r ∈ quotedRanges chars) :
    ∃ first last quote, r = ⟨byteOffset chars first, byteOffset chars (last + 1)⟩ ∧ first < last
      ∧ chars[first]? = some quote ∧ chars[last]? = some quote ∧ isQuote quote = true := by
  obtain ⟨s, hs, rfl⟩ := List.mem_map.1 h
  obtain ⟨quote, hquoted⟩ := quoted_of_mem hs
  have hlt := hquoted.start_lt
  refine ⟨s.start, s.stop - 1, quote, ?_, by omega, hquoted.opens, hquoted.last, hquoted.isQuote⟩
  rw [Stretch.inBytes, Nat.sub_add_cancel (by omega)]

/-- Quoted ranges stand one behind the other. -/
theorem pairwise_quotedRanges (chars : List Char) :
    (quotedRanges chars).Pairwise fun r s => r.stop ≤ s.start := by
  rw [quotedRanges, List.pairwise_map]
  refine (pairwise_quotedStretches chars).imp_of_mem fun {r s} hr hs hle => ?_
  obtain ⟨_, hr⟩ := quoted_of_mem hr
  obtain ⟨_, hs⟩ := quoted_of_mem hs
  have := hs.start_lt
  have := hs.stop_le
  exact (byteOffset_le_iff hr.stop_le (by omega)).2 hle

/-- The ranges hide the characters that the stretches hide. -/
theorem any_contains_quotedRanges {i : Nat} (hi : i ≤ chars.length) :
    (quotedRanges chars).any (·.contains (byteOffset chars i)) =
      (quotedStretches chars).any (·.contains i) := by
  rw [quotedRanges, List.any_map, Bool.eq_iff_iff, List.any_eq_true, List.any_eq_true]
  refine exists_congr fun s => and_congr_right fun hs => ?_
  obtain ⟨_, hquoted⟩ := quoted_of_mem hs
  have := hquoted.start_lt
  have := hquoted.stop_le
  rw [Function.comp_apply, contains_inBytes (by omega) hquoted.stop_le hi]

/-- **What is quoted in a line.** The stretches are those of the scan from left to right, which closes
a quote at the first quote of its kind that no backslash makes part of the text, or else at the last
one; they are also what the expression for quoted text matches. In bytes they are in order and do not
overlap, each goes from a character to the same quote further on, and they hide what they hide in
characters. Where a quote is that no other of its kind follows, there is no stretch. -/
theorem quoted_scan (chars : List Char) :
    (∀ found, Scans chars 0 found ↔ found = quotedStretches chars)
    ∧ Regex.quoted.findAll chars = quotedStretches chars
    ∧ (quotedRanges chars).Pairwise (fun r s => r.stop ≤ s.start)
    ∧ (∀ r ∈ quotedRanges chars, ∃ first last quote,
      r = ⟨byteOffset chars first, byteOffset chars (last + 1)⟩ ∧ first < last
        ∧ chars[first]? = some quote ∧ chars[last]? = some quote ∧ isQuote quote = true)
    ∧ (∀ i ≤ chars.length, (quotedRanges chars).any (·.contains (byteOffset chars i)) =
      (quotedStretches chars).any (·.contains i))
    ∧ ∀ i quote, chars[i]? = some quote → isQuote quote = true → (∀ j, ¬ Later chars i quote j) →
      ∀ s ∈ quotedStretches chars, s.start ≠ i := by
  refine ⟨fun found => scans_iff, findAll_quoted chars, pairwise_quotedRanges chars,
    fun r hr => exists_of_mem_quotedRanges hr, fun i hi => any_contains_quotedRanges hi, ?_⟩
  rintro i quote hquote - hnone s hs rfl
  obtain ⟨quote', hquoted⟩ := quoted_of_mem hs
  obtain rfl := Option.some.inj (hquote.symm.trans hquoted.opens)
  exact hnone _ hquoted.closes.isLater

/-- A string that an escaped quote does not close, one that an escaped quote closes since nothing else
does, and a quote that nothing closes, behind a character of two bytes. -/
theorem quoted_scan_of_each_kind :
    let chars := "é'a\\'b' \"c\\\" '".toList
    Scans chars 0 [⟨1, 7⟩, ⟨8, 12⟩]
      ∧ ⟨2, 8⟩ ∈ quotedRanges chars
      ∧ (∃ first last quote, (⟨2, 8⟩ : Stretch) =
          ⟨byteOffset chars first, byteOffset chars (last + 1)⟩ ∧ first < last
        ∧ chars[first]? = some quote ∧ chars[last]? = some quote ∧ isQuote quote = true)
      ∧ (quotedRanges chars).any (·.contains (byteOffset chars 5)) = true
      ∧ (∀ j, ¬ Later chars 13 '\'' j) ∧ ∀ s ∈ quotedStretches chars, s.start ≠ 13 := by
  intro chars
  obtain ⟨hscan, -, -, hrange, hhides, hlone⟩ := quoted_scan chars
  have hmem : ⟨2, 8⟩ ∈ quotedRanges chars := by decide
  have hinside : (quotedStretches chars).any (·.contains 5) = true := by decide
  have hnone : ∀ j, ¬ Later chars 13 '\'' j := by
    rintro j ⟨hlt, hj⟩
    have hlength : chars.length = 14 := by decide
    rw [List.getElem?_eq_none (by omega)] at hj
    cases hj
  refine ⟨(hscan _).2 (by decide), hmem, hrange _ hmem, ?_, hnone, ?_⟩
  · exact (hhides 5 (by decide)).trans hinside
  · exact hlone 13 '\'' (by decide) (by decide) hnone

end QueryLint.Text
