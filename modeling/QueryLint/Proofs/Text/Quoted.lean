import QueryLint.Text.Quoted

/-!
# Where quoted text lies

`quotedStretches` goes through a line once and carries along whether a quote would be taken as text.
`Scans` says the same without that: a stretch ends where a look at all quotes that follow says it does
(`Closes`), at the first one that does not stand behind a backslash, or else at the last one.

> `scans_iff`: a line has one scan, and it gives the stretches that `quotedStretches` finds.

The pass knows less than the scan asks for, since whether a quote behind a backslash closes a stretch
depends on what stands after it. What makes it work is that the answer for the rest of the line is the
answer to the same question with one quote less (`closesFrom_closing?`). Everything else about stretches
is read off the scan: where they start and end (`quoted_of_mem`) and that they do not overlap
(`pairwise_quotedStretches`).
-/

namespace QueryLint.Text

/-! ## Where a stretch ends -/

/-- A quote of the line behind the opening one is escaped if the character directly before it is a
backslash which is itself behind the opening quote. -/
def Escaped (chars : List Char) (opening i : Nat) : Prop :=
  opening < i - 1 ∧ chars[i - 1]? = some '\\'

instance (chars : List Char) (opening i : Nat) : Decidable (Escaped chars opening i) :=
  inferInstanceAs (Decidable (_ ∧ _))

/-- Of the places that could end something, some are escaped: it ends at the first one that is not, and
if all of them are at the last one. -/
inductive StopsAt (later escaped : Nat → Prop) : Nat → Prop
  | first {i : Nat} (hlater : later i) (hfree : ¬ escaped i)
    (hfirst : ∀ j, later j → j < i → escaped j) : StopsAt later escaped i
  | last {i : Nat} (hlater : later i) (hall : ∀ j, later j → escaped j)
    (hlast : ∀ j, later j → j ≤ i) : StopsAt later escaped i

/-- The same quote stands at a later place of the line. -/
def Later (chars : List Char) (opening : Nat) (quote : Char) (i : Nat) : Prop :=
  opening < i ∧ chars[i]? = some quote

/-- The stretch with this opening quote is closed at a place. -/
def Closes (chars : List Char) (opening : Nat) (quote : Char) (i : Nat) : Prop :=
  StopsAt (Later chars opening quote) (Escaped chars opening) i

/-- The scan of a line from a place on: a quote that can be closed makes a stretch, behind which the scan
goes on; a quote that cannot be closed, and any other character, is passed over. -/
inductive Scans (chars : List Char) : Nat → List Stretch → Prop
  | done {i : Nat} (h : chars[i]? = none) : Scans chars i []
  | other {i : Nat} {c : Char} {found : List Stretch} (hc : chars[i]? = some c)
    (h : isQuote c = false) (hrest : Scans chars (i + 1) found) : Scans chars i found
  | unclosed {i : Nat} {quote : Char} {found : List Stretch} (hc : chars[i]? = some quote)
    (h : isQuote quote = true) (hnone : ∀ j, ¬ Later chars i quote j)
    (hrest : Scans chars (i + 1) found) : Scans chars i found
  | string {i stop : Nat} {quote : Char} {found : List Stretch} (hc : chars[i]? = some quote)
    (h : isQuote quote = true) (hcloses : Closes chars i quote stop)
    (hrest : Scans chars (stop + 1) found) : Scans chars i (⟨i, stop + 1⟩ :: found)

theorem isQuote_iff {c : Char} : isQuote c = true ↔ c = '\'' ∨ c = '"' := by
  rw [isQuote, Bool.or_eq_true, decide_eq_true_eq, decide_eq_true_eq]

theorem ne_backslash_of_isQuote {c : Char} (h : isQuote c = true) : c ≠ '\\' := by
  rintro rfl
  cases h

namespace StopsAt

variable {later later' escaped escaped' : Nat → Prop} {i j : Nat}

theorem isLater (h : StopsAt later escaped i) : later i := by
  cases h with
  | first hlater => exact hlater
  | last hlater => exact hlater

/-- A thing ends at one place only. -/
theorem unique (hi : StopsAt later escaped i) (hj : StopsAt later escaped j) : i = j := by
  cases hi with
  | first hlater hfree hfirst =>
    cases hj with
    | first hlater' hfree' hfirst' =>
      rcases Nat.lt_trichotomy i j with hlt | heq | hgt
      · exact absurd (hfirst' i hlater hlt) hfree
      · exact heq
      · exact absurd (hfirst j hlater' hgt) hfree'
    | last _ hall => exact absurd (hall i hlater) hfree
  | last hlater hall hlast =>
    cases hj with
    | first hlater' hfree' => exact absurd (hall j hlater') hfree'
    | last hlater' _ hlast' => exact Nat.le_antisymm (hlast' i hlater) (hlast j hlater')

/-- It still ends there with fewer places that could end it, as long as what is escaped up to there is
the same. -/
theorem mono (h : StopsAt later escaped i) (hi : later' i) (hlater : ∀ j, later' j → later j)
    (hescaped : ∀ j ≤ i, later j → (escaped' j ↔ escaped j)) : StopsAt later' escaped' i := by
  cases h with
  | first hi' hfree hfirst =>
    refine .first hi (mt (hescaped i (Nat.le_refl i) hi').1 hfree) fun j hj hlt => ?_
    have hj := hlater j hj
    exact (hescaped j (Nat.le_of_lt hlt) hj).2 (hfirst j hj hlt)
  | last hi' hall hlast =>
    refine .last hi (fun j hj => ?_) fun j hj => hlast j (hlater j hj)
    have hj := hlater j hj
    exact (hescaped j (hlast j hj) hj).2 (hall j hj)

/-- Where something stops depends on nothing but which places are looked at. -/
theorem congr (h : StopsAt later escaped i) (hlater : ∀ j, later' j ↔ later j) :
    StopsAt later' escaped i :=
  h.mono ((hlater i).2 h.isLater) (fun j => (hlater j).1) fun _ _ _ => Iff.rfl

/-- An escaped place before all others does not matter as long as there are others. -/
theorem of_escaped {first : Nat} (h : StopsAt later escaped i) (hfirst : ∀ j, later j → first < j)
    (hescaped : escaped first) : StopsAt (fun j => j = first ∨ later j) escaped i := by
  cases h with
  | first hi hfree hbefore =>
    refine .first (.inr hi) hfree fun j hj hlt => ?_
    rcases hj with rfl | hj
    · exact hescaped
    · exact hbefore j hj hlt
  | last hi hall hlast =>
    refine .last (.inr hi) (fun j hj => ?_) fun j hj => ?_
    · rcases hj with rfl | hj
      · exact hescaped
      · exact hall j hj
    · rcases hj with rfl | hj
      · exact Nat.le_of_lt (hfirst i hi)
      · exact hlast j hj

end StopsAt

/-! ## One pass finds it -/

section Pass

variable {chars : List Char} {opening : Nat} {quote : Char}

/-- The same quote stands at a place of the line that is not before the given one. -/
def LaterFrom (chars : List Char) (quote : Char) (from_ i : Nat) : Prop :=
  from_ ≤ i ∧ chars[i]? = some quote

/-- What a pass from a place on may answer: that there is no quote, or how far it is to the place where
the stretch is closed. -/
def ClosesFrom (chars : List Char) (opening : Nat) (quote : Char) (i : Nat) : Option Nat → Prop
  | none => ∀ j, ¬ LaterFrom chars quote i j
  | some n => ∃ stop, i + n = stop + 1 ∧ StopsAt (LaterFrom chars quote i) (Escaped chars opening) stop

/-- From a place with another character on, the quotes are those behind it. -/
theorem laterFrom_of_ne {i : Nat} {c : Char} (hc : chars[i]? = some c) (hne : c ≠ quote) (j : Nat) :
    LaterFrom chars quote i j ↔ LaterFrom chars quote (i + 1) j := by
  constructor
  · rintro ⟨hle, hj⟩
    refine ⟨Nat.lt_of_le_of_ne hle ?_, hj⟩
    rintro rfl
    exact hne (Option.some.inj (hc.symm.trans hj))
  · rintro ⟨hlt, hj⟩
    exact ⟨Nat.le_of_succ_le hlt, hj⟩

/-- From a place with the quote on, the quotes are this one and those behind it. -/
theorem laterFrom_of_eq {i : Nat} (hc : chars[i]? = some quote) (j : Nat) :
    LaterFrom chars quote i j ↔ j = i ∨ LaterFrom chars quote (i + 1) j := by
  constructor
  · rintro ⟨hle, hj⟩
    rcases Nat.eq_or_lt_of_le hle with rfl | hlt
    · exact .inl rfl
    · exact .inr ⟨hlt, hj⟩
  · rintro (rfl | ⟨hlt, hj⟩)
    · exact ⟨Nat.le_refl _, hc⟩
    · exact ⟨Nat.le_of_succ_le hlt, hj⟩

/-- Behind the opening quote a character is escaped by a backslash right before it, and by nothing
else. -/
theorem escaped_succ_iff {i : Nat} {c : Char} (hc : chars[i]? = some c) (hopening : opening < i) :
    Escaped chars opening (i + 1) ↔ c = '\\' := by
  rw [Escaped, Nat.add_sub_cancel, hc, Option.some.injEq]
  exact and_iff_right hopening

/-- A character that is not the quote is passed. -/
theorem ClosesFrom.pass {i : Nat} {c : Char} {n? : Option Nat}
    (h : ClosesFrom chars opening quote (i + 1) n?) (hc : chars[i]? = some c) (hne : c ≠ quote) :
    ClosesFrom chars opening quote i (n?.map (· + 1)) := by
  have hlater := laterFrom_of_ne hc hne
  cases n? with
  | none => exact fun j hj => h j ((hlater j).1 hj)
  | some n =>
    obtain ⟨stop, hstop, hstops⟩ := h
    refine ⟨stop, ?_, hstops.congr hlater⟩
    change i + (n + 1) = stop + 1
    omega

/-- A quote that is not escaped closes the stretch. -/
theorem closesFrom_of_free {i : Nat} (hc : chars[i]? = some quote)
    (hfree : ¬ Escaped chars opening i) : ClosesFrom chars opening quote i (some 1) := by
  refine ⟨i, rfl, .first ((laterFrom_of_eq hc i).2 (.inl rfl)) hfree fun j hj hlt => ?_⟩
  exact absurd hj.1 (Nat.not_le_of_lt hlt)

/-- A quote that is escaped closes the stretch only if no other follows. -/
theorem ClosesFrom.escaped {i : Nat} {n? : Option Nat}
    (h : ClosesFrom chars opening quote (i + 1) n?) (hc : chars[i]? = some quote)
    (hescaped : Escaped chars opening i) :
    ClosesFrom chars opening quote i (some (n?.getD 0 + 1)) := by
  have hlater := laterFrom_of_eq hc
  cases n? with
  | none =>
    refine ⟨i, rfl, .last ((hlater i).2 (.inl rfl)) (fun j hj => ?_) fun j hj => ?_⟩
    · rcases (hlater j).1 hj with rfl | hj
      · exact hescaped
      · exact absurd hj (h j)
    · rcases (hlater j).1 hj with rfl | hj
      · exact Nat.le_refl _
      · exact absurd hj (h j)
  | some n =>
    obtain ⟨stop, hstop, hstops⟩ := h
    refine ⟨stop, ?_, (hstops.of_escaped (fun j hj => hj.1) hescaped).congr hlater⟩
    rw [Option.getD_some, ← hstop]
    omega

/-- A pass from any place on answers the question for the quotes from there on. The induction follows
the rest of the line; the flag of the pass says whether a quote at its place would be escaped. -/
theorem closesFrom_closing? (hquote : quote ≠ '\\') :
    ∀ {text : List Char} {i : Nat}, chars.drop i = text → opening < i →
      ClosesFrom chars opening quote i (closing? quote (decide (Escaped chars opening i)) text) := by
  intro text
  induction text with
  | nil =>
    rintro i htext - j ⟨hle, hj⟩
    have hlength := List.drop_eq_nil_iff.1 htext
    rw [List.getElem?_eq_none (Nat.le_trans hlength hle)] at hj
    cases hj
  | cons c text ih =>
    intro i htext hopening
    have hc : chars[i]? = some c := by
      rw [← List.head?_drop, htext, List.head?_cons]
    have hrest : chars.drop (i + 1) = text := by
      rw [← List.tail_drop, htext, List.tail_cons]
    have ih := ih hrest (Nat.lt_succ_of_lt hopening)
    have hflag : decide (Escaped chars opening (i + 1)) = decide (c = '\\') :=
      decide_eq_decide.2 (escaped_succ_iff hc hopening)
    rw [hflag] at ih
    by_cases hclose : c = quote
    · subst hclose
      rw [decide_eq_false hquote] at ih
      rw [closing?, if_pos rfl]
      by_cases hescaped : Escaped chars opening i
      · rw [if_pos (decide_eq_true hescaped)]
        exact ih.escaped hc hescaped
      · rw [decide_eq_false hescaped, if_neg Bool.false_ne_true]
        exact closesFrom_of_free hc hescaped
    · rw [closing?, if_neg hclose]
      exact ih.pass hc hclose

/-- Right behind the opening quote no quote is escaped, and the pass starts there. -/
theorem closesFrom_opening (hquote : isQuote quote = true) :
    ClosesFrom chars opening quote (opening + 1) (closing? quote false (chars.drop (opening + 1))) := by
  have hescaped : ¬ Escaped chars opening (opening + 1) := by
    rintro ⟨h, -⟩
    exact Nat.lt_irrefl _ h
  have h : ClosesFrom chars opening quote (opening + 1) _ :=
    closesFrom_closing? (ne_backslash_of_isQuote hquote) rfl (Nat.lt_succ_self opening)
  rwa [decide_eq_false hescaped] at h

end Pass

/-! ## The scan of a line -/

variable {chars : List Char}

/-- To skip characters is to start behind them. -/
theorem quotedFrom_skip (skip offset : Nat) (text : List Char) :
    quotedFrom skip offset text = quotedFrom 0 (offset + skip) (text.drop skip) := by
  induction text generalizing skip offset with
  | nil => simp [quotedFrom]
  | cons c text ih =>
    cases skip with
    | zero => rfl
    | succ skip =>
      rw [quotedFrom, ih, List.drop_succ_cons, Nat.add_right_comm, Nat.add_assoc]

/-- What is found from a place on is the scan from there on. -/
theorem scans_quotedFrom (chars : List Char) (i : Nat) :
    Scans chars i (quotedFrom 0 i (chars.drop i)) := by
  cases htext : chars.drop i with
  | nil => exact .done (List.getElem?_eq_none (List.drop_eq_nil_iff.1 htext))
  | cons c text =>
    have hc : chars[i]? = some c := by
      rw [← List.head?_drop, htext, List.head?_cons]
    have hrest : text = chars.drop (i + 1) := by
      rw [← List.tail_drop, htext, List.tail_cons]
    have hi : i < chars.length := (List.getElem?_eq_some_iff.1 hc).1
    rw [quotedFrom, hrest]
    cases hquote : isQuote c with
    | false =>
      rw [if_neg Bool.false_ne_true]
      exact .other hc hquote (scans_quotedFrom chars (i + 1))
    | true =>
      have hcloses : ClosesFrom chars i c (i + 1) _ := closesFrom_opening hquote
      rw [if_pos rfl]
      cases hanswer : closing? c false (chars.drop (i + 1)) with
      | none =>
        rw [hanswer] at hcloses
        exact .unclosed hc hquote hcloses (scans_quotedFrom chars (i + 1))
      | some n =>
        rw [hanswer] at hcloses
        obtain ⟨stop, hstop, hstops⟩ := hcloses
        dsimp only
        rw [quotedFrom_skip, List.drop_drop, hstop]
        exact .string hc hquote hstops (scans_quotedFrom chars (stop + 1))
termination_by chars.length - i
decreasing_by all_goals omega

namespace Scans

variable {i : Nat} {found found' : List Stretch}

/-- There is only one scan of a line. -/
theorem unique (h : Scans chars i found) (h' : Scans chars i found') : found = found' := by
  induction h generalizing found' with
  | done hend =>
    cases h' with
    | done => rfl
    | other hc => cases hend.symm.trans hc
    | unclosed hc => cases hend.symm.trans hc
    | string hc => cases hend.symm.trans hc
  | other hc hplain _ ih =>
    cases h' with
    | done hend => cases hend.symm.trans hc
    | other _ _ hrest => exact ih hrest
    | unclosed hc' hquote =>
      cases hc.symm.trans hc'
      cases hplain.symm.trans hquote
    | string hc' hquote =>
      cases hc.symm.trans hc'
      cases hplain.symm.trans hquote
  | unclosed hc hquote hnone _ ih =>
    cases h' with
    | done hend => cases hend.symm.trans hc
    | other hc' hplain =>
      cases hc.symm.trans hc'
      cases hplain.symm.trans hquote
    | unclosed _ _ _ hrest => exact ih hrest
    | string hc' _ hcloses =>
      cases hc.symm.trans hc'
      exact absurd hcloses.isLater (hnone _)
  | string hc hquote hcloses _ ih =>
    cases h' with
    | done hend => cases hend.symm.trans hc
    | other hc' hplain =>
      cases hc.symm.trans hc'
      cases hplain.symm.trans hquote
    | unclosed hc' _ hnone =>
      cases hc.symm.trans hc'
      exact absurd hcloses.isLater (hnone _)
    | string hc' _ hcloses' hrest =>
      cases hc.symm.trans hc'
      obtain rfl := hcloses.unique hcloses'
      rw [ih hrest]

end Scans

/-- A line has one scan, and it gives the stretches that are found. -/
theorem scans_iff {found : List Stretch} : Scans chars 0 found ↔ found = quotedStretches chars := by
  have h : Scans chars 0 (quotedStretches chars) := scans_quotedFrom chars 0
  constructor
  · intro h'
    exact h'.unique h
  · rintro rfl
    exact h

/-! ## What the stretches are -/

/-- A stretch goes from a quote to the place where it is closed. -/
structure Stretch.Quoted (chars : List Char) (s : Stretch) (quote : Char) : Prop where
  opens : chars[s.start]? = some quote
  isQuote : isQuote quote = true
  closes : Closes chars s.start quote (s.stop - 1)

namespace Stretch.Quoted

variable {s : Stretch} {quote : Char}

/-- A quoted stretch has room for two quotes. -/
theorem start_lt (h : s.Quoted chars quote) : s.start + 1 < s.stop := by
  have := h.closes.isLater.1
  omega

theorem last (h : s.Quoted chars quote) : chars[s.stop - 1]? = some quote :=
  h.closes.isLater.2

theorem stop_le (h : s.Quoted chars quote) : s.stop ≤ chars.length := by
  have := (List.getElem?_eq_some_iff.1 h.last).1
  omega

end Stretch.Quoted

namespace Scans

variable {i : Nat} {found : List Stretch}

/-- A scan finds nothing before the place where it starts. -/
theorem le_start (h : Scans chars i found) : ∀ s ∈ found, i ≤ s.start := by
  induction h with
  | done => exact fun s hs => nomatch hs
  | other _ _ _ ih => exact fun s hs => Nat.le_of_succ_le (ih s hs)
  | unclosed _ _ _ _ ih => exact fun s hs => Nat.le_of_succ_le (ih s hs)
  | string _ _ hcloses _ ih =>
    intro s hs
    rcases List.mem_cons.1 hs with rfl | hs
    · exact Nat.le_refl _
    · exact Nat.le_trans (Nat.le_of_lt hcloses.isLater.1) (Nat.le_of_succ_le (ih s hs))

/-- All that it finds is quoted. -/
theorem quoted (h : Scans chars i found) : ∀ s ∈ found, ∃ quote, s.Quoted chars quote := by
  induction h with
  | done => exact fun s hs => nomatch hs
  | other _ _ _ ih => exact ih
  | unclosed _ _ _ _ ih => exact ih
  | string hc hquote hcloses _ ih =>
    intro s hs
    rcases List.mem_cons.1 hs with rfl | hs
    · exact ⟨_, hc, hquote, hcloses⟩
    · exact ih s hs

/-- What it finds stands one behind the other. -/
theorem pairwise (h : Scans chars i found) : found.Pairwise fun r s => r.stop ≤ s.start := by
  induction h with
  | done => exact .nil
  | other _ _ _ ih => exact ih
  | unclosed _ _ _ _ ih => exact ih
  | string _ _ _ hrest ih => exact .cons (fun s hs => hrest.le_start s hs) ih

end Scans

/-- Every stretch goes from a quote to the place where it is closed. -/
theorem quoted_of_mem {s : Stretch} (h : s ∈ quotedStretches chars) : ∃ quote, s.Quoted chars quote :=
  (scans_iff.2 rfl).quoted s h

/-- Stretches follow each other without overlapping. -/
theorem pairwise_quotedStretches (chars : List Char) :
    (quotedStretches chars).Pairwise fun r s => r.stop ≤ s.start :=
  (scans_iff.2 rfl).pairwise

end QueryLint.Text
