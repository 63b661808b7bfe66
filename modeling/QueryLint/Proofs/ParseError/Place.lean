import QueryLint.ParseError
import QueryLint.Proofs.Decimal
import QueryLint.Proofs.Text.Regex

/-!
# Places in messages

`place?` finds a place that a text starts with, `lastPlace?` the last one that begins anywhere in it.
All that there is to say about places in longer texts comes from one letter: a place begins with an
`L` and has no other (`exists_tail`). So no place begins inside another one, none is hidden by what
stands before it (`lastPlace?_append`), and only a place behind it keeps it from being the last
(`lastPlace?_placeText`).

For the same reason it makes no difference whether the last place is looked for from the end, or all
of them from the beginning, each behind the one before, as the matches of the expression
`Line: \d+, Column: \d+` (`lastPlace?_findAll`).
-/

namespace QueryLint.ParseError

open Text

/-! ## Places -/

/-- Decimal digits, one or more, of whatever scripts. -/
structure Digits (digits : List Char) : Prop where
  ne_nil : digits ≠ []
  all : ∀ c ∈ digits, isDecimalDigit c = true

/-- The words that tell a place. -/
@[irreducible] def placeText (line column : List Char) : List Char :=
  "Line: ".toList ++ line ++ ", Column: ".toList ++ column

variable {text line column : List Char}

/-- What is behind the digits that a text starts with is no digit. -/
theorem isDecimalDigit_head?_dropWhile (text : List Char) :
    ∀ c ∈ (text.dropWhile isDecimalDigit).head?, isDecimalDigit c = false := by
  intro c hc
  have hfirst := List.head?_dropWhile_not isDecimalDigit text
  rw [Option.mem_def.1 hc] at hfirst
  simpa using hfirst

/-- Where a text does not start with a digit there is none to be taken, and all of it is left. -/
theorem takeWhile_dropWhile_of_head? (h : ∀ c ∈ text.head?, isDecimalDigit c = false) :
    text.takeWhile isDecimalDigit = [] ∧ text.dropWhile isDecimalDigit = text := by
  cases text with
  | nil => exact ⟨rfl, rfl⟩
  | cons c text =>
    have hc : ¬ isDecimalDigit c = true := by
      rw [h c rfl]
      decide
    exact ⟨List.takeWhile_cons_of_neg hc, List.dropWhile_cons_of_neg hc⟩

/-- A place begins with a letter that does not come again in it. -/
theorem exists_tail (hline : Digits line) (hcolumn : Digits column) :
    ∃ tail, placeText line column = 'L' :: tail ∧ 'L' ∉ tail := by
  have hdigits : ∀ digits, Digits digits → 'L' ∉ digits := by
    intro digits h hmem
    exact absurd (h.all 'L' hmem) (by decide)
  refine ⟨"ine: ".toList ++ line ++ ", Column: ".toList ++ column, by rw [placeText]; rfl, ?_⟩
  simp only [List.mem_append, not_or]
  exact ⟨⟨⟨by decide, hdigits line hline⟩, by decide⟩, hdigits column hcolumn⟩

/-- A text starts with letters if they and something else make it up. -/
theorem after?_eq_some_iff {opening rest : List Char} :
    after? opening text = some rest ↔ text = opening ++ rest := by
  induction opening generalizing text with
  | nil =>
    rw [after?, Option.some.injEq]
    rfl
  | cons c opening ih =>
    cases text with
    | nil => simp [after?]
    | cons d text =>
      rw [after?, List.cons_append, List.cons.injEq]
      by_cases h : c = d
      · rw [if_pos h, ih]
        exact ⟨fun htext => ⟨h.symm, htext⟩, And.right⟩
      · rw [if_neg h]
        exact ⟨nofun, fun heq => absurd heq.1.symm h⟩

/-- All digits that there are at the start of a text are taken. -/
theorem digits?_eq_some_iff {digits rest : List Char} :
    digits? text = some (digits, rest) ↔
      Digits digits ∧ text = digits ++ rest ∧ ∀ c ∈ rest.head?, isDecimalDigit c = false := by
  unfold digits?
  constructor
  · intro h
    dsimp only at h
    split at h
    next => cases h
    next hne =>
      obtain ⟨rfl, rfl⟩ := Prod.mk.inj (Option.some.inj h)
      refine ⟨⟨?_, ?_⟩, List.takeWhile_append_dropWhile.symm, ?_⟩
      · rintro hnil
        exact hne (List.isEmpty_iff.2 hnil)
      · exact fun c hc => List.all_eq_true.1 List.all_takeWhile c hc
      · exact isDecimalDigit_head?_dropWhile text
  · rintro ⟨hdigits, rfl, hrest⟩
    obtain ⟨htake, hdrop⟩ := takeWhile_dropWhile_of_head? hrest
    dsimp only
    rw [List.takeWhile_append_of_pos hdigits.all, List.dropWhile_append_of_pos hdigits.all, htake,
      hdrop, List.append_nil, if_neg (by simpa using hdigits.ne_nil)]

/-- The words and the digits of a place are looked for one after the other. -/
theorem place?_eq (text : List Char) : place? text =
    (after? "Line: ".toList text).bind fun behind =>
      (digits? behind).bind fun line =>
        (after? ", Column: ".toList line.2).bind fun behind =>
          (digits? behind).map fun column => (line.1, column.1) := by
  unfold place?
  -- Which words they are makes no difference.
  generalize "Line: ".toList = first, ", Column: ".toList = second
  cases after? first text with
  | none => rfl
  | some behind =>
    cases h : digits? behind with
    | none => simp [h]
    | some line =>
      simp only [bind, Option.bind, h]
      cases after? second line.2 with
      | none => rfl
      | some behind => cases h : digits? behind <;> simp [h]

/-- Words and digits in turn: of the second words it only matters that the first digits end there. -/
theorem bind_digits?_eq_some_iff {first second : List Char}
    (hsecond : ∀ rest, ∀ c ∈ (second ++ rest).head?, isDecimalDigit c = false) :
    ((after? first text).bind fun behind =>
        (digits? behind).bind fun line =>
          (after? second line.2).bind fun behind =>
            (digits? behind).map fun column => (line.1, column.1)) = some (line, column) ↔
      Digits line ∧ Digits column
        ∧ ∃ after, text = first ++ line ++ second ++ column ++ after
          ∧ ∀ c ∈ after.head?, isDecimalDigit c = false := by
  simp only [Option.bind_eq_some_iff, Option.map_eq_some_iff, Prod.mk.injEq, Prod.exists,
    after?_eq_some_iff, digits?_eq_some_iff]
  constructor
  · rintro ⟨-, rfl, line, -, ⟨hline, rfl, -⟩, -, rfl, column, after, ⟨hcolumn, rfl, hafter⟩, rfl, rfl⟩
    refine ⟨hline, hcolumn, after, ?_, hafter⟩
    simp only [List.append_assoc]
  · rintro ⟨hline, hcolumn, after, rfl, hafter⟩
    refine ⟨line ++ (second ++ (column ++ after)), ?_, line, second ++ (column ++ after),
      ⟨hline, rfl, hsecond _⟩, column ++ after, rfl, column, after, ⟨hcolumn, rfl, hafter⟩, rfl, rfl⟩
    simp only [List.append_assoc]

/-- What is found at the start of a text are the digits of a place that the text starts with, all of
those of its column. -/
theorem place?_eq_some_iff : place? text = some (line, column) ↔
    Digits line ∧ Digits column
      ∧ ∃ after, text = placeText line column ++ after
        ∧ ∀ c ∈ after.head?, isDecimalDigit c = false := by
  rw [place?_eq, bind_digits?_eq_some_iff]
  · simp only [placeText, List.append_assoc]
  · intro rest c hc
    obtain rfl : ',' = c := Option.some.inj hc
    decide

/-- A place is found with whatever behind it; digits there are digits of its column. -/
theorem place?_placeText (hline : Digits line) (hcolumn : Digits column) (after : List Char) :
    place? (placeText line column ++ after) =
      some (line, column ++ after.takeWhile isDecimalDigit) := by
  refine place?_eq_some_iff.2 ⟨hline, ⟨?_, ?_⟩, after.dropWhile isDecimalDigit, ?_, ?_⟩
  · exact fun h => hcolumn.ne_nil (List.append_eq_nil_iff.1 h).1
  · intro c hc
    rcases List.mem_append.1 hc with hc | hc
    · exact hcolumn.all c hc
    · exact List.all_eq_true.1 List.all_takeWhile c hc
  · simp only [placeText, List.append_assoc, List.takeWhile_append_dropWhile]
  · exact isDecimalDigit_head?_dropWhile after

theorem place?_eq_none_of_head? (h : text.head? ≠ some 'L') : place? text = none := by
  refine Option.eq_none_iff_forall_ne_some.2 fun ⟨line, column⟩ hplace => ?_
  obtain ⟨hline, hcolumn, after, rfl, -⟩ := place?_eq_some_iff.1 hplace
  obtain ⟨tail, htail, -⟩ := exists_tail hline hcolumn
  rw [htail] at h
  exact h rfl

/-! ## The last place -/

/-- There is a place somewhere in a text. -/
def HasPlace (text : List Char) : Prop :=
  ∃ before line column after, Digits line ∧ Digits column
    ∧ text = before ++ placeText line column ++ after

/-- Without an `L` there is no place anywhere in a text. -/
theorem not_hasPlace_of_not_mem (h : 'L' ∉ text) : ¬ HasPlace text := by
  rintro ⟨before, line, column, after, hline, hcolumn, rfl⟩
  obtain ⟨tail, htail, -⟩ := exists_tail hline hcolumn
  simp [htail] at h

/-- The last place in a text is the last one behind its first character, or else one at its start. -/
theorem lastPlace?_cons (c : Char) (text : List Char) :
    lastPlace? (c :: text) = (lastPlace? text).or (place? (c :: text)) := by
  rw [lastPlace?]
  cases lastPlace? text <;> rfl

theorem lastPlace?_eq_none (h : ¬ HasPlace text) : lastPlace? text = none := by
  induction text with
  | nil => rfl
  | cons c text ih =>
    have hrest : ¬ HasPlace text := by
      rintro ⟨before, line, column, after, hline, hcolumn, rfl⟩
      exact h ⟨c :: before, line, column, after, hline, hcolumn, rfl⟩
    rw [lastPlace?_cons, ih hrest, Option.none_or]
    refine Option.eq_none_iff_forall_ne_some.2 fun ⟨line, column⟩ hplace => ?_
    obtain ⟨hline, hcolumn, after, htext, -⟩ := place?_eq_some_iff.1 hplace
    exact h ⟨[], line, column, after, hline, hcolumn, htext⟩

/-- What stands before a place does not keep it from being the last one. -/
theorem lastPlace?_append {place : List Char × List Char} (h : lastPlace? text = some place)
    (before : List Char) : lastPlace? (before ++ text) = some place := by
  induction before with
  | nil => exact h
  | cons c before ih => rw [List.cons_append, lastPlace?_cons, ih, Option.some_or]

/-- In letters where no place begins there is none. -/
theorem lastPlace?_append_of_not_mem {before : List Char} (h : 'L' ∉ before) (text : List Char) :
    lastPlace? (before ++ text) = lastPlace? text := by
  induction before with
  | nil => rfl
  | cons c before ih =>
    rw [List.mem_cons, not_or] at h
    have hc : ((c :: before) ++ text).head? ≠ some 'L' := fun hhead =>
      h.1 (Option.some.inj hhead).symm
    rw [List.cons_append, lastPlace?_cons, ih h.2, ← List.cons_append, place?_eq_none_of_head? hc,
      Option.or_none]

/-- A place is the last one unless there is another behind it. -/
theorem lastPlace?_placeText (hline : Digits line) (hcolumn : Digits column) (after : List Char) :
    lastPlace? (placeText line column ++ after) =
      (lastPlace? after).or (some (line, column ++ after.takeWhile isDecimalDigit)) := by
  obtain ⟨tail, htail, hnone⟩ := exists_tail hline hcolumn
  have hplace := place?_placeText hline hcolumn after
  rw [htail, List.cons_append] at hplace ⊢
  rw [lastPlace?_cons, hplace, lastPlace?_append_of_not_mem hnone]

end QueryLint.ParseError

/-! ## Looking from the beginning -/

namespace QueryLint.Text.Regex

open ParseError

/-- Letters one by one, and then an expression. -/
def behind : List Char → Regex → Regex
  | [], r => r
  | c :: letters, r => .next (char c) (behind letters r)

/-- One digit or more: `\d+`. -/
def digits : Regex := .next (.one isDecimalDigit) (.many (.one isDecimalDigit))

/-- A place in a message: `Line: \d+, Column: \d+`. -/
def place : Regex := behind "Line: ".toList (.next digits (behind ", Column: ".toList digits))

/-- A pattern behind letters matches where the text starts with these. -/
theorem rests_behind (letters : List Char) (r : Regex) (text : List Char) :
    (behind letters r).rests text = ((after? letters text).map r.rests).getD [] := by
  induction letters generalizing text with
  | nil => rfl
  | cons c letters ih =>
    rw [behind, rests]
    cases text with
    | nil =>
      rw [char, rests]
      rfl
    | cons d text =>
      rw [rests_char_cons, after?]
      by_cases h : c = d
      · rw [if_pos h, if_pos h.symm, List.flatMap_singleton, ih]
      · rw [if_neg h, if_neg (Ne.symm h)]
        rfl

theorem rests_digits_of_none {text : List Char} (h : digits? text = none) :
    digits.rests text = [] := by
  cases text with
  | nil =>
    rw [digits, rests, rests]
    rfl
  | cons c text =>
    by_cases hc : isDecimalDigit c = true
    · rw [digits?, List.takeWhile_cons_of_pos hc] at h
      cases h
    · rw [digits, rests, rests, if_neg hc]
      rfl

/-- The digits at the start of a text can be matched all or, with a digit left behind them, in part. -/
theorem rests_digits_of_some {text taken rest : List Char} (h : digits? text = some (taken, rest)) :
    ∃ others, digits.rests text = rest :: others
      ∧ ∀ other ∈ others, ∃ c more, other = c :: more ∧ isDecimalDigit c = true := by
  cases text with
  | nil => cases h
  | cons c text =>
    by_cases hc : isDecimalDigit c = true
    · rw [digits?, List.takeWhile_cons_of_pos hc, List.dropWhile_cons_of_pos hc] at h
      obtain ⟨rfl, rfl⟩ := Prod.mk.inj (Option.some.inj h)
      rw [digits, rests, rests, if_pos hc, List.flatMap_singleton]
      exact rests_many_one isDecimalDigit text
    · rw [digits?, List.takeWhile_cons_of_neg hc] at h
      cases h

/-- The match of a place takes the words and all the digits. -/
theorem matchAt?_place (text : List Char) :
    place.matchAt? text = (place? text).map fun p => text.drop (placeText p.1 p.2).length := by
  rw [matchAt?, place, rests_behind, place?_eq]
  cases hfirst : after? "Line: ".toList text with
  | none => rfl
  | some first =>
    rw [Option.map_some, Option.getD_some, rests, Option.bind_some]
    cases hline : digits? first with
    | none =>
      rw [rests_digits_of_none hline]
      rfl
    | some taken =>
      obtain ⟨line, rest⟩ := taken
      obtain ⟨others, hothers, hall⟩ := rests_digits_of_some hline
      -- With a digit left of the line there is no comma.
      have hnone : others.flatMap (behind ", Column: ".toList digits).rests = [] := by
        rw [List.flatMap_eq_nil_iff]
        intro other hother
        obtain ⟨c, more, rfl, hc⟩ := hall other hother
        have hcomma : ',' ≠ c := by
          rintro rfl
          exact absurd hc (by decide)
        rw [rests_behind, show after? ", Column: ".toList (c :: more) = none from if_neg hcomma]
        rfl
      rw [hothers, List.flatMap_cons, hnone, List.append_nil, rests_behind, Option.bind_some]
      cases hsecond : after? ", Column: ".toList rest with
      | none => rfl
      | some second =>
        rw [Option.map_some, Option.getD_some, Option.bind_some]
        cases hcolumn : digits? second with
        | none =>
          rw [rests_digits_of_none hcolumn]
          rfl
        | some taken =>
          obtain ⟨column, after⟩ := taken
          obtain ⟨others, hothers, -⟩ := rests_digits_of_some hcolumn
          have htext : text = placeText line column ++ after := by
            rw [after?_eq_some_iff.1 hfirst, (digits?_eq_some_iff.1 hline).2.1,
              after?_eq_some_iff.1 hsecond, (digits?_eq_some_iff.1 hcolumn).2.1]
            simp only [placeText, List.append_assoc]
          rw [hothers, List.head?_cons, Option.map_some, Option.map_some, htext, List.drop_left]

/-- Places that are found from the beginning on are places of the text, and the last of them is the
last one there is. The induction is on what is still to be looked at. -/
theorem exists_map_findAllFrom (offset : Nat) (text : List Char) :
    ∃ found : List (List Char × List Char),
      (place.findAllFrom offset text).map (fun s => place? (text.drop (s.start - offset))) =
          found.map some
        ∧ lastPlace? text = found.getLast? := by
  match text with
  | [] => exact ⟨[], by rw [findAllFrom]; rfl, rfl⟩
  | c :: text =>
    rw [findAllFrom, matchAt?_place]
    cases hplace : place? (c :: text) with
    | none =>
      obtain ⟨found, hfound, hlast⟩ := exists_map_findAllFrom (offset + 1) text
      refine ⟨found, ?_, ?_⟩
      · exact (map_drop_findAllFrom place offset 1 (c :: text) place?).trans hfound
      · rw [lastPlace?_cons, hplace, Option.or_none, hlast]
    | some p =>
      obtain ⟨line, column⟩ := p
      obtain ⟨hline, hcolumn, after, htext, hafter⟩ := place?_eq_some_iff.1 hplace
      have hdrop : (c :: text).drop (placeText line column).length = after := by
        rw [htext, List.drop_left]
      have hlength : (c :: text).length = (placeText line column).length + after.length := by
        rw [htext, List.length_append]
      have hpos : 0 < (placeText line column).length := by
        obtain ⟨tail, htail, -⟩ := exists_tail hline hcolumn
        rw [htail]
        exact Nat.succ_pos _
      have hshorter : after.length < (c :: text).length := by omega
      obtain ⟨found, hfound, hlast⟩ :=
        exists_map_findAllFrom (offset + (placeText line column).length) after
      refine ⟨(line, column) :: found, ?_, ?_⟩
      · have hshift := map_drop_findAllFrom place offset (placeText line column).length (c :: text)
          place?
        rw [hdrop, hfound] at hshift
        have hstop : offset + ((c :: text).length - after.length) =
            offset + (placeText line column).length := by omega
        simp only [Option.map_some, hdrop, if_pos hshorter, hstop]
        rw [List.map_cons, hshift, Nat.sub_self, List.drop_zero, hplace, List.map_cons]
      · -- The digits of the column end where the place does.
        rw [htext, lastPlace?_placeText hline hcolumn, hlast,
          (takeWhile_dropWhile_of_head? hafter).1, List.append_nil, List.getLast?_cons]
        cases found.getLast? <;> rfl
termination_by text.length
decreasing_by
  · exact Nat.lt_succ_self _
  · exact hshorter

end QueryLint.Text.Regex

namespace QueryLint.ParseError

open Text

/-- The last place of a message is the last match of the expression for places, when matches are
looked for from the beginning and each behind the one before. -/
theorem lastPlace?_findAll (text : List Char) :
    lastPlace? text =
      (Regex.place.findAll text).getLast?.bind fun s => place? (text.drop s.start) := by
  obtain ⟨found, hfound, hlast⟩ := Regex.exists_map_findAllFrom 0 text
  have hmap := congrArg List.getLast? hfound
  rw [List.getLast?_map, List.getLast?_map, ← hlast] at hmap
  simp only [Nat.sub_zero] at hmap
  rw [Regex.findAll]
  cases hfind : (Regex.place.findAllFrom 0 text).getLast? with
  | none =>
    rw [hfind] at hmap
    exact Option.map_eq_none_iff.1 hmap.symm
  | some s =>
    rw [hfind, Option.map_some] at hmap
    obtain ⟨p, hp, hplace⟩ := Option.map_eq_some_iff.1 hmap.symm
    rw [hp, Option.bind_some, ← hplace]

end QueryLint.ParseError
