import Mathlib.Data.List.TakeWhile
import QueryLint.Proofs.ParseError.Place

/-!
# Where a message says that the error is

A message ends with the place of the error, and may quote a text before that which looks like a place
too. What the reader relies on is that the words at the end count, whatever is quoted:

> `ofMessage_place`: behind any text at all, the place at the end of a message is the place of the
> error; without a place, or with the line zero in the last one, the error has none.

The quoted text is not asked about, since a place behind it is the last one in any case. It may hold
digits that write no number, or one that is too large, which is why the last place alone is read.
-/

namespace QueryLint.ParseError

open Text

/-! ## Numbers -/

theorem isDecimalDigit_of_isDigit {c : Char} (h : c.isDigit = true) : isDecimalDigit c = true := by
  have hrange : 0x30 ≤ c.toNat ∧ c.toNat ≤ 0x39 := by
    simpa [Char.isDigit, UInt32.le_iff_toNat_le] using h
  exact List.any_eq_true.2 ⟨(0x30, 0x39), List.mem_cons_self, by simpa using hrange⟩

theorem digits_decimalDigits (n : Nat) : Digits (Decimal.decimalDigits n) where
  ne_nil := by
    obtain ⟨c, digits, hdigits, -⟩ := Decimal.decimalDigits_eq_cons n
    rw [hdigits]
    exact List.cons_ne_nil c digits
  all := fun _ hc => isDecimalDigit_of_isDigit (Decimal.isDigit_of_mem_decimalDigits hc)

/-- Numbers of 64 bits are read as what they are. -/
theorem word?_decimalDigits {n : Nat} (h : n < 0x10000000000000000) :
    word? (Decimal.decimalDigits n) = some n := by
  have hall : (Decimal.decimalDigits n).all Char.isDigit = true :=
    List.all_eq_true.2 fun _ => Decimal.isDigit_of_mem_decimalDigits
  have hempty : (Decimal.decimalDigits n).isEmpty = false :=
    List.isEmpty_eq_false_iff.2 (digits_decimalDigits n).ne_nil
  have hvalue : (Decimal.decimalDigits n).foldl (fun value c => value * 10 + (c.toNat - 48)) 0 = n := by
    simp only [Nat.mul_comm _ 10]
    exact Nat.ofDigitChars_ten_toDigits
  rw [word?, decimalValue?, hall, hempty, if_neg (by decide), hvalue]
  exact Option.filter_some_pos (decide_eq_true h)

/-! ## Messages -/

/-- A text is blank when there is nothing but blanks in it. -/
theorem trimBlanks_eq_nil_iff {text : List Char} :
    trimBlanks text = [] ↔ ∀ c ∈ text, isBlank c = true := by
  rw [trimBlanks, List.reverse_eq_nil_iff, List.dropWhile_eq_nil_iff]
  constructor
  · intro h
    -- What is left of the text starts with no blank, so nothing is left.
    have hnil : text.dropWhile isBlank = [] := by
      cases hleft : text.dropWhile isBlank with
      | nil => rfl
      | cons c rest =>
        have hfirst := List.head?_dropWhile_not isBlank text
        rw [hleft] at h hfirst
        have hc := h c (List.mem_reverse.2 List.mem_cons_self)
        simp [hc] at hfirst
    exact List.dropWhile_eq_nil_iff.1 hnil
  · intro h c hc
    exact h c ((List.dropWhile_sublist isBlank).mem (List.mem_reverse.1 hc))

/-- A message, or what stands for a blank one, is kept and read for its place. -/
theorem ofMessage_eq (message : String) : ofMessage message =
    let message :=
      if (trimBlanks message.toList).isEmpty then "Unknown parse error" else message
    ⟨message, (positionIn? message).map fun start => ⟨start, start⟩⟩ := by
  unfold ofMessage
  dsimp only
  generalize (if (trimBlanks message.toList).isEmpty then "Unknown parse error" else message) = text
  cases positionIn? text <;> rfl

/-- A message with a character that is not blank is kept as it is. -/
theorem ofMessage_of_not_blank {message : String} {c : Char} (hc : c ∈ message.toList)
    (hblank : isBlank c = false) :
    ofMessage message = ⟨message, (positionIn? message).map fun start => ⟨start, start⟩⟩ := by
  have hne : ¬ (trimBlanks message.toList).isEmpty = true := by
    rw [List.isEmpty_iff, trimBlanks_eq_nil_iff]
    intro h
    rw [h c hc] at hblank
    cases hblank
  rw [ofMessage_eq, if_neg hne]

/-- A message that tells no place gives the error none, and neither does what stands for a blank
message. -/
theorem location_ofMessage_eq_none {message : String} (h : positionIn? message = none) :
    (ofMessage message).location = none := by
  have hdefault : positionIn? "Unknown parse error" = none := by decide
  rw [ofMessage_eq]
  split
  next =>
    dsimp only
    rw [hdefault, Option.map_none]
  next =>
    dsimp only
    rw [h, Option.map_none]

/-- What the last place of a message writes is the position that the message ends with. -/
theorem positionIn?_eq {message : String} {line column : List Char}
    (h : lastPlace? message.toList = some (line, column)) :
    positionIn? message =
      (word? line).bind fun n => (word? column).bind fun m => Position.ofLocation? n m := by
  rw [positionIn?, h]
  rfl

theorem toList_toString (n : Nat) : (toString n).toList = Decimal.decimalDigits n :=
  Nat.toList_repr

/-- A message with a place at its end, as a text. -/
theorem toList_ending (body : String) (line column : Nat) :
    (body ++ " at Line: " ++ toString line ++ ", Column: " ++ toString column).toList =
      (body.toList ++ " at ".toList)
        ++ placeText (Decimal.decimalDigits line) (Decimal.decimalDigits column) := by
  simp only [String.toList_append, toList_toString, placeText, List.append_assoc]
  rfl

/-- A place in digits at the end of a message is the position that the message tells. -/
theorem positionIn?_ending {message : String} {before : List Char} {line column : Nat}
    (htext : message.toList
      = before ++ placeText (Decimal.decimalDigits line) (Decimal.decimalDigits column))
    (hpos : 0 < line) (hline : line < 0x10000000000000000) (hcolumn : column < 0x10000000000000000) :
    positionIn? message = some ⟨line, column⟩ := by
  have hlast : lastPlace? message.toList =
      some (Decimal.decimalDigits line, Decimal.decimalDigits column) := by
    rw [htext]
    refine lastPlace?_append ?_ before
    have hplace := lastPlace?_placeText (digits_decimalDigits line) (digits_decimalDigits column) []
    rwa [lastPlace?, Option.none_or, List.takeWhile_nil, List.append_nil, List.append_nil] at hplace
  rw [positionIn?_eq hlast, word?_decimalDigits hline, word?_decimalDigits hcolumn]
  exact if_neg (Nat.ne_of_gt hpos)

/-- A message tells no position when the line of its last place is no number or zero. -/
theorem positionIn?_eq_none_of_zero {message : String} {line column : List Char}
    (h : lastPlace? message.toList = some (line, column)) (hzero : ∀ n, word? line = some n → n = 0) :
    positionIn? message = none := by
  rw [positionIn?_eq h]
  cases hword : word? line with
  | none => rfl
  | some n =>
    rw [hzero n hword, Option.bind_some]
    cases word? column <;> rfl

/-- **The place of an error.** A message that ends with a place is kept as it is, whatever it says
before, and gives the error that place, from the line and the column to the same. A message in which
there is no place, or in which the line of the last place is not a number or zero, gives it none. And
the last place is the one that is found last when the places are looked for from the beginning. -/
theorem ofMessage_place :
    (∀ (body : String) (line column : Nat), 0 < line → line < 0x10000000000000000 →
      column < 0x10000000000000000 →
      let message := body ++ " at Line: " ++ toString line ++ ", Column: " ++ toString column
      ofMessage message = { message, location := some ⟨⟨line, column⟩, ⟨line, column⟩⟩ })
    ∧ (∀ message : String, ¬ HasPlace message.toList → (ofMessage message).location = none)
    ∧ (∀ (message : String) (before line column after : List Char), Digits line → Digits column →
      message.toList = before ++ placeText line column ++ after → ¬ HasPlace after →
      (∀ n, word? line = some n → n = 0) → (ofMessage message).location = none)
    ∧ ∀ text, lastPlace? text =
      (Regex.place.findAll text).getLast?.bind fun s => place? (text.drop s.start) := by
  refine ⟨?_, ?_, ?_, lastPlace?_findAll⟩
  · intro body line column hpos hline hcolumn message
    have htext := toList_ending body line column
    have hposition := positionIn?_ending htext hpos hline hcolumn
    -- The message is not blank: there is a letter in the place.
    have hletter : 'L' ∈ message.toList := by
      obtain ⟨tail, htail, -⟩ := exists_tail (digits_decimalDigits line) (digits_decimalDigits column)
      rw [htext, htail]
      simp
    rw [ofMessage_of_not_blank hletter (by decide), hposition]
    rfl
  · intro message h
    refine location_ofMessage_eq_none ?_
    rw [positionIn?, lastPlace?_eq_none h]
    rfl
  · intro message before line column after hline hcolumn htext hafter hzero
    have hlast : lastPlace? message.toList =
        some (line, column ++ after.takeWhile isDecimalDigit) := by
      rw [htext, List.append_assoc]
      refine lastPlace?_append ?_ before
      rw [lastPlace?_placeText hline hcolumn, lastPlace?_eq_none hafter, Option.none_or]
    exact location_ofMessage_eq_none (positionIn?_eq_none_of_zero hlast hzero)

/-- Places that are quoted, one in digits of another script and one with a number that is too large,
do not count before the one at the end; and a quoted place does not stand in for a line zero. -/
theorem ofMessage_place_behind_quoted :
    (let body := "found: 'Line: ٣, Column: 1 Line: 18446744073709551616, Column: 2'"
      let message := body ++ " at Line: " ++ toString 3 ++ ", Column: " ++ toString 14
      ofMessage message = { message, location := some ⟨⟨3, 14⟩, ⟨3, 14⟩⟩ })
    ∧ ¬ HasPlace "Expected: an expression, found: EOF".toList
    ∧ (ofMessage "Expected: an expression, found: EOF").location = none
    ∧ ¬ HasPlace []
    ∧ (ofMessage "found: 'Line: 7, Column: 7' at Line: 00, Column: 1").location = none := by
  obtain ⟨hend, hwithout, hzero, -⟩ := ofMessage_place
  have hnone : ¬ HasPlace "Expected: an expression, found: EOF".toList :=
    not_hasPlace_of_not_mem (by decide)
  have hnil : ¬ HasPlace [] := not_hasPlace_of_not_mem List.not_mem_nil
  refine ⟨hend _ 3 14 (by decide) (by decide) (by decide), hnone, hwithout _ hnone, hnil, ?_⟩
  have hdigits : ∀ digits, digits ≠ [] → digits.all isDecimalDigit = true → Digits digits :=
    fun _ hne hall => ⟨hne, List.all_eq_true.1 hall⟩
  refine hzero _ "found: 'Line: 7, Column: 7' at ".toList ['0', '0'] ['1'] []
    (hdigits _ nofun (by decide)) (hdigits _ nofun (by decide)) ?_ hnil (by decide)
  rw [placeText]
  decide

end QueryLint.ParseError
