import QueryLint.Json.Literal
import QueryLint.Json.Writer
import QueryLint.Proofs.Decimal
import QueryLint.Proofs.Text.Bytes

/-!
# Strings and whole numbers are read back

What the writer makes of a string or a whole number of 64 bits is read as that string or number, and
the rest of the text is left as it was (`readString_tail`, `readNumber_natAbs`). A number only ends
where something stands behind it that cannot belong to it (`Ends`).
-/

namespace QueryLint.Json

/-! ## Blanks -/

/-- Nothing but blanks. -/
def Blanks (gap : List Char) : Prop :=
  ∀ c ∈ gap, isSpace c = true

theorem Blanks.nil : Blanks [] :=
  fun _ h => nomatch h

theorem skipSpaces_cons {c : Char} (h : isSpace c = false) (text : List Char) :
    skipSpaces (c :: text) = c :: text :=
  List.dropWhile_cons_of_neg (by rw [h]; exact Bool.false_ne_true)

/-- Blanks in front of a text do not count. -/
theorem skipSpaces_append {gap : List Char} (h : Blanks gap) (text : List Char) :
    skipSpaces (gap ++ text) = skipSpaces text := by
  induction gap with
  | nil => rfl
  | cons c gap ih =>
    rw [List.cons_append, skipSpaces, List.dropWhile_cons_of_pos (h c List.mem_cons_self)]
    exact ih fun d hd => h d (List.mem_cons_of_mem c hd)

/-- Blanks are passed over up to the first character that is none. -/
theorem skipSpaces_gap {gap : List Char} (hgap : Blanks gap) {c : Char} (h : isSpace c = false)
    (text : List Char) : skipSpaces (gap ++ c :: text) = c :: text := by
  rw [skipSpaces_append hgap, skipSpaces_cons h]

theorem isSpace_of_isDigit {c : Char} (h : c.isDigit = true) : isSpace c = false := by
  have hblank : ∀ d : Char, d.isDigit = false → c ≠ d := fun d hd => Decimal.ne_of_isDigit h hd
  simp only [isSpace, Bool.or_eq_false_iff, decide_eq_false_iff_not]
  exact ⟨⟨⟨hblank _ rfl, hblank _ rfl⟩, hblank _ rfl⟩, hblank _ rfl⟩

/-! ## Strings -/

/-- Four digits in base sixteen are the number that they write. -/
theorem readHex_cons {a b c d : Char} {w x y z : Nat} (ha : hexValue? a = some w)
    (hb : hexValue? b = some x) (hc : hexValue? c = some y) (hd : hexValue? d = some z)
    (rest : List Char) :
    readHex (a :: b :: c :: d :: rest) = .ok (((w * 16 + x) * 16 + y) * 16 + z, rest) := by
  have hbytes : ¬ Text.byteCount (a :: b :: c :: d :: rest) < 4 := by
    have := a.utf8Size_pos
    have := b.utf8Size_pos
    have := c.utf8Size_pos
    have := d.utf8Size_pos
    rw [Text.byteCount_cons, Text.byteCount_cons, Text.byteCount_cons, Text.byteCount_cons]
    omega
  rw [readHex, if_neg hbytes]
  simp only [ha, hb, hc, hd]

/-- The digits of a control character write its code. -/
theorem readUnicode_control {c : Char} (h : c.toNat < 32) (rest : List Char) :
    readUnicode ('0' :: '0' :: hexDigit (c.toNat / 16) :: hexDigit c.toNat :: rest) =
      .ok (c, rest) := by
  have hdigits : ∀ n < 32, hexValue? (hexDigit (n / 16)) = some (n / 16)
      ∧ hexValue? (hexDigit n) = some (n % 16) := by decide
  obtain ⟨hhigh, hlow⟩ := hdigits c.toNat h
  have hcode : ((0 * 16 + 0) * 16 + c.toNat / 16) * 16 + c.toNat % 16 = c.toNat := by omega
  have hzero : hexValue? '0' = some 0 := rfl
  have hread := readHex_cons hzero hzero hhigh hlow rest
  rw [hcode] at hread
  rw [readUnicode, hread]
  -- A control character is no half of a pair.
  have hnotLow : ¬ (0xDC00 ≤ c.toNat && c.toNat ≤ 0xDFFF) = true := by
    simp only [Bool.and_eq_true, decide_eq_true_eq]
    omega
  have hnotHigh : (c.toNat < 0xD800 || 0xDBFF < c.toNat) = true := by
    simp only [Bool.or_eq_true, decide_eq_true_eq]
    omega
  change (if _ then _ else if _ then _ else _) = _
  rw [if_neg hnotLow, if_pos hnotHigh, Char.ofNat_toNat]

/-- One written character is read as that character. -/
theorem readCharacters_writeChar (fuel : Nat) (c : Char) (text : List Char) :
    readCharacters (fuel + 1) (writeChar c ++ text) =
      (readCharacters fuel text).map fun (more, rest) => (c :: more, rest) := by
  unfold writeChar
  split
  · subst_vars; rfl
  split
  · subst_vars; rfl
  split
  · subst_vars; rfl
  split
  · subst_vars; rfl
  split
  · subst_vars; rfl
  split
  · subst_vars; rfl
  split
  · subst_vars; rfl
  split
  next hcontrol =>
    change (do
      let read ← readUnicode ('0' :: '0' :: hexDigit (c.toNat / 16) :: hexDigit c.toNat :: text)
      let more ← readCharacters fuel read.2
      Except.ok (read.1 :: more.1, more.2)) = _
    rw [readUnicode_control hcontrol]
    rfl
  next hquote hbackslash _ _ _ _ _ hshown =>
    change (if c = '"' then _ else if c = '\\' then _ else if c.toNat < 32 then _ else _) = _
    rw [if_neg hquote, if_neg hbackslash, if_neg hshown]
    rfl

/-- The characters of a written string are read up to the quote that closes it. -/
theorem readCharacters_flatMap {fuel : Nat} {characters : List Char}
    (hfuel : characters.length < fuel) (rest : List Char) :
    readCharacters fuel (characters.flatMap writeChar ++ '"' :: rest) =
      .ok (characters, rest) := by
  induction characters generalizing fuel with
  | nil =>
    obtain ⟨fuel, rfl⟩ := Nat.exists_eq_add_one.2 (Nat.zero_lt_of_lt hfuel)
    rfl
  | cons c characters ih =>
    obtain ⟨fuel, rfl⟩ := Nat.exists_eq_add_one.2 (Nat.zero_lt_of_lt hfuel)
    rw [List.flatMap_cons, List.append_assoc, readCharacters_writeChar,
      ih (Nat.lt_of_succ_lt_succ hfuel)]
    rfl

theorem writeChar_ne_nil (c : Char) : writeChar c ≠ [] := by
  unfold writeChar
  repeat' split
  all_goals exact List.cons_ne_nil _ _

/-- Writing characters out makes a text no shorter. -/
theorem length_le_flatMap_writeChar (characters : List Char) :
    characters.length ≤ (characters.flatMap writeChar).length := by
  induction characters with
  | nil => exact Nat.le_refl 0
  | cons c characters ih =>
    have := List.length_pos_iff.2 (writeChar_ne_nil c)
    rw [List.flatMap_cons, List.length_append, List.length_cons]
    omega

/-- A written string is read behind its opening quote. -/
theorem readString_tail (s : String) (rest : List Char) :
    readString (s.toList.flatMap writeChar ++ '"' :: rest) = .ok (s, rest) := by
  have hlength := length_le_flatMap_writeChar s.toList
  rw [readString, readCharacters_flatMap (by rw [List.length_append]; omega)]
  change Except.ok (String.ofList s.toList, rest) = _
  rw [String.ofList_toList]

theorem writeString_append (s : String) (rest : List Char) :
    writeString s ++ rest = '"' :: (s.toList.flatMap writeChar ++ '"' :: rest) := by
  rw [writeString, List.append_assoc]
  rfl

/-! ## Whole numbers -/

/-- No number goes on in what follows. -/
def Ends (rest : List Char) : Prop :=
  ∀ c ∈ rest.head?, c.isDigit = false ∧ c ≠ '.' ∧ c ≠ 'e' ∧ c ≠ 'E'

theorem Ends.nil : Ends [] :=
  fun _ h => nomatch h

theorem Ends.cons {c : Char} (h : c.isDigit = false ∧ c ≠ '.' ∧ c ≠ 'e' ∧ c ≠ 'E')
    (rest : List Char) : Ends (c :: rest) := by
  intro d hd
  obtain rfl : c = d := Option.some.inj hd
  exact h

/-- A blank ends a number. -/
theorem Ends.of_isSpace {c : Char} (h : isSpace c = true) (rest : List Char) : Ends (c :: rest) := by
  refine .cons ?_ rest
  simp only [isSpace, Bool.or_eq_true, decide_eq_true_eq] at h
  rcases h with ((rfl | rfl) | rfl) | rfl <;> decide

/-- A number ends at a gap with something behind it that ends it. -/
theorem Ends.gap {gap rest : List Char} (hgap : Blanks gap) (h : Ends rest) : Ends (gap ++ rest) := by
  cases gap with
  | nil => exact h
  | cons c gap => exact .of_isSpace (hgap c List.mem_cons_self) _

theorem Blanks.ends {gap : List Char} (h : Blanks gap) : Ends gap :=
  List.append_nil gap ▸ .gap h .nil

/-- Where a number ends, no digit follows. -/
theorem Ends.startsWithDigit {rest : List Char} (h : Ends rest) : startsWithDigit rest = false := by
  cases rest with
  | nil => rfl
  | cons c rest => exact (h c rfl).1

/-- Digits are read one by one as long as the number that they write with what was read before has
64 bits. -/
theorem readDigits_append (digits : List Char) {rest : List Char} {significand : Nat} (count : Nat)
    (hdigits : ∀ c ∈ digits, c.isDigit = true) (hrest : startsWithDigit rest = false)
    (hfits : Nat.ofDigitChars 10 digits significand ≤ maxWord) :
    readDigits significand count (digits ++ rest) =
      (Nat.ofDigitChars 10 digits significand, count + digits.length, rest) := by
  induction digits generalizing significand count with
  | nil =>
    cases rest with
    | nil => rfl
    | cons c rest =>
      have hc : ¬ c.isDigit = true := by rw [show c.isDigit = false from hrest]; decide
      rw [List.nil_append, readDigits, if_neg hc]
      rfl
  | cons c digits ih =>
    have hnext : Nat.ofDigitChars 10 (c :: digits) significand =
        Nat.ofDigitChars 10 digits (significand * 10 + (c.toNat - 48)) := by
      rw [Nat.ofDigitChars_cons, Nat.mul_comm]
      rfl
    have hle : significand * 10 + (c.toNat - 48) ≤ maxWord := by
      rw [hnext, Nat.ofDigitChars_eq_ofDigitChars_zero] at hfits
      refine Nat.le_trans ?_ hfits
      exact Nat.le_trans (Nat.le_mul_of_pos_left _ (Nat.pow_pos (by decide))) (Nat.le_add_right _ _)
    rw [List.cons_append, readDigits, if_pos (hdigits c List.mem_cons_self), if_neg (by omega),
      ih _ (fun d hd => hdigits d (List.mem_cons_of_mem c hd)) (hnext ▸ hfits), hnext,
      List.length_cons]
    congr 2
    omega

/-- A number that has been read up to its end is whole, unless it is too small for 64 bits. -/
theorem readAfterInteger_of_ends (negative : Bool) (significand : Nat) {rest : List Char}
    (h : Ends rest) :
    readAfterInteger negative significand rest =
      if !negative then .ok (.integer significand, rest)
      else if significand = 0 || 0x8000000000000000 < significand then
        .ok (.float (Decimal.Binary64.ofFloat significand.toUInt64.toFloat).negate, rest)
      else .ok (.integer (-(significand : Int)), rest) := by
  have hne : ∀ c more, rest = c :: more → c ≠ '.' ∧ c ≠ 'e' ∧ c ≠ 'E' := by
    rintro c more rfl
    exact (h c rfl).2
  rw [readAfterInteger, h.startsWithDigit, if_neg (by decide)]
  · exact fun more heq => (hne _ more heq).1 rfl
  · exact fun more heq => (hne _ more heq).2.1 rfl
  · exact fun more heq => (hne _ more heq).2.2 rfl

/-- The digits of a number of 64 bits are read as that number. -/
theorem readNumber_decimalDigits {n : Nat} (hfits : n ≤ maxWord) (negative : Bool)
    {rest : List Char} (h : Ends rest) :
    readNumber negative (Decimal.decimalDigits n ++ rest) = readAfterInteger negative n rest := by
  rcases Nat.eq_zero_or_pos n with rfl | hpos
  · rw [Decimal.decimalDigits_zero, List.singleton_append, readNumber,
      h.startsWithDigit, if_neg (by decide)]
  · obtain ⟨c, digits, hdigits, hc, hzero⟩ := Decimal.head_decimalDigits hpos
    have hvalue : Nat.ofDigitChars 10 (Decimal.decimalDigits n) 0 = n :=
      Nat.ofDigitChars_ten_toDigits
    have hread := readDigits_append (Decimal.decimalDigits n) 0
      (fun c hc => Decimal.isDigit_of_mem_decimalDigits hc) h.startsWithDigit
      (hvalue.symm ▸ hfits)
    rw [hvalue] at hread
    rw [hdigits, List.cons_append] at hread ⊢
    rw [readNumber]
    · rw [if_pos hc, hread]
    · exact hzero

/-- The digits of a whole number of 64 bits, with its minus, if any, are read as that number. -/
theorem readNumber_natAbs {i : Int} (hlow : -0x8000000000000000 ≤ i) (hhigh : i < 0x10000000000000000)
    {rest : List Char} (h : Ends rest) :
    readNumber (i < 0) (Decimal.decimalDigits i.natAbs ++ rest) = .ok (.integer i, rest) := by
  rw [readNumber_decimalDigits (by rw [maxWord]; omega) _ h, readAfterInteger_of_ends _ _ h]
  by_cases hi : i < 0
  · have hfits : ¬ (i.natAbs = 0 || 0x8000000000000000 < i.natAbs) = true := by
      simp only [Bool.or_eq_true, decide_eq_true_eq]
      omega
    rw [decide_eq_true hi, if_neg (by decide), if_neg hfits, Int.ofNat_natAbs_of_nonpos (by omega),
      Int.neg_neg]
  · rw [decide_eq_false hi, if_pos (by decide), Int.natAbs_of_nonneg (by omega)]

end QueryLint.Json
