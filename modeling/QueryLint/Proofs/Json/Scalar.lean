import QueryLint.Json.Reader
import QueryLint.Proofs.Except
import QueryLint.Proofs.Json.Grammar

/-!
# Strings and numbers are read as a whole

A reader takes a text of the grammar as a whole or not at all, and which of both it does, and what it
gives, lies in the text alone and not in what stands behind it (`Reads`). That is shown here of strings
and of numbers, whatever is in them (`exists_reads_readString`, `exists_reads_readNumber`); a string that is
spelt as the grammar says is read for what it spells (`reads_spells`).
-/

namespace QueryLint.Json

variable {α β σ : Type}

/-- A reader takes a text for something, or for nothing, wherever the text ends. -/
def Reads (read : List Char → Reading (α × List Char)) (text : List Char) (result : Option α) : Prop :=
  ∀ rest, Ends rest → (read (text ++ rest)).toOption = result.map (·, rest)

/-- What a reader takes from the front of a text, if it takes anything. -/
def taken (read : List Char → Reading (α × List Char)) (text : List Char) : Option α :=
  (read text).toOption.map Prod.fst

section Reads

variable {read : List Char → Reading (α × List Char)} {text : List Char} {result : Option α}

/-- What is read of a text in front of another one is what is read of it by itself. -/
theorem Reads.taken_eq (h : Reads read text result) : taken read text = result := by
  have := h [] .nil
  rw [List.append_nil] at this
  rw [taken, this, Option.map_map]
  exact Option.map_id' ..

/-- A text that is taken by itself is taken to its end. -/
theorem Reads.eq_ok_iff (h : Reads read text result) {x : α} :
    read text = .ok (x, []) ↔ taken read text = some x := by
  have hread := h [] .nil
  rw [List.append_nil] at hread
  rw [h.taken_eq, ← toOption_eq_some_iff, hread]
  cases result <;> simp

theorem reads_taken (h : ∃ result, Reads read text result) : Reads read text (taken read text) := by
  obtain ⟨result, hresult⟩ := h
  rwa [hresult.taken_eq]

/-- Reading goes on behind a text that was taken. -/
theorem Reads.bind (h : Reads read text result) {rest : List Char} (hrest : Ends rest)
    (next : α × List Char → Reading β) :
    (read (text ++ rest) >>= next).toOption = result.bind fun x => (next (x, rest)).toOption := by
  rw [toOption_bind, h rest hrest]
  cases result <;> rfl

end Reads

/-! ## Strings -/

theorem readHex_codes {digits : List Char} {n : Nat} (h : Codes digits n) (rest : List Char) :
    readHex (digits ++ rest) = .ok (n, rest) := by
  cases h with
  | intro ha hb hc hd => exact readHex_cons ha hb hc hd rest

theorem letter_ne_u {letter c : Char} (h : simpleEscape? letter = some c) : letter ≠ 'u' := by
  rintro rfl
  simp [simpleEscape?] at h

/-- The code of a character that is no half of a pair. -/
theorem readUnicode_code {digits : List Char} {n : Nat} (h : Codes digits n)
    (hn : n < 0xD800 ∨ 0xDFFF < n) (rest : List Char) :
    readUnicode (digits ++ rest) = .ok (Char.ofNat n, rest) := by
  have hlow : ¬ (0xDC00 ≤ n && n ≤ 0xDFFF) = true := by
    simp only [Bool.and_eq_true, decide_eq_true_eq]
    omega
  have hhigh : (n < 0xD800 || 0xDBFF < n) = true := by
    simp only [Bool.or_eq_true, decide_eq_true_eq]
    omega
  rw [readUnicode, readHex_codes h]
  change (if _ then _ else if _ then _ else _) = _
  rw [if_neg hlow, if_pos hhigh]

/-- The lower half of a pair does not stand first. -/
theorem readUnicode_low {digits : List Char} {n : Nat} (h : Codes digits n)
    (hn : 0xDC00 ≤ n ∧ n ≤ 0xDFFF) (rest : List Char) :
    (readUnicode (digits ++ rest)).toOption = none := by
  have hlow : (0xDC00 ≤ n && n ≤ 0xDFFF) = true := by
    simpa using hn
  rw [readUnicode, readHex_codes h]
  change (if _ then _ else _ : Reading _).toOption = none
  rw [if_pos hlow]
  rfl

/-- The upper half of a pair stands alone where no other code follows. -/
theorem readUnicode_lone {digits : List Char} {n : Nat} (h : Codes digits n)
    (hn : 0xD800 ≤ n ∧ n ≤ 0xDBFF) {rest : List Char} (hrest : ∀ more, rest ≠ '\\' :: 'u' :: more) :
    (readUnicode (digits ++ rest)).toOption = none := by
  rw [readUnicode, readHex_codes h]
  change (if _ then _ else if _ then _ else _ : Reading _).toOption = none
  split
  · rfl
  split
  next hhigh =>
    simp only [Bool.or_eq_true, decide_eq_true_eq] at hhigh
    omega
  · split
    · rfl
    · split
      · rfl
      · exact absurd rfl (hrest _)
      · rfl
    · rfl

/-- The upper half of a pair and the code behind it, which has to be the lower half. -/
theorem readUnicode_halves {highDigits lowDigits : List Char} {high low : Nat}
    (hhighDigits : Codes highDigits high) (hhigh : 0xD800 ≤ high ∧ high ≤ 0xDBFF)
    (hlowDigits : Codes lowDigits low) (rest : List Char) :
    (readUnicode (highDigits ++ '\\' :: 'u' :: (lowDigits ++ rest))).toOption =
      if 0xDC00 ≤ low ∧ low ≤ 0xDFFF then
        some (Char.ofNat (0x10000 + (high - 0xD800) * 0x400 + (low - 0xDC00)), rest)
      else none := by
  have hnotLow : ¬ (0xDC00 ≤ high && high ≤ 0xDFFF) = true := by
    simp only [Bool.and_eq_true, decide_eq_true_eq]
    omega
  have hhalf : ¬ (high < 0xD800 || 0xDBFF < high) = true := by
    simp only [Bool.or_eq_true, decide_eq_true_eq]
    omega
  rw [readUnicode, readHex_codes hhighDigits]
  change (if _ then _ else if _ then _ else readHex (lowDigits ++ rest) >>= fun _ => _ :
    Reading _).toOption = _
  rw [if_neg hnotLow, if_neg hhalf, readHex_codes hlowDigits]
  change (if _ then _ else _ : Reading _).toOption = _
  simp only [Bool.and_eq_true, decide_eq_true_eq]
  split <;> rfl

/-- Two halves of a pair, each in its range, are read as the one character that they make. -/
theorem readUnicode_pair {highDigits lowDigits : List Char} {high low : Nat}
    (hhighDigits : Codes highDigits high) (hhigh : 0xD800 ≤ high ∧ high ≤ 0xDBFF)
    (hlowDigits : Codes lowDigits low) (hlow : 0xDC00 ≤ low ∧ low ≤ 0xDFFF) (rest : List Char) :
    readUnicode (highDigits ++ '\\' :: 'u' :: (lowDigits ++ rest)) =
      .ok (Char.ofNat (0x10000 + (high - 0xD800) * 0x400 + (low - 0xDC00)), rest) :=
  toOption_eq_some_iff.1 <| by rw [readUnicode_halves hhighDigits hhigh hlowDigits, if_pos hlow]

/-- The code of a character is read up to its end, which may lie behind the next code, or it is not
read, whatever follows the string. -/
theorem readUnicode_quoted {digits text : List Char} {n : Nat} (hdigits : Codes digits n)
    (h : IsQuoted text) :
    (∀ rest, (readUnicode (digits ++ (text ++ rest))).toOption = none)
      ∨ ∃ c left, IsQuoted left ∧ left.length ≤ text.length
        ∧ ∀ rest, readUnicode (digits ++ (text ++ rest)) = .ok (c, left ++ rest) := by
  by_cases hlow : 0xDC00 ≤ n ∧ n ≤ 0xDFFF
  · exact .inl fun rest => readUnicode_low hdigits hlow _
  by_cases hhigh : 0xD800 ≤ n ∧ n ≤ 0xDBFF
  · -- The string has to go on with the lower half.
    cases h with
    | close => exact .inl fun rest => readUnicode_lone hdigits hhigh (by simp)
    | plain hc h =>
      refine .inl fun rest => readUnicode_lone hdigits hhigh fun more heq => ?_
      exact hc.2.2 (List.cons.inj heq).1
    | @escape letter c text hletter h =>
      refine .inl fun rest => readUnicode_lone hdigits hhigh fun more heq => ?_
      exact letter_ne_u hletter (List.cons.inj (List.cons.inj heq).2).1
    | @code lowDigits text low hlowDigits h =>
      simp only [List.cons_append, List.append_assoc]
      by_cases hpair : 0xDC00 ≤ low ∧ low ≤ 0xDFFF
      · refine .inr ⟨_, text, h, ?_, fun rest => readUnicode_pair hdigits hhigh hlowDigits hpair _⟩
        simp only [List.length_cons, List.length_append]
        omega
      · exact .inl fun rest => by rw [readUnicode_halves hdigits hhigh hlowDigits, if_neg hpair]
  · exact .inr ⟨_, text, h, Nat.le_refl _, fun rest => readUnicode_code hdigits (by omega) _⟩

/-- A plain character stands for itself. -/
theorem readCharacters_plain (fuel : Nat) {c : Char} (hc : IsPlain c) (text : List Char) :
    readCharacters (fuel + 1) (c :: text) =
      (readCharacters fuel text >>= fun read => .ok (c :: read.1, read.2)) := by
  obtain ⟨hshown, hquote, hslash⟩ := hc
  rw [readCharacters.eq_def]
  change (if c = '"' then _ else if c = '\\' then _ else if c.toNat < 32 then _ else _) = _
  rw [if_neg hquote, if_neg hslash, if_neg (Nat.not_lt.2 hshown)]

/-- A backslash with a letter stands for one character. -/
theorem readCharacters_escape (fuel : Nat) {letter c : Char} (h : simpleEscape? letter = some c)
    (text : List Char) :
    readCharacters (fuel + 1) ('\\' :: letter :: text) =
      (readCharacters fuel text >>= fun read => .ok (c :: read.1, read.2)) := by
  rw [readCharacters.eq_def]
  dsimp only
  rw [if_neg (by decide), if_pos rfl]
  split
  next heq => cases heq
  next heq => exact absurd (List.cons.inj heq).1 (letter_ne_u h)
  next heq =>
    obtain ⟨rfl, rfl⟩ := List.cons.inj heq
    rw [h]

theorem readCharacters_code (fuel : Nat) (text : List Char) :
    readCharacters (fuel + 1) ('\\' :: 'u' :: text) =
      (readUnicode text >>= fun read => readCharacters fuel read.2 >>= fun more =>
        .ok (read.1 :: more.1, more.2)) := rfl

/-- Whether the characters of a string are read, and which ones, lies in its text. The induction is on
the length of the text, because the code of one character may be as long as two. -/
theorem exists_readCharacters {text : List Char} (h : IsQuoted text) :
    ∃ result : Option (List Char), ∀ fuel, text.length ≤ fuel → ∀ rest,
      (readCharacters fuel (text ++ rest)).toOption = result.map (·, rest) := by
  induction hlength : text.length using Nat.strongRecOn generalizing text with
  | ind length ih =>
    subst hlength
    -- A first character in front of what is read of a shorter string.
    have hcons : ∀ {c : Char} {left : List Char}, IsQuoted left → left.length < text.length →
        ∃ result : Option (List Char), ∀ fuel, left.length ≤ fuel → ∀ rest,
          (readCharacters fuel (left ++ rest) >>= fun read =>
            (.ok (c :: read.1, read.2) : Reading _)).toOption = result.map (·, rest) := by
      intro c left hleft hlt
      obtain ⟨result, hresult⟩ := ih _ hlt hleft rfl
      refine ⟨result.map (c :: ·), fun fuel hfuel rest => ?_⟩
      rw [toOption_bind, hresult fuel hfuel rest]
      cases result <;> rfl
    cases h with
    | close =>
      refine ⟨some [], fun fuel hfuel rest => ?_⟩
      obtain ⟨fuel, rfl⟩ := Nat.exists_eq_add_one.2 hfuel
      rfl
    | @plain c left hc h =>
      obtain ⟨result, hresult⟩ := hcons h (Nat.lt_succ_self _)
      refine ⟨result, fun fuel hfuel rest => ?_⟩
      obtain ⟨fuel, rfl⟩ := Nat.exists_eq_add_one.2 (Nat.zero_lt_of_lt hfuel)
      rw [List.cons_append, readCharacters_plain fuel hc]
      exact hresult fuel (Nat.le_of_succ_le_succ hfuel) rest
    | @escape letter c left hletter h =>
      obtain ⟨result, hresult⟩ := hcons h (by simp only [List.length_cons]; omega)
      refine ⟨result, fun fuel hfuel rest => ?_⟩
      obtain ⟨fuel, rfl⟩ := Nat.exists_eq_add_one.2 (Nat.zero_lt_of_lt hfuel)
      rw [List.cons_append, List.cons_append, readCharacters_escape fuel hletter]
      refine hresult fuel ?_ rest
      simp only [List.length_cons] at hfuel
      omega
    | @code digits left n hdigits h =>
      rcases readUnicode_quoted hdigits h with hnone | ⟨c, behind, hbehind, hle, hread⟩
      · refine ⟨none, fun fuel hfuel rest => ?_⟩
        obtain ⟨fuel, rfl⟩ := Nat.exists_eq_add_one.2 (Nat.zero_lt_of_lt hfuel)
        rw [List.cons_append, List.cons_append, List.append_assoc, readCharacters_code,
          toOption_bind, hnone]
        rfl
      · have hlt : behind.length < ('\\' :: 'u' :: (digits ++ left)).length := by
          simp only [List.length_cons, List.length_append]
          omega
        obtain ⟨result, hresult⟩ := hcons hbehind hlt
        refine ⟨result, fun fuel hfuel rest => ?_⟩
        obtain ⟨fuel, rfl⟩ := Nat.exists_eq_add_one.2 (Nat.zero_lt_of_lt hfuel)
        rw [List.cons_append, List.cons_append, List.append_assoc, readCharacters_code, hread]
        refine hresult fuel ?_ rest
        simp only [List.length_cons, List.length_append] at hfuel
        omega

/-- Whether a string is read, and which one, lies in its text. -/
theorem exists_reads_readString {text : List Char} (h : IsQuoted text) :
    ∃ result, Reads readString text result := by
  obtain ⟨result, hresult⟩ := exists_readCharacters h
  refine ⟨result.map String.ofList, fun rest _ => ?_⟩
  have hfuel : text.length ≤ (text ++ rest).length + 1 := by
    rw [List.length_append]
    omega
  rw [readString, toOption_bind, hresult _ hfuel]
  cases result <;> rfl

/-- The characters that a string is written for are those that are read. -/
theorem readCharacters_spells {characters text : List Char} (h : Spells characters text)
    {fuel : Nat} (hfuel : text.length ≤ fuel) (rest : List Char) :
    readCharacters fuel (text ++ rest) = .ok (characters, rest) := by
  induction h generalizing fuel with
  | close =>
    obtain ⟨fuel, rfl⟩ := Nat.exists_eq_add_one.2 (Nat.zero_lt_of_lt hfuel)
    rfl
  | plain hc _ ih =>
    obtain ⟨fuel, rfl⟩ := Nat.exists_eq_add_one.2 (Nat.zero_lt_of_lt hfuel)
    rw [List.cons_append, readCharacters_plain fuel hc, ih (Nat.le_of_succ_le_succ hfuel), ok_bind]
  | escape hletter _ ih =>
    obtain ⟨fuel, rfl⟩ := Nat.exists_eq_add_one.2 (Nat.zero_lt_of_lt hfuel)
    simp only [List.length_cons] at hfuel
    rw [List.cons_append, List.cons_append, readCharacters_escape fuel hletter, ih (by omega),
      ok_bind]
  | code hdigits hn _ ih =>
    obtain ⟨fuel, rfl⟩ := Nat.exists_eq_add_one.2 (Nat.zero_lt_of_lt hfuel)
    simp only [List.length_cons, List.length_append] at hfuel
    rw [List.cons_append, List.cons_append, List.append_assoc, readCharacters_code,
      readUnicode_code hdigits hn, ok_bind, ih (by omega), ok_bind]
  | pair hhighDigits hhigh hlowDigits hlow _ ih =>
    obtain ⟨fuel, rfl⟩ := Nat.exists_eq_add_one.2 (Nat.zero_lt_of_lt hfuel)
    simp only [List.length_cons, List.length_append] at hfuel
    simp only [List.cons_append, List.append_assoc]
    rw [readCharacters_code, readUnicode_pair hhighDigits hhigh hlowDigits hlow, ok_bind,
      ih (by omega), ok_bind]

/-- A string is read as what its text spells. -/
theorem reads_spells {s : String} {text : List Char} (h : Spells s.toList text) :
    Reads readString text (some s) := by
  intro rest _
  rw [readString, readCharacters_spells h (by rw [List.length_append]; omega)]
  change some (String.ofList s.toList, rest) = _
  rw [String.ofList_toList]
  rfl

/-! ## Numbers -/

/-- Digits are passed over up to what ends them. -/
theorem dropWhile_digits {digits rest : List Char} (h : Digits digits)
    (hrest : startsWithDigit rest = false) : (digits ++ rest).dropWhile Char.isDigit = rest := by
  rw [List.dropWhile_append_of_pos h]
  cases rest with
  | nil => rfl
  | cons c rest => exact List.dropWhile_cons_of_neg (Bool.eq_false_iff.1 hrest)

theorem startsWithDigit_digits {digits : List Char} (h : Digits digits) (hne : digits ≠ [])
    (rest : List Char) : startsWithDigit (digits ++ rest) = true := by
  cases digits with
  | nil => exact absurd rfl hne
  | cons c digits => exact h c List.mem_cons_self

theorem IsExponent.startsWithDigit {text rest : List Char} (h : IsExponent text)
    (hrest : Ends rest) : startsWithDigit (text ++ rest) = false := by
  cases h with
  | none => exact hrest.startsWithDigit
  | digits hletter => rcases hletter with rfl | rfl <;> rfl

theorem IsFraction.startsWithDigit {text rest : List Char} (h : IsFraction text)
    (hrest : Json.startsWithDigit rest = false) : Json.startsWithDigit (text ++ rest) = false := by
  cases h with
  | none => exact hrest
  | digits => rfl

/-- Of digits as many are read as fit, and the others are left. -/
theorem exists_readDigits {digits : List Char} (h : Digits digits) (significand count : Nat) :
    ∃ next read left, Digits left ∧ ∀ rest, startsWithDigit rest = false →
      readDigits significand count (digits ++ rest) = (next, read, left ++ rest) := by
  induction digits generalizing significand count with
  | nil =>
    refine ⟨significand, count, [], nofun, fun rest hrest => ?_⟩
    cases rest with
    | nil => rfl
    | cons c rest => exact if_neg (Bool.eq_false_iff.1 hrest)
  | cons c digits ih =>
    have hc : c.isDigit = true := h c List.mem_cons_self
    by_cases hfits : maxWord < significand * 10 + (c.toNat - 48)
    · refine ⟨significand, count, c :: digits, h, fun rest _ => ?_⟩
      rw [List.cons_append, readDigits, if_pos hc, if_pos hfits]
    · obtain ⟨next, read, left, hleft, hread⟩ := ih (fun d hd => h d (List.mem_cons_of_mem _ hd))
        (significand * 10 + (c.toNat - 48)) (count + 1)
      refine ⟨next, read, left, hleft, fun rest hrest => ?_⟩
      rw [List.cons_append, readDigits, if_pos hc, if_neg hfits, hread rest hrest]

/-- The digits of an exponent are read to their end, or they are too many. -/
theorem exists_readExponentDigits {digits : List Char} (h : Digits digits) (exponent : Nat) :
    (∃ shift, ∀ rest, startsWithDigit rest = false →
        readExponentDigits exponent (digits ++ rest) = (some (shift, rest), rest))
      ∨ ∃ left, Digits left ∧ ∀ rest, readExponentDigits exponent (digits ++ rest) =
        (none, left ++ rest) := by
  induction digits generalizing exponent with
  | nil =>
    refine .inl ⟨exponent, fun rest hrest => ?_⟩
    cases rest with
    | nil => rfl
    | cons c rest => exact if_neg (Bool.eq_false_iff.1 hrest)
  | cons c digits ih =>
    have hc : c.isDigit = true := h c List.mem_cons_self
    have hdigits : Digits digits := fun d hd => h d (List.mem_cons_of_mem _ hd)
    simp only [List.cons_append, readExponentDigits, hc, if_true]
    by_cases hfits : 0x7FFFFFFF < exponent * 10 + (c.toNat - 48)
    · exact .inr ⟨digits, hdigits, fun rest => if_pos hfits⟩
    · simp only [if_neg hfits]
      exact ih hdigits _

variable (negative : Bool) (significand : Nat) (exponent : Int)

/-- Making a number of its parts takes no more text, whether there is such a number or not. -/
theorem exists_reads_floatOf :
    ∃ result, Reads (floatOf negative significand exponent) [] result := by
  cases hscaled : Decimal.Binary64.scaled? significand.toUInt64 exponent with
  | none => exact ⟨none, fun rest _ => by rw [List.nil_append, floatOf, hscaled]; rfl⟩
  | some x => exact ⟨some _, fun rest _ => by rw [List.nil_append, floatOf, hscaled]; rfl⟩

/-- An exponent is read behind its sign. -/
theorem readExponent_sign {sign : List Char} {down : Bool} {c : Char}
    (hsign : down = false ∧ (sign = [] ∨ sign = ['+']) ∨ down = true ∧ sign = ['-'])
    (hc : c.isDigit = true) (text : List Char) :
    readExponent negative significand exponent (sign ++ c :: text) =
      match readExponentDigits (c.toNat - 48) text with
      | (some (shift, rest), _) =>
        floatOf negative significand (if down then exponent - shift else exponent + shift) rest
      | (none, rest) =>
        if significand != 0 && !down then failBefore .numberOutOfRange rest
        else
          let x := Decimal.Binary64.zero
          .ok (.float (if negative then x.negate else x), rest.dropWhile Char.isDigit) := by
  have hplus : c ≠ '+' := Decimal.ne_of_isDigit hc rfl
  have hminus : c ≠ '-' := Decimal.ne_of_isDigit hc rfl
  have hdigit : ¬ (!c.isDigit) = true := by rw [hc]; decide
  rcases hsign with ⟨rfl, rfl | rfl⟩ | ⟨rfl, rfl⟩
  · rw [List.nil_append, readExponent]
    · exact if_neg hdigit
    · exact fun rest heq => hplus (List.cons.inj heq).1
    · exact fun rest heq => hminus (List.cons.inj heq).1
  · exact if_neg hdigit
  · exact if_neg hdigit

/-- An exponent, with its sign, is read to its end, and what follows has no say in it. -/
theorem exists_reads_readExponent {sign more : List Char} {down : Bool} {c : Char}
    (hsign : down = false ∧ (sign = [] ∨ sign = ['+']) ∨ down = true ∧ sign = ['-'])
    (hc : c.isDigit = true) (hmore : Digits more) :
    ∃ result, Reads (readExponent negative significand exponent) (sign ++ c :: more) result := by
  have hread := fun rest => readExponent_sign negative significand exponent hsign hc (more ++ rest)
  simp only [Reads, List.append_assoc, List.cons_append, hread]
  rcases exists_readExponentDigits hmore (c.toNat - 48) with ⟨shift, hdigits⟩ | ⟨left, hleft, hdigits⟩
  · obtain ⟨result, hresult⟩ := exists_reads_floatOf negative significand
      (if down then exponent - shift else exponent + shift)
    refine ⟨result, fun rest hrest => ?_⟩
    rw [hdigits rest hrest.startsWithDigit]
    exact hresult rest hrest
  · by_cases hover : (significand != 0 && !down) = true
    · refine ⟨none, fun rest hrest => ?_⟩
      rw [hdigits rest]
      exact congrArg Except.toOption (if_pos hover)
    · let x := Decimal.Binary64.zero
      refine ⟨some (.float (if negative then x.negate else x)), fun rest hrest => ?_⟩
      rw [hdigits rest]
      refine (congrArg Except.toOption (if_neg hover)).trans ?_
      rw [dropWhile_digits hleft hrest.startsWithDigit]
      rfl

/-- A text that is no exponent ends the number. -/
theorem readFractionEnd_of_ends {rest : List Char} (h : Ends rest) :
    readFractionEnd negative significand exponent rest =
      floatOf negative significand exponent rest := by
  cases rest with
  | nil => rfl
  | cons c rest =>
    obtain ⟨-, -, he, hE⟩ := h c rfl
    rw [readFractionEnd, if_neg (by simp [he, hE])]

/-- The same of what may stand behind the digits of a fraction. -/
theorem exists_reads_readFractionEnd {text : List Char} (h : IsExponent text) :
    ∃ result, Reads (readFractionEnd negative significand exponent) text result := by
  cases h with
  | none =>
    obtain ⟨result, hresult⟩ := exists_reads_floatOf negative significand exponent
    exact ⟨result, fun rest hrest => by
      rw [List.nil_append, readFractionEnd_of_ends _ _ _ hrest]; exact hresult rest hrest⟩
  | @digits letter c sign more hletter hsign hc hmore =>
    have hdown : ∃ down, down = false ∧ (sign = [] ∨ sign = ['+']) ∨ down = true ∧ sign = ['-'] := by
      rcases hsign with hnone | hplus | hminus
      · exact ⟨false, .inl ⟨rfl, .inl hnone⟩⟩
      · exact ⟨false, .inl ⟨rfl, .inr hplus⟩⟩
      · exact ⟨true, .inr ⟨rfl, hminus⟩⟩
    obtain ⟨down, hdown⟩ := hdown
    obtain ⟨result, hresult⟩ :=
      exists_reads_readExponent negative significand exponent hdown hc hmore
    refine ⟨result, fun rest hrest => ?_⟩
    rw [List.cons_append, readFractionEnd, if_pos (by simpa using hletter)]
    exact hresult rest hrest

/-- The same of a fraction with its exponent. -/
theorem exists_reads_readFraction {digits text : List Char} (hdigits : Digits digits)
    (h : IsExponent text) :
    ∃ result, Reads (readFraction negative significand exponent) (digits ++ text) result := by
  obtain ⟨next, read, left, hleft, hread⟩ := exists_readDigits hdigits significand 0
  obtain ⟨result, hresult⟩ :=
    exists_reads_readFractionEnd negative next (exponent - read) h
  have hread : ∀ rest, Ends rest → readDigits significand 0 (digits ++ text ++ rest) =
      (next, read, left ++ (text ++ rest)) := fun rest hrest => by
    rw [List.append_assoc]
    exact hread _ (h.startsWithDigit hrest)
  by_cases hnone : left = []
  · subst hnone
    by_cases hzero : read = 0
    · -- There is no digit behind the point.
      refine ⟨none, fun rest hrest => ?_⟩
      rw [readFraction, hread rest hrest]
      change (if startsWithDigit (text ++ rest) then _ else if read = 0 then _ else _ :
        Reading _).toOption = none
      rw [h.startsWithDigit hrest, if_neg Bool.false_ne_true, if_pos hzero]
      split <;> rfl
    · refine ⟨result, fun rest hrest => ?_⟩
      rw [readFraction, hread rest hrest]
      change (if startsWithDigit (text ++ rest) then _ else if read = 0 then _ else _ :
        Reading _).toOption = _
      rw [h.startsWithDigit hrest, if_neg Bool.false_ne_true, if_neg hzero]
      exact hresult rest hrest
  · refine ⟨result, fun rest hrest => ?_⟩
    rw [readFraction, hread rest hrest]
    change (if startsWithDigit (left ++ (text ++ rest)) then _ else _ : Reading _).toOption = _
    rw [startsWithDigit_digits hleft hnone, if_pos rfl, dropWhile_digits hleft (h.startsWithDigit hrest)]
    exact hresult rest hrest

theorem IsExponent.ne_point {text rest : List Char} (h : IsExponent text) (hrest : Ends rest)
    (more : List Char) : text ++ rest ≠ '.' :: more := by
  rintro heq
  cases h with
  | none => exact (hrest '.' (by rw [← List.nil_append rest, heq]; rfl)).2.1 rfl
  | digits hletter => rcases hletter with rfl | rfl <;> cases (List.cons.inj heq).1

/-- Digits that were left count for the exponent. -/
theorem readAfterInteger_digits {left rest : List Char} (hleft : Digits left) (hne : left ≠ [])
    (hrest : startsWithDigit rest = false) :
    (∀ more, rest = '.' :: more → readAfterInteger negative significand (left ++ rest) =
        readFraction negative significand left.length more)
      ∧ ((∀ more, rest ≠ '.' :: more) → readAfterInteger negative significand (left ++ rest) =
        readFractionEnd negative significand left.length rest) := by
  have hcount : (left ++ rest).length - rest.length = left.length := by
    rw [List.length_append]
    omega
  rw [readAfterInteger.eq_def, startsWithDigit_digits hleft hne, if_pos rfl,
    dropWhile_digits hleft hrest]
  dsimp only
  rw [hcount]
  constructor
  · rintro more rfl
    rfl
  · intro hpoint
    split
    next more => exact absurd rfl (hpoint more)
    next => rfl

/-- What is read behind the digits before the point, where some of them were left. -/
theorem exists_reads_readAfterInteger_left {left fraction text : List Char} (hleft : Digits left)
    (hne : left ≠ []) (hfraction : IsFraction fraction) (h : IsExponent text) :
    ∃ result, Reads (readAfterInteger negative significand) (left ++ (fraction ++ text)) result := by
  have hdigits : ∀ rest, Ends rest → startsWithDigit (fraction ++ (text ++ rest)) = false :=
    fun rest hrest => hfraction.startsWithDigit (h.startsWithDigit hrest)
  cases hfraction with
  | none =>
    obtain ⟨result, hresult⟩ :=
      exists_reads_readFractionEnd negative significand left.length h
    refine ⟨result, fun rest hrest => ?_⟩
    have hread := readAfterInteger_digits negative significand hleft hne (hdigits rest hrest)
    rw [List.append_assoc, List.append_assoc, hread.2 (h.ne_point hrest)]
    exact hresult rest hrest
  | @digits c more hc hmore =>
    obtain ⟨result, hresult⟩ := exists_reads_readFraction negative significand left.length
      (List.forall_mem_cons.2 ⟨hc, hmore⟩) h
    refine ⟨result, fun rest hrest => ?_⟩
    have hread := readAfterInteger_digits negative significand hleft hne (hdigits rest hrest)
    rw [List.append_assoc, List.append_assoc, hread.1 (c :: more ++ (text ++ rest)) rfl,
      ← List.append_assoc]
    exact hresult rest hrest

/-- What is read behind the digits before the point, where none of them was left. -/
theorem exists_reads_readAfterInteger {fraction text : List Char} (hfraction : IsFraction fraction)
    (h : IsExponent text) :
    ∃ result, Reads (readAfterInteger negative significand) (fraction ++ text) result := by
  have hdigit : ∀ rest, Ends rest → ¬ startsWithDigit (fraction ++ text ++ rest) = true := by
    intro rest hrest
    rw [List.append_assoc, hfraction.startsWithDigit (h.startsWithDigit hrest)]
    exact Bool.false_ne_true
  cases hfraction with
  | digits hc hmore =>
    obtain ⟨result, hresult⟩ := exists_reads_readFraction negative significand 0
      (List.forall_mem_cons.2 ⟨hc, hmore⟩) h
    refine ⟨result, fun rest hrest => ?_⟩
    rw [readAfterInteger.eq_def, if_neg (hdigit rest hrest)]
    exact hresult rest hrest
  | none =>
    cases h with
    | none =>
      by_cases hminus : (!negative) = true
      · refine ⟨some (.integer significand), fun rest hrest => ?_⟩
        rw [List.append_nil, List.nil_append, readAfterInteger_of_ends _ _ hrest, if_pos hminus]
        rfl
      · by_cases hlarge : (significand = 0 || 0x8000000000000000 < significand) = true
        · refine ⟨some (.float (Decimal.Binary64.ofFloat significand.toUInt64.toFloat).negate),
            fun rest hrest => ?_⟩
          rw [List.append_nil, List.nil_append, readAfterInteger_of_ends _ _ hrest, if_neg hminus,
            if_pos hlarge]
          rfl
        · refine ⟨some (.integer (-(significand : Int))), fun rest hrest => ?_⟩
          rw [List.append_nil, List.nil_append, readAfterInteger_of_ends _ _ hrest, if_neg hminus,
            if_neg hlarge]
          rfl
    | digits hletter hsign hc hmore =>
      obtain ⟨result, hresult⟩ := exists_reads_readFractionEnd negative significand 0
        (.digits hletter hsign hc hmore)
      refine ⟨result, fun rest hrest => ?_⟩
      rw [readAfterInteger.eq_def, if_neg (hdigit rest hrest)]
      rcases hletter with rfl | rfl <;> exact hresult rest hrest

/-- Whether a number is read, and which one, lies in its text. -/
theorem exists_reads_readNumber {text : List Char} (h : IsUnsigned text) :
    ∃ result, Reads (readNumber negative) text result := by
  cases h with
  | @intro whole fraction exponent hwhole hfraction hexponent =>
    cases hwhole with
    | zero =>
      obtain ⟨result, hresult⟩ := exists_reads_readAfterInteger negative 0 hfraction hexponent
      refine ⟨result, fun rest hrest => ?_⟩
      have hdigit : startsWithDigit (fraction ++ exponent ++ rest) = false := by
        rw [List.append_assoc, hfraction.startsWithDigit (hexponent.startsWithDigit hrest)]
      rw [List.singleton_append, List.cons_append, readNumber, hdigit, if_neg Bool.false_ne_true]
      exact hresult rest hrest
    | @digits c more hc hzero hmore =>
      obtain ⟨next, read, left, hleft, hread⟩ :=
        exists_readDigits (List.forall_mem_cons.2 ⟨hc, hmore⟩) 0 0
      have hnumber : ∀ rest, Ends rest →
          readNumber negative (c :: more ++ (fraction ++ exponent) ++ rest) =
            readAfterInteger negative next (left ++ (fraction ++ (exponent ++ rest))) := by
        intro rest hrest
        have hdigits := hread _ (hfraction.startsWithDigit (hexponent.startsWithDigit hrest))
        rw [List.append_assoc, List.append_assoc, List.cons_append] at *
        rw [readNumber]
        · rw [if_pos hc, hdigits]
        · exact hzero
      by_cases hnone : left = []
      · subst hnone
        obtain ⟨result, hresult⟩ := exists_reads_readAfterInteger negative next hfraction hexponent
        refine ⟨result, fun rest hrest => ?_⟩
        rw [hnumber rest hrest, List.nil_append, ← List.append_assoc]
        exact hresult rest hrest
      · obtain ⟨result, hresult⟩ :=
          exists_reads_readAfterInteger_left negative next hleft hnone hfraction hexponent
        refine ⟨result, fun rest hrest => ?_⟩
        rw [hnumber rest hrest, ← hresult rest hrest, List.append_assoc, List.append_assoc]

end QueryLint.Json
