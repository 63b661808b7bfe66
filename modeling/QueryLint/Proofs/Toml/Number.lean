import QueryLint.Proofs.Decimal
import QueryLint.Toml.Reader
import QueryLint.Toml.Writer

/-!
# Whole numbers are read back

A number may turn out to be a date, a time or a floating-point number, so these are tried first. The
digits of a whole number are none of them: each of the readers gives up softly at the first character
that it cannot use (`Softly`), and the last one takes the number (`readNumeral_integerDigits`).
-/

namespace QueryLint.Toml

open Reading Decimal

/-! ## Soft failures -/

/-- Reading fails, but something else may be tried. -/
def Softly {α : Type} (r : Reading α) : Prop :=
  ∃ f, r = .error f ∧ f.soft = true

section Softly

variable {α β : Type} {r : Reading α}

theorem softly_failAt (text : List Char) : Softly (failAt (α := α) text) :=
  ⟨_, rfl, rfl⟩

theorem softly_because (cause : String) (text : List Char) : Softly (because (α := α) cause text) :=
  ⟨_, rfl, rfl⟩

theorem Softly.labelled (h : Softly r) (label : String) : Softly (Reading.labelled label r) := by
  obtain ⟨f, rfl, hsoft⟩ := h
  exact ⟨_, rfl, hsoft⟩

/-- A failure is not made up for by what would come next. -/
theorem Softly.bind (h : Softly r) (next : α → Reading β) : Softly (r >>= next) := by
  obtain ⟨f, rfl, hsoft⟩ := h
  exact ⟨f, rfl, hsoft⟩

theorem Softly.map (h : Softly r) (f : α → β) : Softly (r.map f) := by
  obtain ⟨f, rfl, hsoft⟩ := h
  exact ⟨f, rfl, hsoft⟩

/-- After a soft failure the other way is tried. -/
theorem Softly.orElse_eq (h : Softly r) (second : Reading α) : orElse r second = second := by
  obtain ⟨f, rfl, hsoft⟩ := h
  exact if_pos hsoft

end Softly

/-! ## What ends a value -/

/-- The characters that stand right behind a value: the end of its line, or what stands between the
values of an array or a table. -/
def stops : List Char :=
  ['\n', ' ', ',', ']']

/-- A value ends before what follows. -/
def Stops (rest : List Char) : Prop :=
  ∃ c tail, rest = c :: tail ∧ c ∈ stops

theorem not_isDigit_of_mem_stops : ∀ c ∈ stops, c.isDigit = false := by
  simp [stops]

/-! ## Digits -/

/-- Digits are read up to where a number stops. -/
theorem readMoreDigits_append {digits rest : List Char} (hdigits : ∀ c ∈ digits, c.isDigit = true)
    (hrest : Stops rest) : readMoreDigits Char.isDigit (digits ++ rest) = .ok (digits, rest) := by
  have hunder : ∀ {c : Char}, c.isDigit = true → c ≠ '_' := by
    rintro c hc rfl
    cases hc
  induction digits with
  | nil =>
    obtain ⟨c, tail, rfl, hc⟩ := hrest
    have hstop : ¬ c.isDigit = true := Bool.eq_false_iff.1 (not_isDigit_of_mem_stops c hc)
    have hc : c ≠ '_' := by
      rintro rfl
      exact absurd hc (by decide)
    rw [List.nil_append, readMoreDigits, if_neg hstop]
    · exact fun _ _ h => absurd h hc
    · exact fun h => absurd h hc
  | cons c digits ih =>
    have hc := hdigits c List.mem_cons_self
    rw [List.cons_append, readMoreDigits, if_pos hc,
      ih fun d hd => hdigits d (List.mem_cons_of_mem _ hd)]
    · rfl
    · exact fun _ _ h => absurd h (hunder hc)
    · exact fun h => absurd h (hunder hc)

/-- The digits of a number have its value. -/
theorem digitsValue_decimalDigits (n : Nat) : digitsValue 10 (decimalDigits n) = n := by
  have hfold : ∀ digits : List Char, (∀ c ∈ digits, c.isDigit = true) → ∀ start,
      digits.foldl (fun n c => 10 * n + (hexValue? c).getD 0) start =
        Nat.ofDigitChars 10 digits start := by
    intro digits
    induction digits with
    | nil => exact fun _ _ => rfl
    | cons c digits ih =>
      intro hdigits start
      have hvalue : hexValue? c = some (c.toNat - 48) := if_pos (hdigits c List.mem_cons_self)
      rw [List.foldl_cons, hvalue, ih fun d hd => hdigits d (List.mem_cons_of_mem _ hd),
        Nat.ofDigitChars_cons]
      rfl
  rw [digitsValue, hfold _ fun c hc => isDigit_of_mem_decimalDigits hc]
  exact Nat.ofDigitChars_ten_toDigits

/-! ## Whole numbers -/

/-- The digits of a whole number stand behind its sign. -/
theorem readSign_integerDigits (i : Int) (rest : List Char) :
    readSign (integerDigits i ++ rest) = (decide (i < 0), decimalDigits i.natAbs ++ rest) := by
  by_cases hi : i < 0
  · rw [integerDigits, if_pos hi, decide_eq_true hi]
    rfl
  · obtain ⟨c, digits, hdigits, hc⟩ := decimalDigits_eq_cons i.natAbs
    rw [integerDigits, if_neg hi, decide_eq_false hi, hdigits, List.cons_append]
    unfold readSign
    split
    next heq => exact absurd (List.cons.inj heq).1 (ne_of_isDigit hc rfl)
    next heq => exact absurd (List.cons.inj heq).1 (ne_of_isDigit hc rfl)
    next => rfl

/-- The sign and the digits of a whole number are read. -/
theorem readWhole_integerDigits (i : Int) {rest : List Char} (hrest : Stops rest) :
    readWhole (integerDigits i ++ rest) = .ok ((decide (i < 0), decimalDigits i.natAbs), rest) := by
  rw [readWhole, readSign_integerDigits]
  rcases Nat.eq_zero_or_pos i.natAbs with hzero | hpos
  · rw [hzero, decimalDigits_zero]
    rfl
  · obtain ⟨c, digits, hdigits, hc, hne⟩ := head_decimalDigits hpos
    have hmore : ∀ d ∈ digits, d.isDigit = true := fun d hd =>
      isDigit_of_mem_decimalDigits (hdigits ▸ List.mem_cons_of_mem c hd)
    rw [hdigits, List.cons_append]
    dsimp only
    split
    next heq => exact absurd (List.cons.inj heq).1 hne
    next =>
      rw [readDigits, if_pos hc, readMoreDigits_append hmore hrest]
      rfl

/-- No sign of a base stands behind a zero. -/
theorem integerDigits_append_ne (i : Int) {c : Char} (hc : c ∉ stops) {rest : List Char}
    (hrest : Stops rest) (more : List Char) : integerDigits i ++ rest ≠ '0' :: c :: more := by
  intro heq
  by_cases hi : i < 0
  · rw [integerDigits, if_pos hi] at heq
    cases (List.cons.inj heq).1
  · rw [integerDigits, if_neg hi] at heq
    rcases Nat.eq_zero_or_pos i.natAbs with hzero | hpos
    · obtain ⟨d, tail, rfl, hd⟩ := hrest
      rw [hzero, decimalDigits_zero] at heq
      exact hc ((List.cons.inj (List.cons.inj heq).2).1 ▸ hd)
    · obtain ⟨d, digits, hdigits, -, hne⟩ := head_decimalDigits hpos
      rw [hdigits] at heq
      exact hne (List.cons.inj heq).1

/-- A written integer of 64 bits is read back. -/
theorem readInteger_integerDigits {i : Int} (hlow : -0x8000000000000000 ≤ i)
    (hhigh : i < 0x8000000000000000) {rest : List Char} (hrest : Stops rest) :
    readInteger (integerDigits i ++ rest) = .ok (i, rest) := by
  rw [readInteger, readWhole_integerDigits i hrest]
  · change required
      (wholeNumber (decide (i < 0)) (digitsValue 10 (decimalDigits i.natAbs)) _ rest) = _
    rw [digitsValue_decimalDigits]
    by_cases hi : i < 0
    · rw [decide_eq_true hi, wholeNumber, if_pos rfl, if_pos (by omega),
        Int.ofNat_natAbs_of_nonpos (by omega), Int.neg_neg]
      rfl
    · rw [decide_eq_false hi, wholeNumber, if_neg Bool.false_ne_true, if_pos (by omega),
        Int.natAbs_of_nonneg (by omega)]
      rfl
  · exact fun more h => integerDigits_append_ne i (by decide) hrest more h
  · exact fun more h => integerDigits_append_ne i (by decide) hrest more h
  · exact fun more h => integerDigits_append_ne i (by decide) hrest more h

/-! ## What a whole number is not -/

/-- Without a point or an exponent there is no float. -/
theorem softly_readFloatRest {rest : List Char} (hrest : Stops rest) :
    Softly (readFloatRest rest) := by
  have hletter : ∀ c ∈ stops, ¬ (c = 'e' || c = 'E') = true := by simp [stops]
  obtain ⟨c, tail, rfl, hc⟩ := hrest
  have hexponent : Softly (readExponent (c :: tail)) := by
    rw [readExponent, if_neg (hletter c hc)]
    exact softly_failAt _
  have hfraction : Softly (readFraction (c :: tail)) := by
    rw [readFraction]
    · exact softly_failAt _
    · intro more heq
      rw [(List.cons.inj heq).1] at hc
      exact absurd hc (by decide)
  rw [readFloatRest, (hexponent.bind _).orElse_eq]
  exact hfraction.bind _

/-- A written integer is not taken for a float. -/
theorem softly_readFloat (i : Int) {rest : List Char} (hrest : Stops rest) :
    Softly (readFloat (integerDigits i ++ rest)) := by
  have hnumber := softly_readFloatRest hrest
  have hspecial : Softly (readSpecialFloat (integerDigits i ++ rest)) := by
    obtain ⟨c, digits, hdigits, hc⟩ := decimalDigits_eq_cons i.natAbs
    rw [readSpecialFloat, readSign_integerDigits, hdigits, List.cons_append]
    dsimp only
    split
    next heq => exact absurd (List.cons.inj heq).1 (ne_of_isDigit hc rfl)
    next heq => exact absurd (List.cons.inj heq).1 (ne_of_isDigit hc rfl)
    next => exact softly_failAt _
  rw [readFloat, readWhole_integerDigits i hrest]
  refine Softly.labelled ?_ _
  change Softly (orElse (readFloatRest rest >>= fun _ => _) _)
  rw [(hnumber.bind _).orElse_eq]
  exact hspecial

/-- Where some characters are all digits, the one behind them is a digit or what ends the digits. -/
theorem head?_drop {digits : List Char} {c : Char} {tail : List Char} {n : Nat}
    (hdigits : ∀ d ∈ digits, d.isDigit = true) (hc : c.isDigit = false)
    (h : ∀ d ∈ (digits ++ c :: tail).take n, d.isDigit = true) :
    ∃ d ∈ ((digits ++ c :: tail).drop n).head?, d.isDigit = true ∨ d = c := by
  induction digits generalizing n with
  | nil =>
    cases n with
    | zero => exact ⟨c, rfl, .inr rfl⟩
    | succ n =>
      have := h c List.mem_cons_self
      rw [hc] at this
      cases this
  | cons d digits ih =>
    cases n with
    | zero => exact ⟨d, rfl, .inl (hdigits d List.mem_cons_self)⟩
    | succ n =>
      exact ih (fun e he => hdigits e (List.mem_cons_of_mem d he))
        fun e he => h e (List.mem_cons_of_mem d he)

/-- Where characters of a whole number are all digits, no other character than a digit or one that
stops the number stands behind them. -/
theorem head?_drop_integerDigits {i : Int} {rest : List Char} (hrest : Stops rest) {n : Nat}
    (hn : 0 < n) (h : ∀ d ∈ (integerDigits i ++ rest).take n, d.isDigit = true) :
    ∃ d ∈ ((integerDigits i ++ rest).drop n).head?, d.isDigit = true ∨ d ∈ stops := by
  obtain ⟨c, tail, rfl, hc⟩ := hrest
  by_cases hi : i < 0
  · obtain ⟨n, rfl⟩ := Nat.exists_eq_add_one.2 hn
    rw [integerDigits, if_pos hi] at h
    cases h '-' List.mem_cons_self
  · rw [integerDigits, if_neg hi] at h ⊢
    obtain ⟨d, hd, hkind⟩ := head?_drop (fun _ => isDigit_of_mem_decimalDigits)
      (not_isDigit_of_mem_stops c hc) h
    exact ⟨d, hd, hkind.imp_right fun h => by rw [h]; exact hc⟩

/-- A sign of a date or a time is none of these characters. -/
theorem softly_readSymbol {symbol : Char} {text : List Char}
    (h : ∃ d ∈ text.head?, d.isDigit = true ∨ d ∈ stops) (hdigit : symbol.isDigit = false)
    (hstop : symbol ∉ stops) : Softly (readSymbol symbol text) := by
  obtain ⟨d, hd, hkind⟩ := h
  cases text with
  | nil => cases hd
  | cons e text =>
    obtain rfl := Option.some.inj hd
    rw [readSymbol, if_neg]
    · exact softly_failAt _
    · rintro rfl
      rcases hkind with h | h
      · exact ne_of_isDigit h hdigit rfl
      · exact hstop h

/-- A year is four digits, and anything else is passed over softly. -/
theorem readYear_cases (text : List Char) :
    Softly (readYear text) ∨ (∀ d ∈ text.take 4, d.isDigit = true)
      ∧ ∃ n, readYear text = .ok (n, text.drop 4) := by
  rw [readYear]
  split
  next h =>
    simp only [Bool.and_eq_true, List.all_eq_true] at h
    exact .inr ⟨h.2, _, rfl⟩
  next => exact .inl (softly_failAt _)

/-- A month or a day is two digits, and anything else is passed over softly. -/
theorem readTwoDigits_cases (low high : Nat) (text : List Char) :
    Softly (readTwoDigits low high text) ∨ (∀ d ∈ text.take 2, d.isDigit = true)
      ∧ ∃ n, readTwoDigits low high text = .ok (n, text.drop 2) := by
  unfold readTwoDigits
  split
  next a b rest =>
    split
    next h =>
      have hdigits : ∀ d ∈ [a, b], d.isDigit = true := by simpa using h
      dsimp only
      split
      · exact .inr ⟨hdigits, _, rfl⟩
      · exact .inl (softly_because _ _)
    next => exact .inl (softly_failAt _)
  next => exact .inl (softly_failAt _)

/-- A written integer is not taken for a date: behind its digits stands nothing that a date goes on
with. -/
theorem softly_readDateTime (i : Int) {rest : List Char} (hrest : Stops rest) :
    Softly (readDateTime (integerDigits i ++ rest)) := by
  have hdate : Softly (readDate (integerDigits i ++ rest)) := by
    rw [readDate]
    rcases readYear_cases (integerDigits i ++ rest) with hsoft | ⟨hdigits, n, hyear⟩
    · exact hsoft.bind _
    · rw [hyear]
      exact (softly_readSymbol (head?_drop_integerDigits hrest (by decide) hdigits) rfl
        (by decide)).bind _
  have htime : Softly (readTime (integerDigits i ++ rest)) := by
    rw [readTime]
    rcases readTwoDigits_cases 0 23 (integerDigits i ++ rest) with hsoft | ⟨hdigits, n, hhour⟩
    · exact hsoft.bind _
    · rw [hhour]
      exact (softly_readSymbol (head?_drop_integerDigits hrest (by decide) hdigits) rfl
        (by decide)).bind _
  rw [readDateTime, ((hdate.bind _).labelled _).orElse_eq]
  exact htime.labelled _

/-- A whole number of 64 bits with a sign is read. -/
theorem readNumeral_integerDigits {i : Int} (hlow : -0x8000000000000000 ≤ i)
    (hhigh : i < 0x8000000000000000) {rest : List Char} (hrest : Stops rest) :
    readNumeral (integerDigits i ++ rest) = .ok (.integer i, rest) := by
  rw [readNumeral]
  dsimp only
  rw [((softly_readDateTime i hrest).map _).orElse_eq, ((softly_readFloat i hrest).map _).orElse_eq,
    readInteger_integerDigits hlow hhigh hrest]
  rfl

end QueryLint.Toml
