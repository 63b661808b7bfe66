import QueryLint.Toml.Quoted
import QueryLint.Toml.Writer

/-!
# Texts between quotes are read back

Whichever of its forms a text is written in, it is read as itself (`readText_writeText`), if no quote
follows it. Between double quotes this rests on the escapes (`readEscape_escape`). Between three
quotes a run of quotes is read as a whole, so the statements speak of the quotes that stand right
before the text that is left.
-/

namespace QueryLint.Toml

open Reading

/-! ## Escapes -/

/-- Four digits in base sixteen are read as the code that they write. -/
theorem readCode_four {digits : List Char} (hlength : digits.length = 4)
    (hdigits : ∀ c ∈ digits, (hexValue? c).isSome = true)
    (hvalid : (hexValue digits).isValidChar) (rest : List Char) :
    readCode 4 (digits ++ rest) = .ok (Char.ofNat (hexValue digits), rest) := by
  have hfound : ((digits ++ rest).takeWhile fun c => (hexValue? c).isSome).take 4 = digits := by
    rw [List.takeWhile_append_of_pos hdigits, ← hlength, List.take_left]
  rw [readCode, hfound, if_pos hlength, if_pos hvalid, ← hlength, List.drop_left]
  rfl

theorem isPlain_iff {c : Char} :
    isPlain c = true ↔ c ≠ '"' ∧ c ≠ '\\' ∧ 32 ≤ c.toNat ∧ c.toNat ≠ 127 := by
  simp only [isPlain, Bool.and_eq_true, decide_eq_true_eq, and_assoc]

/-- A character that cannot stand for itself is read from its escape, which begins with a backslash and
a letter. -/
theorem readEscape_escape {c : Char} (h : isPlain c = false) :
    ∃ letter tail, escape c = '\\' :: letter :: tail ∧ isBlank letter = false ∧ letter ≠ '\n'
      ∧ letter ≠ '\r' ∧ ∀ rest, readEscape letter (tail ++ rest) = .ok (c, rest) := by
  unfold escape
  split
  · subst_vars; exact ⟨'b', [], rfl, rfl, by decide, by decide, fun _ => rfl⟩
  split
  · subst_vars; exact ⟨'t', [], rfl, rfl, by decide, by decide, fun _ => rfl⟩
  split
  · subst_vars; exact ⟨'n', [], rfl, rfl, by decide, by decide, fun _ => rfl⟩
  split
  · subst_vars; exact ⟨'f', [], rfl, rfl, by decide, by decide, fun _ => rfl⟩
  split
  · subst_vars; exact ⟨'r', [], rfl, rfl, by decide, by decide, fun _ => rfl⟩
  split
  · subst_vars; exact ⟨'"', [], rfl, rfl, by decide, by decide, fun _ => rfl⟩
  split
  · subst_vars; exact ⟨'\\', [], rfl, rfl, by decide, by decide, fun _ => rfl⟩
  next hquote hbackslash =>
    refine ⟨'u', _, rfl, rfl, by decide, by decide, fun rest => ?_⟩
    have hdigits : ∀ n < 128, ((fourDigits n).all fun c => (hexValue? c).isSome) = true
        ∧ hexValue (fourDigits n) = n := by decide
    -- What is left are the control characters.
    have hcode : c.toNat < 128 := by
      refine Nat.lt_of_not_le fun hge => ?_
      refine Bool.eq_false_iff.1 h (isPlain_iff.2 ⟨hquote, hbackslash, ?_, ?_⟩) <;> omega
    obtain ⟨hhex, hvalue⟩ := hdigits c.toNat hcode
    have hread := readCode_four rfl (List.all_eq_true.1 hhex) (by rw [hvalue]; exact .inl (by omega)) rest
    rwa [hvalue, Char.ofNat_toNat] at hread

theorem isBasic_of_isPlain {c : Char} (h : isPlain c = true) : isBasic c = true := by
  obtain ⟨hquote, hbackslash, hlow, hdelete⟩ := isPlain_iff.1 h
  simp only [isBasic, isShown, Bool.and_eq_true, Bool.or_eq_true, decide_eq_true_eq]
  exact ⟨⟨.inr ⟨hlow, hdelete⟩, hquote⟩, hbackslash⟩

theorem not_afterNewline? {c : Char} (hline : c ≠ '\n') (hreturn : c ≠ '\r') (text : List Char) :
    afterNewline? (c :: text) = none := by
  unfold afterNewline?
  split
  next heq => exact absurd (List.cons.inj heq).1 hline
  next heq => exact absurd (List.cons.inj heq).1 hreturn
  next => rfl

/-! ## Between double quotes -/

/-- Escaped text is read back up to the closing quote. -/
theorem readBasic_escapeAll {fuel : Nat} {text : List Char} (hfuel : text.length < fuel)
    (rest : List Char) :
    readBasic fuel (escapeAll text ++ '"' :: rest) = .ok (text, rest) := by
  induction text generalizing fuel with
  | nil =>
    obtain ⟨fuel, rfl⟩ := Nat.exists_eq_add_one.2 (Nat.zero_lt_of_lt hfuel)
    rfl
  | cons c text ih =>
    obtain ⟨fuel, rfl⟩ := Nat.exists_eq_add_one.2 (Nat.zero_lt_of_lt hfuel)
    have htext := ih (Nat.lt_of_succ_lt_succ hfuel)
    rw [escapeAll, List.flatMap_cons, List.append_assoc]
    by_cases hc : isPlain c
    · obtain ⟨hquote, hbackslash, -⟩ := isPlain_iff.1 hc
      rw [if_pos hc, List.singleton_append, readBasic]
      · rw [if_pos (isBasic_of_isPlain hc)]
        change (readBasic fuel (escapeAll text ++ '"' :: rest) >>= fun _ => _) = _
        rw [htext]
        rfl
      · exact hquote
      · exact fun _ _ h => absurd h hbackslash
    · obtain ⟨letter, tail, hescape, -, -, -, hread⟩ :=
        readEscape_escape (Bool.eq_false_iff.2 hc)
      rw [if_neg hc, hescape, List.cons_append, List.cons_append, readBasic, hread]
      change (readBasic fuel (escapeAll text ++ '"' :: rest) >>= fun _ => _) = _
      rw [htext]
      rfl

theorem length_le_escapeAll (text : List Char) : text.length ≤ (escapeAll text).length := by
  induction text with
  | nil => exact Nat.le_refl 0
  | cons c text ih =>
    have hc : 0 < (if isPlain c then [c] else escape c).length := by
      split
      · exact Nat.one_pos
      next h =>
        obtain ⟨letter, tail, hescape, -⟩ := readEscape_escape (Bool.eq_false_iff.2 h)
        rw [hescape]
        exact Nat.succ_pos _
    rw [escapeAll, List.flatMap_cons, List.length_append, List.length_cons]
    exact Nat.add_comm 1 _ ▸ Nat.add_le_add hc ih

/-- A text between double quotes is read behind the first of them. -/
theorem readBasic_tail (text rest : List Char) :
    readBasic ((escapeAll text ++ '"' :: rest).length + 1) (escapeAll text ++ '"' :: rest) =
      .ok (text, rest) := by
  have := length_le_escapeAll text
  exact readBasic_escapeAll (by rw [List.length_append]; omega) rest

/-! ## Between single quotes -/

/-- Between single quotes a text stands for itself. -/
theorem readLiteral_append {text : List Char} (h : ∀ c ∈ text, isLiteral c = true)
    (rest : List Char) : readLiteral (text ++ '\'' :: rest) = .ok (text, rest) := by
  have hquote : isLiteral '\'' = false := by decide
  rw [readLiteral, List.dropWhile_append_of_pos h, List.takeWhile_append_of_pos h,
    List.dropWhile_cons_of_neg (Bool.eq_false_iff.1 hquote),
    List.takeWhile_cons_of_neg (Bool.eq_false_iff.1 hquote), List.append_nil]
  rfl

/-! ## Between three quotes -/

section Runs

variable {quote : Char} {text : List Char}

/-- Quotes in a row are taken up to the first other character. -/
theorem takeWhile_run (n : Nat) (h : ∀ c ∈ text.head?, c ≠ quote) :
    (List.replicate n quote ++ text).takeWhile (· = quote) = List.replicate n quote := by
  rw [List.takeWhile_append_of_pos fun c hc => decide_eq_true (List.eq_of_mem_replicate hc)]
  cases text with
  | nil => exact List.append_nil _
  | cons c text =>
    rw [List.takeWhile_cons_of_neg (by simpa using h c rfl), List.append_nil]

theorem dropWhile_run (n : Nat) (h : ∀ c ∈ text.head?, c ≠ quote) :
    (List.replicate n quote ++ text).dropWhile (· = quote) = text := by
  rw [List.dropWhile_append_of_pos fun c hc => decide_eq_true (List.eq_of_mem_replicate hc)]
  cases text with
  | nil => rfl
  | cons c text => rw [List.dropWhile_cons_of_neg (by simpa using h c rfl)]

/-- Of a run of quotes that ends a text, three are no part of it. -/
theorem split_run (n : Nat) (quote : Char) (text : List Char) :
    (List.replicate (n + 3) quote).take n = List.replicate n quote
      ∧ (List.replicate (n + 3) quote ++ text).drop (n + 3) = text :=
  ⟨by rw [List.take_replicate, Nat.min_eq_left (Nat.le_add_right n 3)],
    List.drop_left' List.length_replicate⟩

/-- Of quotes in a row the last three close a text, and up to two before them belong to it. -/
theorem quoteRun_add_three {n : Nat} (h : n ≤ 2) : quoteRun (n + 3) = (n, true) := by
  rw [quoteRun, if_pos (Nat.le_add_left 3 n), Nat.add_sub_cancel, Nat.min_eq_left h]

end Runs

/-- A reader takes characters from the start of a text, whenever its fuel exceeds the text. -/
def Takes (read : Nat → List Char → Reading (List Char × List Char))
    (text taken rest : List Char) : Prop :=
  ∀ fuel, text.length < fuel → read fuel text = .ok (taken, rest)

section LongBasic

variable {n : Nat} {c : Char} {text taken rest : List Char}

/-- One or two quotes before a text belong to it. -/
theorem Takes.run_basic (hle : n ≤ 2) (hhead : text.head? = some c) (hc : c ≠ '"')
    (h : Takes readLongBasic text taken rest) :
    Takes readLongBasic (List.replicate n '"' ++ text) (List.replicate n '"' ++ taken) rest := by
  intro fuel hfuel
  cases n with
  | zero => exact h fuel hfuel
  | succ n =>
    obtain ⟨fuel, rfl⟩ := Nat.exists_eq_add_one.2 (Nat.zero_lt_of_lt hfuel)
    have hquote : ∀ d ∈ text.head?, d ≠ '"' := fun d hd => Option.some.inj (hhead.symm.trans hd) ▸ hc
    have htake := takeWhile_run (n + 1) hquote
    have hdrop := dropWhile_run (n + 1) hquote
    have hrun : quoteRun (n + 1) = (n + 1, false) := if_neg (by omega)
    have hisEmpty : text.isEmpty = false := by
      cases text with
      | nil => cases hhead
      | cons => rfl
    rw [List.length_append, List.length_replicate] at hfuel
    rw [List.replicate_succ, List.cons_append] at htake hdrop ⊢
    rw [readLongBasic]
    simp only [htake, hdrop, List.length_cons, List.length_replicate, hrun, hisEmpty,
      h fuel (by omega)]
    rfl

/-- Three quotes end a text, and up to two before them belong to it. -/
theorem takes_end_basic (hle : n ≤ 2) (hquote : ∀ c ∈ rest.head?, c ≠ '"') :
    Takes readLongBasic (List.replicate (n + 3) '"' ++ rest) (List.replicate n '"') rest := by
  intro fuel hfuel
  obtain ⟨fuel, rfl⟩ := Nat.exists_eq_add_one.2 (Nat.zero_lt_of_lt hfuel)
  have htake := takeWhile_run (n + 3) hquote
  obtain ⟨hkept, hbehind⟩ := split_run n '"' rest
  rw [List.replicate_succ, List.cons_append] at htake hbehind ⊢
  rw [readLongBasic]
  simp only [htake, List.length_cons, List.length_replicate, quoteRun_add_three hle, if_true]
  rw [hbehind, ← List.replicate_succ, hkept]

/-- A character that stands for itself is read as itself, and so is the end of a line. -/
theorem Takes.char_basic (hc : isPlain c = true ∨ c = '\n') (h : Takes readLongBasic text taken rest) :
    Takes readLongBasic (c :: text) (c :: taken) rest := by
  intro fuel hfuel
  obtain ⟨fuel, rfl⟩ := Nat.exists_eq_add_one.2 (Nat.zero_lt_of_lt hfuel)
  have hread := h fuel (Nat.lt_of_succ_lt_succ hfuel)
  rcases hc with hc | rfl
  · obtain ⟨hquote, hbackslash, -⟩ := isPlain_iff.1 hc
    have hline : afterNewline? (c :: text) = none :=
      not_afterNewline? (by rintro rfl; cases hc) (by rintro rfl; cases hc) text
    rw [readLongBasic]
    · simp only [hline, isBasic_of_isPlain hc, hread, if_true]
      rfl
    · exact hquote
    · exact hbackslash
  · have hline : afterNewline? ('\n' :: text) = some text := rfl
    rw [readLongBasic]
    · simp only [hline, hread]
      rfl
    · decide
    · decide

/-- A character that is escaped is read from its escape. -/
theorem Takes.escape_basic (hc : isPlain c = false) (h : Takes readLongBasic text taken rest) :
    Takes readLongBasic (escape c ++ text) (c :: taken) rest := by
  intro fuel hfuel
  obtain ⟨fuel, rfl⟩ := Nat.exists_eq_add_one.2 (Nat.zero_lt_of_lt hfuel)
  obtain ⟨letter, tail, hescape, hblank, hline, hreturn, hletter⟩ := readEscape_escape hc
  -- The backslash hides no end of a line, as a letter follows it.
  have hhidden : afterHiddenLine? (letter :: (tail ++ text)) = none := by
    have hskip : skipBlanks (letter :: (tail ++ text)) = letter :: (tail ++ text) :=
      List.dropWhile_cons_of_neg (Bool.eq_false_iff.1 hblank)
    rw [afterHiddenLine?, hskip, not_afterNewline? hline hreturn]
    rfl
  rw [hescape, List.cons_append, List.cons_append, List.length_cons, List.length_cons,
    List.length_append] at hfuel
  rw [hescape, List.cons_append, List.cons_append, readLongBasic]
  simp only [hhidden, hletter]
  change (readLongBasic fuel text >>= fun _ => _) = _
  rw [h fuel (by omega)]
  rfl

/-- An escape begins with a backslash. -/
theorem head?_escape_append (hc : isPlain c = false) (text : List Char) :
    (escape c ++ text).head? = some '\\' := by
  obtain ⟨letter, tail, hescape, -⟩ := readEscape_escape hc
  rw [hescape]
  rfl

/-- A text is read up to the three quotes that end it, along with the quotes before it. -/
theorem takes_escapeLong (hle : n ≤ 2) (hquote : ∀ c ∈ rest.head?, c ≠ '"') :
    Takes readLongBasic
      (List.replicate n '"' ++ (escapeLong n text ++ (List.replicate 3 '"' ++ rest)))
      (List.replicate n '"' ++ text) rest := by
  induction text generalizing n with
  | nil =>
    have hend := takes_end_basic hle hquote
    rwa [← List.replicate_append_replicate, List.append_assoc, ← List.append_nil (List.replicate n '"'),
      List.append_assoc] at hend
  | cons c text ih =>
    -- The quotes held back so far belong to the text once anything but a third one follows; a third
    -- one is escaped, so that they never end the text.
    have htext : Takes readLongBasic (escapeLong 0 text ++ (List.replicate 3 '"' ++ rest)) text rest :=
      ih (Nat.zero_le 2)
    rw [escapeLong]
    by_cases hc : c = '"'
    · subst hc
      rw [if_pos rfl]
      by_cases hn : n < 2
      · rw [if_pos hn]
        have := ih (n := n + 1) hn
        rwa [List.replicate_succ', List.append_assoc, List.append_assoc] at this
      · rw [if_neg hn, List.append_assoc]
        have hescape : isPlain '"' = false := by decide
        exact (htext.escape_basic hescape).run_basic hle (head?_escape_append hescape _) (by decide)
    · rw [if_neg hc]
      split
      next hplain =>
        simp only [Bool.or_eq_true, decide_eq_true_eq] at hplain
        rw [List.cons_append]
        exact (htext.char_basic hplain).run_basic hle rfl hc
      next hplain =>
        simp only [Bool.or_eq_true, not_or, Bool.not_eq_true] at hplain
        rw [List.append_assoc]
        exact (htext.escape_basic hplain.1).run_basic hle (head?_escape_append hplain.1 _) (by decide)

end LongBasic

section LongLiteral

variable {n : Nat} {c : Char} {text taken rest : List Char}

/-- A character that may stand between three single quotes. -/
def IsLong (c : Char) : Prop :=
  isLiteral c = true ∨ c = '\n'

/-- A character that may stand between three quotes stands for itself. -/
theorem Takes.char_literal (hc : IsLong c) (h : Takes readLongLiteral text taken rest) :
    Takes readLongLiteral (c :: text) (c :: taken) rest := by
  intro fuel hfuel
  obtain ⟨fuel, rfl⟩ := Nat.exists_eq_add_one.2 (Nat.zero_lt_of_lt hfuel)
  have hread := h fuel (Nat.lt_of_succ_lt_succ hfuel)
  rcases hc with hc | rfl
  · have hline : afterNewline? (c :: text) = none :=
      not_afterNewline? (by rintro rfl; cases hc) (by rintro rfl; cases hc) text
    rw [readLongLiteral]
    · simp only [hline, hc, hread, if_true]
      rfl
    · rintro rfl
      cases hc
  · have hline : afterNewline? ('\n' :: text) = some text := rfl
    rw [readLongLiteral]
    · simp only [hline, hread]
      rfl
    · decide

/-- Up to two quotes in front of another character stand for themselves. -/
theorem Takes.run_literal (hle : n ≤ 2) (hc : IsLong c)
    (h : Takes readLongLiteral (c :: text) taken rest) :
    Takes readLongLiteral (List.replicate n '\'' ++ c :: text) (List.replicate n '\'' ++ taken)
      rest := by
  intro fuel hfuel
  cases n with
  | zero => exact h fuel hfuel
  | succ n =>
    obtain ⟨fuel, rfl⟩ := Nat.exists_eq_add_one.2 (Nat.zero_lt_of_lt hfuel)
    have hquote : ∀ d ∈ (c :: text).head?, d ≠ '\'' := by
      rintro d hd rfl
      obtain rfl := Option.some.inj hd
      rcases hc with hc | hc <;> cases hc
    have htake := takeWhile_run (n + 1) hquote
    have hdrop := dropWhile_run (n + 1) hquote
    have hrun : quoteRun (n + 1) = (n + 1, false) := if_neg (by omega)
    -- Up to two quotes end nothing, as long as the text goes on behind them.
    have hgoesOn : (isLiteral c || (afterNewline? (c :: text)).isSome) = true := by
      rcases hc with hc | rfl
      · rw [hc, Bool.true_or]
      · exact Bool.or_true _
    rw [List.length_append, List.length_replicate] at hfuel
    rw [List.replicate_succ, List.cons_append] at htake hdrop ⊢
    rw [readLongLiteral]
    simp only [htake, hdrop, List.length_cons, List.length_replicate, hrun, hgoesOn,
      h fuel (by omega)]
    rfl

/-- Three quotes close a text, behind up to two that are part of it. -/
theorem takes_end_literal (hle : n ≤ 2) (hquote : ∀ c ∈ rest.head?, c ≠ '\'') :
    Takes readLongLiteral (List.replicate (n + 3) '\'' ++ rest) (List.replicate n '\'') rest := by
  intro fuel hfuel
  obtain ⟨fuel, rfl⟩ := Nat.exists_eq_add_one.2 (Nat.zero_lt_of_lt hfuel)
  have htake := takeWhile_run (n + 3) hquote
  obtain ⟨hkept, hbehind⟩ := split_run n '\'' rest
  rw [List.replicate_succ, List.cons_append] at htake hbehind ⊢
  rw [readLongLiteral]
  simp only [htake, List.length_cons, List.length_replicate, quoteRun_add_three hle, if_true]
  rw [hbehind, ← List.replicate_succ, hkept]

/-- A text without three quotes in a row is read up to those that end it, along with the quotes before
it. -/
theorem takes_literal (h : longestRun '\'' n text ≤ 2) (htext : ∀ c ∈ text, c = '\'' ∨ IsLong c)
    (hquote : ∀ c ∈ rest.head?, c ≠ '\'') :
    Takes readLongLiteral (List.replicate n '\'' ++ (text ++ (List.replicate 3 '\'' ++ rest)))
      (List.replicate n '\'' ++ text) rest := by
  induction text generalizing n with
  | nil =>
    rw [longestRun] at h
    have hend := takes_end_literal h hquote
    rwa [← List.replicate_append_replicate, List.append_assoc,
      ← List.append_nil (List.replicate n '\''), List.append_assoc] at hend
  | cons c text ih =>
    have htail : ∀ c ∈ text, c = '\'' ∨ IsLong c := fun c hc => htext c (List.mem_cons_of_mem _ hc)
    rw [longestRun] at h
    split at h
    next hc =>
      subst hc
      have := ih h htail
      rwa [List.replicate_succ', List.append_assoc, List.append_assoc] at this
    next hc =>
      have hlong : IsLong c := (htext c List.mem_cons_self).resolve_left hc
      have hread := ih (Nat.le_trans (Nat.le_max_right n _) h) htail
      exact (hread.char_literal hlong).run_literal (Nat.le_trans (Nat.le_max_left n _) h) hlong

end LongLiteral

/-! ## Texts of any form -/

/-- An end of a line is put before a text that has ends of lines, and dropped again. -/
theorem dropNewline_leadingLine {text body : List Char}
    (h : '\n' ∉ text → ∃ c ∈ body.head?, c ≠ '\n' ∧ c ≠ '\r') :
    dropNewline (leadingLine text ++ body) = body := by
  rw [leadingLine]
  by_cases htext : '\n' ∈ text
  · rw [if_pos (List.contains_iff_mem.2 htext)]
    rfl
  · rw [if_neg (mt List.contains_iff_mem.1 htext)]
    obtain ⟨c, hc, hline, hreturn⟩ := h htext
    cases body with
    | nil => cases hc
    | cons d body =>
      obtain rfl := Option.some.inj hc
      change dropNewline (d :: body) = d :: body
      rw [dropNewline, not_afterNewline? hline hreturn]
      rfl

/-- No quote follows. -/
def Unquoted (rest : List Char) : Prop :=
  ∀ c ∈ rest.head?, c ≠ '"' ∧ c ≠ '\''

variable {text rest : List Char}

/-- A text between double quotes is read back. -/
theorem readText_writeBasic (text : List Char) (hrest : Unquoted rest) :
    readText (writeBasic text ++ rest) = .ok (text, rest) := by
  have htext : writeBasic text ++ rest = '"' :: (escapeAll text ++ '"' :: rest) := by
    rw [writeBasic, List.append_assoc]
    rfl
  rw [htext, readText, readBasic_tail]
  -- The text does not begin with three quotes.
  intro more heq
  cases text with
  | nil => exact (hrest '"' (by rw [(List.cons.inj heq).2]; rfl)).1 rfl
  | cons c text =>
    rw [escapeAll, List.flatMap_cons, List.append_assoc] at heq
    split at heq
    next hc => exact (isPlain_iff.1 hc).1 (List.cons.inj heq).1
    next hc =>
      have := head?_escape_append (Bool.eq_false_iff.2 hc)
        (List.flatMap (fun c => if isPlain c = true then [c] else escape c) text ++ '"' :: rest)
      rw [heq] at this
      cases this

/-- A text between single quotes is read back, if it can stand there. -/
theorem readText_writeLiteral (h : ∀ c ∈ text, isLiteral c = true) (hrest : Unquoted rest) :
    readText (writeLiteral text ++ rest) = .ok (text, rest) := by
  have htext : writeLiteral text ++ rest = '\'' :: (text ++ '\'' :: rest) := by
    rw [writeLiteral, List.append_assoc]
    rfl
  rw [htext, readText, readLiteral_append h]
  intro more heq
  cases text with
  | nil => exact (hrest '\'' (by rw [(List.cons.inj heq).2]; rfl)).2 rfl
  | cons c text =>
    have := h c List.mem_cons_self
    rw [(List.cons.inj heq).1] at this
    cases this

/-- No end of a line comes first between three double quotes, if there is none in the text. -/
theorem head?_escapeLong (h : '\n' ∉ text) (rest : List Char) :
    ∃ c ∈ (escapeLong 0 text ++ '"' :: rest).head?, c ≠ '\n' ∧ c ≠ '\r' := by
  cases text with
  | nil => exact ⟨'"', rfl, by decide, by decide⟩
  | cons c text =>
    have hline : c ≠ '\n' := fun hc => h (hc ▸ List.mem_cons_self)
    rw [escapeLong, if_pos Nat.two_pos]
    split
    next hc => exact ⟨c, rfl, hline, by rw [hc]; decide⟩
    split
    next hplain =>
      refine ⟨c, rfl, hline, ?_⟩
      rintro rfl
      cases hplain
    next hplain =>
      simp only [Bool.or_eq_true, not_or, Bool.not_eq_true] at hplain
      rw [List.append_assoc, head?_escape_append hplain.1]
      exact ⟨'\\', rfl, by decide, by decide⟩

/-- A text between three double quotes is read back. -/
theorem readText_writeLongBasic (text : List Char) (hrest : Unquoted rest) :
    readText (writeLongBasic text ++ rest) = .ok (text, rest) := by
  let body := escapeLong 0 text ++ (List.replicate 3 '"' ++ rest)
  have htext : writeLongBasic text ++ rest = '"' :: '"' :: '"' :: (leadingLine text ++ body) := by
    rw [writeLongBasic, List.append_assoc, List.append_assoc, List.append_assoc]
    rfl
  have hbody : dropNewline (leadingLine text ++ body) = body :=
    dropNewline_leadingLine fun hline => head?_escapeLong hline _
  have hread : Takes readLongBasic body text rest :=
    takes_escapeLong (Nat.zero_le 2) fun c hc => (hrest c hc).1
  rw [htext, readText, hbody]
  exact hread _ (Nat.lt_succ_of_le (List.suffix_append _ _).length_le)

/-- A text between three single quotes is read back, if it can stand there. -/
theorem readText_writeLongLiteral (h : longestRun '\'' 0 text ≤ 2)
    (htext : ∀ c ∈ text, c = '\'' ∨ IsLong c) (hrest : Unquoted rest) :
    readText (writeLongLiteral text ++ rest) = .ok (text, rest) := by
  let body := text ++ (List.replicate 3 '\'' ++ rest)
  have hwritten : writeLongLiteral text ++ rest =
      '\'' :: '\'' :: '\'' :: (leadingLine text ++ body) := by
    rw [writeLongLiteral, List.append_assoc, List.append_assoc, List.append_assoc]
    rfl
  have hbody : dropNewline (leadingLine text ++ body) = body := by
    refine dropNewline_leadingLine fun hline => ?_
    cases text with
    | nil => exact ⟨'\'', rfl, by decide, by decide⟩
    | cons c text =>
      refine ⟨c, rfl, fun hc => hline (hc ▸ List.mem_cons_self), ?_⟩
      rintro rfl
      rcases htext '\r' List.mem_cons_self with hc | hc | hc <;> cases hc
  have hread : Takes readLongLiteral body text rest :=
    takes_literal h htext fun c hc => (hrest c hc).2
  rw [hwritten, readText, hbody]
  exact hread _ (Nat.lt_succ_of_le (List.suffix_append _ _).length_le)

/-- The longest run is no shorter than the one that a text starts within. -/
theorem le_longestRun (c : Char) (n : Nat) (text : List Char) : n ≤ longestRun c n text := by
  induction text generalizing n with
  | nil => exact Nat.le_refl n
  | cons d text ih =>
    rw [longestRun]
    split
    · exact Nat.le_trans (Nat.le_succ n) (ih (n + 1))
    · exact Nat.le_max_left _ _

/-- A character that has no run does not occur. -/
theorem not_mem_of_longestRun {c : Char} {n : Nat} (h : longestRun c n text = 0) : c ∉ text := by
  induction text generalizing n with
  | nil => exact List.not_mem_nil
  | cons d text ih =>
    rw [longestRun] at h
    split at h
    · have := le_longestRun c (n + 1) text
      omega
    next hd =>
      have := ih (Nat.le_zero.1 (h ▸ Nat.le_max_right _ _))
      exact fun hmem => (List.mem_cons.1 hmem).elim (fun hc => hd hc.symm) this

/-- Whatever is no control character may stand between single quotes, if it is none itself. -/
theorem isLiteral_of_not_isControl {c : Char} (h : isControl c = false) (hline : c ≠ '\n')
    (hquote : c ≠ '\'') : isLiteral c = true := by
  rw [isLiteral, decide_eq_true hquote, Bool.and_true]
  by_cases htab : c = '\t'
  · rw [htab]
    rfl
  · simp only [isControl, htab, hline, isShown, Bool.or_eq_false_iff, decide_eq_false_iff_not,
      ne_eq, not_false_eq_true, decide_true, Bool.and_true, Bool.or_eq_true, Bool.and_eq_true,
      decide_eq_true_eq, false_or] at h ⊢
    omega

/-- A text is read from the form that it is written in. -/
theorem readText_writeText (text : List Char) (hrest : Unquoted rest) :
    readText (writeText text ++ rest) = .ok (text, rest) := by
  unfold writeText
  dsimp only
  split
  · exact readText_writeBasic text hrest
  split
  next h =>
    simp only [Bool.and_eq_true, Bool.not_eq_true', decide_eq_true_eq, List.any_eq_false,
      Bool.not_eq_true] at h
    obtain ⟨⟨hcontrol, hquotes⟩, hlines⟩ := h
    refine readText_writeLiteral (fun c hc => ?_) hrest
    have hline : c ≠ '\n' := by
      rintro rfl
      rw [List.contains_iff_mem.2 hc] at hlines
      cases hlines
    have hquote : c ≠ '\'' := fun h => not_mem_of_longestRun hquotes (h ▸ hc)
    exact isLiteral_of_not_isControl (hcontrol c hc) hline hquote
  split
  · exact readText_writeLongBasic text hrest
  split
  next h =>
    simp only [Bool.and_eq_true, Bool.not_eq_true', decide_eq_true_eq, List.any_eq_false,
      Bool.not_eq_true] at h
    obtain ⟨hcontrol, hquotes⟩ := h
    refine readText_writeLongLiteral hquotes (fun c hc => ?_) hrest
    by_cases hquote : c = '\''
    · exact .inl hquote
    by_cases hline : c = '\n'
    · exact .inr (.inr hline)
    · exact .inr (.inl (isLiteral_of_not_isControl (hcontrol c hc) hline hquote))
  split
  · exact readText_writeLongBasic text hrest
  · exact readText_writeBasic text hrest

end QueryLint.Toml
