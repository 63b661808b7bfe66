import Mathlib.Data.List.Forall2
import QueryLint.Proofs.Json.Literal

/-!
# The grammar of JSON

Which texts are values (`IsValue`), with the number of containers that may be open at once, and which
texts a string may be spelt as (`Spells`). The grammar is wider than what the reader takes: an escape
may name half of a pair, and a number may be of any size.

How items and members are laid out is told apart from what they are. `Listed` and `Membered` say which
texts stand in a container, between commas and blanks, whatever these texts may be.
-/

namespace QueryLint.Json

/-! ## Strings -/

/-- Four digits in base sixteen write a number. -/
inductive Codes : List Char → Nat → Prop
  | intro {a b c d : Char} {w x y z : Nat} (ha : hexValue? a = some w) (hb : hexValue? b = some x)
    (hc : hexValue? c = some y) (hd : hexValue? d = some z) :
    Codes [a, b, c, d] (((w * 16 + x) * 16 + y) * 16 + z)

/-- A character that stands for itself in a string. -/
def IsPlain (c : Char) : Prop :=
  32 ≤ c.toNat ∧ c ≠ '"' ∧ c ≠ '\\'

/-- A text is what stands behind the opening quote of a string, up to and with the closing one. -/
inductive IsQuoted : List Char → Prop
  | close : IsQuoted ['"']
  | plain {c : Char} {text : List Char} (hc : IsPlain c) (h : IsQuoted text) : IsQuoted (c :: text)
  | escape {letter c : Char} {text : List Char} (hletter : simpleEscape? letter = some c)
    (h : IsQuoted text) : IsQuoted ('\\' :: letter :: text)
  | code {digits text : List Char} {n : Nat} (hdigits : Codes digits n) (h : IsQuoted text) :
    IsQuoted ('\\' :: 'u' :: (digits ++ text))

/-- The characters that are written behind the opening quote of a string. A character beyond the first
plane may be written as two codes, and no code by itself may be one of such a pair. -/
inductive Spells : List Char → List Char → Prop
  | close : Spells [] ['"']
  | plain {c : Char} {characters text : List Char} (hc : IsPlain c) (h : Spells characters text) :
    Spells (c :: characters) (c :: text)
  | escape {letter c : Char} {characters text : List Char} (hletter : simpleEscape? letter = some c)
    (h : Spells characters text) : Spells (c :: characters) ('\\' :: letter :: text)
  | code {digits characters text : List Char} {n : Nat} (hdigits : Codes digits n)
    (hn : n < 0xD800 ∨ 0xDFFF < n) (h : Spells characters text) :
    Spells (Char.ofNat n :: characters) ('\\' :: 'u' :: (digits ++ text))
  | pair {highDigits lowDigits characters text : List Char} {high low : Nat}
    (hhighDigits : Codes highDigits high) (hhigh : 0xD800 ≤ high ∧ high ≤ 0xDBFF)
    (hlowDigits : Codes lowDigits low) (hlow : 0xDC00 ≤ low ∧ low ≤ 0xDFFF)
    (h : Spells characters text) :
    Spells (Char.ofNat (0x10000 + (high - 0xD800) * 0x400 + (low - 0xDC00)) :: characters)
      ('\\' :: 'u' :: (highDigits ++ '\\' :: 'u' :: (lowDigits ++ text)))

instance : DecidablePred IsPlain :=
  fun c => inferInstanceAs (Decidable (32 ≤ c.toNat ∧ c ≠ '"' ∧ c ≠ '\\'))

/-- Whether all characters stand for themselves. -/
def arePlain (characters : List Char) : Bool :=
  characters.all fun c => decide (IsPlain c)

/-- Characters that stand for themselves are written one after the other. -/
theorem Spells.of_plain {characters : List Char} (h : arePlain characters = true) :
    Spells characters (characters ++ ['"']) := by
  induction characters with
  | nil => exact .close
  | cons c characters ih =>
    rw [arePlain, List.all_cons, Bool.and_eq_true, decide_eq_true_eq] at h
    exact .plain h.1 (ih h.2)

/-- A text that spells characters is quoted in the grammar. -/
theorem Spells.isQuoted {characters text : List Char} (h : Spells characters text) :
    IsQuoted text := by
  induction h with
  | close => exact .close
  | plain hc _ ih => exact .plain hc ih
  | escape hletter _ ih => exact .escape hletter ih
  | code hdigits _ _ ih => exact .code hdigits ih
  | pair hhigh _ hlow _ _ ih => exact .code hhigh (.code hlow ih)

/-! ## Numbers -/

/-- Nothing but digits. -/
def Digits (text : List Char) : Prop :=
  ∀ c ∈ text, c.isDigit = true

/-- The digits before the point. They start with a zero only if that is the whole of them. -/
inductive IsWhole : List Char → Prop
  | zero : IsWhole ['0']
  | digits {c : Char} {more : List Char} (hc : c.isDigit = true) (hzero : c ≠ '0')
    (hmore : Digits more) : IsWhole (c :: more)

/-- A point with digits behind it, or nothing. -/
inductive IsFraction : List Char → Prop
  | none : IsFraction []
  | digits {c : Char} {more : List Char} (hc : c.isDigit = true) (hmore : Digits more) :
    IsFraction ('.' :: c :: more)

/-- An exponent, with or without a sign, or nothing. -/
inductive IsExponent : List Char → Prop
  | none : IsExponent []
  | digits {letter c : Char} {sign more : List Char} (hletter : letter = 'e' ∨ letter = 'E')
    (hsign : sign = [] ∨ sign = ['+'] ∨ sign = ['-']) (hc : c.isDigit = true)
    (hmore : Digits more) : IsExponent (letter :: (sign ++ c :: more))

/-- A number without a minus. -/
inductive IsUnsigned : List Char → Prop
  | intro {whole fraction exponent : List Char} (hwhole : IsWhole whole)
    (hfraction : IsFraction fraction) (hexponent : IsExponent exponent) :
    IsUnsigned (whole ++ (fraction ++ exponent))

/-! ## Containers -/

/-- The text behind the opening bracket of an array, for texts of items. -/
inductive Listed : List (List Char) → List Char → Prop
  | none {gap : List Char} (hgap : Blanks gap) : Listed [] (gap ++ [']'])
  | last {item before behind : List Char} (hbefore : Blanks before) (hbehind : Blanks behind) :
    Listed [item] (before ++ (item ++ (behind ++ [']'])))
  | more {item next before behind others : List Char} {rest : List (List Char)}
    (hbefore : Blanks before) (hbehind : Blanks behind) (hothers : Listed (next :: rest) others) :
    Listed (item :: next :: rest) (before ++ (item ++ (behind ++ ',' :: others)))

/-- The text behind the opening brace of an object, for what is behind the opening quotes of its keys
and for texts of values. -/
inductive Membered : List (List Char × List Char) → List Char → Prop
  | none {gap : List Char} (hgap : Blanks gap) : Membered [] (gap ++ ['\x7d'])
  | last {key value before between middle behind : List Char} (hbefore : Blanks before)
    (hbetween : Blanks between) (hmiddle : Blanks middle) (hbehind : Blanks behind) :
    Membered [(key, value)] (before ++ '"' :: (key ++ (between ++ ':' ::
      (middle ++ (value ++ (behind ++ ['\x7d']))))))
  | more {key value before between middle behind others : List Char} {next : List Char × List Char}
    {rest : List (List Char × List Char)} (hbefore : Blanks before) (hbetween : Blanks between)
    (hmiddle : Blanks middle) (hbehind : Blanks behind) (hothers : Membered (next :: rest) others) :
    Membered ((key, value) :: next :: rest) (before ++ '"' :: (key ++ (between ++ ':' ::
      (middle ++ (value ++ (behind ++ ',' :: others))))))

/-- A text is a value with at most so many containers open at once. -/
inductive IsValue : Nat → List Char → Prop
  | null {depth : Nat} : IsValue depth ['n', 'u', 'l', 'l']
  | true {depth : Nat} : IsValue depth ['t', 'r', 'u', 'e']
  | false {depth : Nat} : IsValue depth ['f', 'a', 'l', 's', 'e']
  | number {depth : Nat} {text : List Char} (h : IsUnsigned text) : IsValue depth text
  | negative {depth : Nat} {text : List Char} (h : IsUnsigned text) : IsValue depth ('-' :: text)
  | string {depth : Nat} {text : List Char} (h : IsQuoted text) : IsValue depth ('"' :: text)
  | array {depth : Nat} {items : List (List Char)} {text : List Char} (h : Listed items text)
    (hitems : ∀ item ∈ items, IsValue depth item) : IsValue (depth + 1) ('[' :: text)
  | object {depth : Nat} {entries : List (List Char × List Char)} {text : List Char}
    (h : Membered entries text) (hkeys : ∀ entry ∈ entries, IsQuoted entry.1)
    (hvalues : ∀ entry ∈ entries, IsValue depth entry.2) : IsValue (depth + 1) ('\x7b' :: text)

/-- A text is an object with members that have these names and texts of values, in this order. -/
inductive IsObject (depth : Nat) (members : List (String × List Char)) : List Char → Prop
  | intro {entries : List (List Char × List Char)} {text : List Char} (h : Membered entries text)
    (hentries : List.Forall₂ (fun entry (member : String × List Char) =>
      Spells member.1.toList entry.1 ∧ entry.2 = member.2) entries members)
    (hvalues : ∀ member ∈ members, IsValue depth member.2) : IsObject depth members ('\x7b' :: text)

/-- A text is an object with nothing but blanks around it. -/
inductive IsDocument (depth : Nat) (members : List (String × List Char)) : String → Prop
  | intro {before object behind : List Char} (hbefore : Blanks before) (hbehind : Blanks behind)
    (h : IsObject depth members object) :
    IsDocument depth members (String.ofList (before ++ (object ++ behind)))

/-! ## Where texts begin -/

/-- A text begins with a character that is no blank and closes no array. -/
def Begins (text : List Char) : Prop :=
  ∃ c more, text = c :: more ∧ isSpace c = false ∧ c ≠ ']'

theorem IsWhole.eq_cons {text : List Char} (h : IsWhole text) :
    ∃ c more, text = c :: more ∧ c.isDigit = true := by
  cases h with
  | zero => exact ⟨_, _, rfl, rfl⟩
  | digits hc => exact ⟨_, _, rfl, hc⟩

theorem IsUnsigned.eq_cons {text : List Char} (h : IsUnsigned text) :
    ∃ c more, text = c :: more ∧ c.isDigit = true := by
  cases h with
  | intro hwhole =>
    obtain ⟨c, more, rfl, hc⟩ := hwhole.eq_cons
    exact ⟨c, _, rfl, hc⟩

/-- A value starts with a character by which its kind is told. -/
theorem IsValue.begins {depth : Nat} {text : List Char} (h : IsValue depth text) :
    Begins text := by
  cases h with
  | number h =>
    obtain ⟨c, more, rfl, hc⟩ := h.eq_cons
    exact ⟨c, more, rfl, isSpace_of_isDigit hc, Decimal.ne_of_isDigit hc rfl⟩
  | null | true | false | negative | string | array | object => exact ⟨_, _, rfl, rfl, by decide⟩

theorem IsUnsigned.isDigit {c : Char} {text : List Char} (h : IsUnsigned (c :: text)) :
    c.isDigit = true := by
  obtain ⟨d, more, heq, hd⟩ := h.eq_cons
  rwa [(List.cons.inj heq).1]

/-- A value that begins with a quote is a string. -/
theorem IsValue.isQuoted {depth : Nat} {text : List Char} (h : IsValue depth ('"' :: text)) :
    IsQuoted text := by
  cases h with
  | number h => cases h.isDigit
  | string h => exact h

/-- A value that begins with the bracket of an array is one. -/
theorem IsValue.exists_listed {depth : Nat} {text : List Char} (h : IsValue depth ('[' :: text)) :
    ∃ items, Listed items text ∧ ∀ item ∈ items, IsValue (depth - 1) item := by
  cases h with
  | number h => cases h.isDigit
  | array h hitems => exact ⟨_, h, hitems⟩

/-- A value that begins with the brace of an object is one. -/
theorem IsValue.exists_membered {depth : Nat} {text : List Char} (h : IsValue depth ('\x7b' :: text)) :
    ∃ entries, Membered entries text ∧ (∀ entry ∈ entries, IsQuoted entry.1)
      ∧ ∀ entry ∈ entries, IsValue (depth - 1) entry.2 := by
  cases h with
  | number h => cases h.isDigit
  | object h hkeys hvalues => exact ⟨_, h, hkeys, hvalues⟩

/-- A value that begins as `null` does is `null`. -/
theorem IsValue.eq_null {depth : Nat} {text : List Char} (h : IsValue depth ('n' :: text)) :
    text = ['u', 'l', 'l'] := by
  cases h with
  | number h => cases h.isDigit
  | null => rfl

theorem IsDocument.isValue {depth : Nat} {members : List (String × List Char)} {text : String}
    (h : IsDocument depth members text) {member : String × List Char} (hmem : member ∈ members) :
    IsValue depth member.2 := by
  obtain ⟨-, -, -, -, hvalues⟩ := h
  exact hvalues member hmem

/-- Names that can stand for themselves are keys as they are. -/
theorem IsObject.of_plain {depth : Nat} {members : List (String × List Char)} {text : List Char}
    (hplain : ∀ member ∈ members, arePlain member.1.toList = true)
    (hvalues : ∀ member ∈ members, IsValue depth member.2)
    (h : Membered (members.map fun member => (member.1.toList ++ ['"'], member.2)) text) :
    IsObject depth members ('\x7b' :: text) := by
  refine .intro h ?_ hvalues
  rw [List.forall₂_map_left_iff, List.forall₂_same]
  exact fun member hmem => ⟨.of_plain (hplain member hmem), rfl⟩

/-- An object with named members is one whose keys are strings. -/
theorem IsObject.exists_membered {depth : Nat} {members : List (String × List Char)}
    {text : List Char} (h : IsObject depth members text) :
    ∃ entries body, text = '\x7b' :: body ∧ Membered entries body
      ∧ List.Forall₂ (fun entry (member : String × List Char) =>
        Spells member.1.toList entry.1 ∧ entry.2 = member.2) entries members
      ∧ (∀ entry ∈ entries, IsQuoted entry.1) ∧ ∀ entry ∈ entries, IsValue depth entry.2 := by
  cases h with
  | @intro entries body h hentries hvalues =>
    refine ⟨entries, body, rfl, h, hentries, ?_⟩
    clear h
    induction hentries with
    | nil => exact ⟨nofun, nofun⟩
    | cons hentry _ ih =>
      obtain ⟨hkey, hvalue⟩ := hentry
      obtain ⟨hkeys, hrest⟩ := ih fun member hmem => hvalues member (List.mem_cons_of_mem _ hmem)
      exact ⟨List.forall_mem_cons.2 ⟨hkey.isQuoted, hkeys⟩,
        List.forall_mem_cons.2 ⟨hvalue ▸ hvalues _ List.mem_cons_self, hrest⟩⟩

/-- An object is a value, one level above its members. -/
theorem IsObject.isValue {depth : Nat} {members : List (String × List Char)} {text : List Char}
    (h : IsObject depth members text) : IsValue (depth + 1) text := by
  obtain ⟨entries, body, rfl, hmembered, -, hkeys, hvalues⟩ := h.exists_membered
  exact .object hmembered hkeys hvalues

/-- Items begin with the first of them, behind blanks. -/
theorem Listed.eq_append {item text : List Char} {items : List (List Char)}
    (h : Listed (item :: items) text) : ∃ before more, text = before ++ (item ++ more)
      ∧ Blanks before := by
  cases h with
  | last hbefore | more hbefore => exact ⟨_, _, rfl, hbefore⟩

/-- Members begin with the quote before the first key, behind blanks. -/
theorem Membered.eq_append {entry : List Char × List Char} {entries : List (List Char × List Char)}
    {text : List Char} (h : Membered (entry :: entries) text) :
    ∃ before more, text = before ++ '"' :: more ∧ Blanks before := by
  cases h with
  | last hbefore | more hbefore => exact ⟨_, _, rfl, hbefore⟩

/-! ## How long texts are -/

theorem Begins.length_pos {text : List Char} (h : Begins text) : 0 < text.length := by
  obtain ⟨c, more, rfl, -⟩ := h
  exact Nat.succ_pos _

/-- There are fewer items than characters, so fuel measured by the text is enough for a list. -/
theorem Listed.length_lt {items : List (List Char)} {text : List Char} (h : Listed items text)
    (hitems : ∀ item ∈ items, Begins item) : items.length < text.length := by
  induction h with
  | none => simp
  | last =>
    have := (hitems _ List.mem_cons_self).length_pos
    simp only [List.length_append, List.length_cons, List.length_nil]
    omega
  | more hbefore hbehind hothers ih =>
    have := ih fun item hmem => hitems item (List.mem_cons_of_mem _ hmem)
    simp only [List.length_append, List.length_cons] at this ⊢
    omega

theorem Membered.length_lt {entries : List (List Char × List Char)} {text : List Char}
    (h : Membered entries text) : entries.length < text.length := by
  induction h with
  | none => simp
  | last => simp only [List.length_append, List.length_cons, List.length_nil]; omega
  | more _ _ _ _ _ ih =>
    simp only [List.length_append, List.length_cons] at ih ⊢
    omega

/-- So the reader has enough fuel for items. -/
theorem Listed.lt_fuel {items : List (List Char)} {text : List Char} (h : Listed items text)
    (hitems : ∀ item ∈ items, Begins item) (rest : List Char) :
    items.length < (text ++ rest).length + 1 := by
  have := h.length_lt hitems
  rw [List.length_append]
  omega

theorem Membered.lt_fuel {entries : List (List Char × List Char)} {text : List Char}
    (h : Membered entries text) (rest : List Char) :
    entries.length < (text ++ rest).length + 1 := by
  have := h.length_lt
  rw [List.length_append]
  omega

end QueryLint.Json
