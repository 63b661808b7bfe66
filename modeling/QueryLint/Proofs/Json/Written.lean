import QueryLint.Json.Reader
import QueryLint.Proofs.Except
import QueryLint.Proofs.Json.Literal
import QueryLint.Proofs.Json.Value

/-!
# Written values are read back

`Written` is the notation without floating-point numbers: how scalars are spelt, and that blanks may
stand between the parts of arrays and objects. Both writers keep to it (`written_write`,
`written_layOut`). The reader takes any text of the notation for the value that it writes, with the
members of its objects in order (`readValue_written`), as long as the numbers have 64 bits and not too
many containers are open at once. The theorems on items and members are about any reader of what a
container holds, because settings and patterns have readers of their own.
-/

namespace QueryLint.Json

/-! ## The notation -/

mutual

/-- A text writes a value. -/
inductive Written : Json → List Char → Prop
  | null : Written .null ['n', 'u', 'l', 'l']
  | bool (b : Bool) : Written (.bool b) (writeScalar (.bool b))
  | integer (i : Int) : Written (.integer i) (Decimal.integerDigits i)
  | string (s : String) : Written (.string s) (writeString s)
  | array {items : List Json} {text : List Char} (h : WrittenItems items text) :
    Written (.array items) ('[' :: text)
  | object {members : Members} {text : List Char} (h : WrittenMembers members text) :
    Written (.object members) ('\x7b' :: text)

/-- A text writes the items of an array and its closing bracket. -/
inductive WrittenItems : List Json → List Char → Prop
  | none {gap : List Char} (hgap : Blanks gap) : WrittenItems [] (gap ++ [']'])
  | last {item : Json} {before text behind : List Char} (hbefore : Blanks before)
    (h : Written item text) (hbehind : Blanks behind) :
    WrittenItems [item] (before ++ (text ++ (behind ++ [']'])))
  | more {item next : Json} {rest : List Json} {before text behind others : List Char}
    (hbefore : Blanks before) (h : Written item text) (hbehind : Blanks behind)
    (hothers : WrittenItems (next :: rest) others) :
    WrittenItems (item :: next :: rest) (before ++ (text ++ (behind ++ ',' :: others)))

/-- A text writes the members of an object and its closing brace. -/
inductive WrittenMembers : List (String × Json) → List Char → Prop
  | none {gap : List Char} (hgap : Blanks gap) : WrittenMembers [] (gap ++ ['\x7d'])
  | last (name : String) {value : Json} {before middle text behind : List Char}
    (hbefore : Blanks before) (hmiddle : Blanks middle) (h : Written value text)
    (hbehind : Blanks behind) :
    WrittenMembers [(name, value)]
      (before ++ (writeString name ++ ':' :: (middle ++ (text ++ (behind ++ ['\x7d'])))))
  | more (name : String) {value : Json} {next : String × Json} {rest : List (String × Json)}
    {before middle text behind others : List Char} (hbefore : Blanks before)
    (hmiddle : Blanks middle) (h : Written value text) (hbehind : Blanks behind)
    (hothers : WrittenMembers (next :: rest) others) :
    WrittenMembers ((name, value) :: next :: rest)
      (before ++ (writeString name ++ ':' :: (middle ++ (text ++ (behind ++ ',' :: others)))))

end

/-! ## Where values begin and end -/

/-- A value begins with no blank and with no bracket that closes. -/
theorem Written.eq_cons {value : Json} {text : List Char} (h : Written value text) :
    ∃ c more, text = c :: more ∧ isSpace c = false ∧ c ≠ ']' := by
  cases h with
  | null => exact ⟨_, _, rfl, rfl, by decide⟩
  | bool b => cases b <;> exact ⟨_, _, rfl, rfl, by decide⟩
  | string s => exact ⟨_, _, rfl, rfl, by decide⟩
  | array | object => exact ⟨_, _, rfl, rfl, by decide⟩
  | integer i =>
    by_cases hi : i < 0
    · exact ⟨'-', _, if_pos hi, rfl, by decide⟩
    · obtain ⟨c, digits, hdigits, hc⟩ := Decimal.decimalDigits_eq_cons i.natAbs
      refine ⟨c, digits, ?_, isSpace_of_isDigit hc, Decimal.ne_of_isDigit hc rfl⟩
      rw [Decimal.integerDigits, if_neg hi, hdigits]

/-- Items begin with the first of them, behind blanks. -/
theorem WrittenItems.eq_append {item : Json} {items : List Json} {text : List Char}
    (h : WrittenItems (item :: items) text) :
    ∃ before c more, text = before ++ c :: more ∧ Blanks before ∧ isSpace c = false ∧ c ≠ ']' := by
  cases h with
  | last hbefore h | more hbefore h =>
    obtain ⟨c, more, rfl, hc, hend⟩ := h.eq_cons
    exact ⟨_, c, _, rfl, hbefore, hc, hend⟩

/-- Members begin with the name of the first of them, behind blanks. -/
theorem WrittenMembers.eq_append {member : String × Json} {members : Members} {text : List Char}
    (h : WrittenMembers (member :: members) text) :
    ∃ before more, text = before ++ '"' :: more ∧ Blanks before := by
  cases h with
  | last _ hbefore | more _ hbefore => exact ⟨_, _, by rw [writeString_append], hbefore⟩

/-- Items are fewer than the characters that write them. -/
theorem WrittenItems.length_lt : ∀ {items : List Json} {text : List Char},
    WrittenItems items text → items.length < text.length := by
  intro items
  induction items with
  | nil =>
    intro text h
    cases h with
    | none => simp
  | cons item rest ih =>
    intro text h
    cases h with
    | last hbefore h hbehind =>
      obtain ⟨c, more, rfl, -, -⟩ := h.eq_cons
      simp only [List.length_append, List.length_cons, List.length_nil]
      omega
    | more hbefore h hbehind hothers =>
      have := ih hothers
      simp only [List.length_append, List.length_cons] at this ⊢
      omega

/-- Members are fewer than the characters that write them. -/
theorem WrittenMembers.length_lt : ∀ {members : Members} {text : List Char},
    WrittenMembers members text → members.length < text.length := by
  intro members
  induction members with
  | nil =>
    intro text h
    cases h with
    | none => simp
  | cons member rest ih =>
    intro text h
    cases h with
    | last => simp only [List.length_append, List.length_cons, List.length_nil]; omega
    | more _ hbefore hmiddle h hbehind hothers =>
      have := ih hothers
      simp only [List.length_append, List.length_cons] at this ⊢
      omega

/-- So the reader has enough fuel for them. -/
theorem WrittenItems.lt_fuel {items : List Json} {text : List Char} (h : WrittenItems items text)
    (rest : List Char) : items.length < (text ++ rest).length + 1 := by
  have := h.length_lt
  rw [List.length_append]
  omega

theorem WrittenMembers.lt_fuel {members : Members} {text : List Char}
    (h : WrittenMembers members text) (rest : List Char) :
    members.length < (text ++ rest).length + 1 := by
  have := h.length_lt
  rw [List.length_append]
  omega

/-! ## Reading items and members -/

section Reading

variable {α σ : Type}

theorem nextItem_end (first : Bool) {gap : List Char} (hgap : Blanks gap) (rest : List Char) :
    nextItem first (gap ++ ']' :: rest) = .ok (false, ']' :: rest) := by
  rw [nextItem, skipSpaces_gap hgap rfl]
  rfl

theorem nextItem_first {gap : List Char} (hgap : Blanks gap) {c : Char} (hc : isSpace c = false)
    (hend : c ≠ ']') (text : List Char) :
    nextItem true (gap ++ c :: text) = .ok (true, c :: text) := by
  rw [nextItem, skipSpaces_gap hgap hc]
  split
  next heq => cases heq
  next heq => exact absurd (List.cons.inj heq).1 hend
  next heq => obtain ⟨rfl, rfl⟩ := List.cons.inj heq; rfl

/-- Behind an item a comma leads to the next one. -/
theorem nextItem_comma {gap between : List Char} (hgap : Blanks gap) (hbetween : Blanks between)
    {c : Char} (hc : isSpace c = false) (hend : c ≠ ']') (text : List Char) :
    nextItem false (gap ++ ',' :: (between ++ c :: text)) = .ok (true, c :: text) := by
  rw [nextItem, skipSpaces_gap hgap rfl]
  split
  next heq => cases heq
  next heq => exact absurd (List.cons.inj heq).1 (by decide)
  next heq =>
    obtain ⟨rfl, rfl⟩ := List.cons.inj heq
    rw [if_neg Bool.false_ne_true, if_pos rfl, skipSpaces_gap hbetween hc]
    split
    next heq => cases heq
    next heq => exact absurd (List.cons.inj heq).1 hend
    next => rfl

/-- Items behind a comma are read like those behind the opening bracket. -/
theorem readItems_comma (item : List Char → Reading (α × List Char)) (fuel : Nat)
    {gap between : List Char} (hgap : Blanks gap) (hbetween : Blanks between) {c : Char}
    (hc : isSpace c = false) (hend : c ≠ ']') (text : List Char) :
    readItems item false (fuel + 1) (gap ++ ',' :: (between ++ c :: text)) =
      readItems item true (fuel + 1) (between ++ c :: text) := by
  rw [readItems, readItems, nextItem_comma hgap hbetween hc hend, nextItem_first hbetween hc hend]

/-- Behind the bracket one item is read, then what follows it. -/
theorem readItems_first (item : List Char → Reading (α × List Char)) (fuel : Nat)
    {gap : List Char} (hgap : Blanks gap) {c : Char} (hc : isSpace c = false) (hend : c ≠ ']')
    (text : List Char) :
    readItems item true (fuel + 1) (gap ++ c :: text) =
      (item (c :: text) >>= fun read => readItems item false fuel read.2 >>= fun more =>
        .ok (read.1 :: more.1, more.2)) := by
  rw [readItems, nextItem_first hgap hc hend]
  rfl

/-- A list of one more item at its front, where no comma stands. -/
theorem readItems_cons {item : List Char → Reading (α × List Char)} {x : α} {value : Json}
    {before text tail : List Char} (fuel : Nat) (hbefore : Blanks before) (h : Written value text)
    (hread : item (text ++ tail) = .ok (x, tail)) :
    readItems item true (fuel + 1) (before ++ (text ++ tail)) =
      (readItems item false fuel tail).map fun (xs, rest) => (x :: xs, rest) := by
  obtain ⟨c, more, rfl, hc, hend⟩ := h.eq_cons
  rw [List.cons_append] at hread ⊢
  rw [readItems_first item fuel hbefore hc hend, hread]
  rfl

/-- Items are read as what a reader of single ones makes of them. -/
theorem readItems_written (item : List Char → Reading (α × List Char)) (result : Json → α)
    {items : List Json} {text : List Char}
    (hitem : ∀ value ∈ items, ∀ text rest, Written value text → Ends rest →
      item (text ++ rest) = .ok (result value, rest))
    (h : WrittenItems items text) {fuel : Nat} (hfuel : items.length < fuel) (rest : List Char) :
    readItems item true fuel (text ++ rest) = .ok (items.map result, rest) := by
  obtain ⟨fuel, rfl⟩ := Nat.exists_eq_add_one.2 (Nat.zero_lt_of_lt hfuel)
  induction items generalizing text fuel with
  | nil =>
    cases h with
    | none hgap =>
      rw [List.append_assoc, List.singleton_append, readItems, nextItem_end true hgap]
      rfl
  | cons value values ih =>
    have hvalue := hitem value List.mem_cons_self
    obtain ⟨fuel, rfl⟩ := Nat.exists_eq_add_one.2
      (Nat.zero_lt_of_lt (Nat.lt_of_succ_lt_succ hfuel))
    -- What stands behind an item, be it blanks, a comma or the bracket, cannot belong to it.
    cases h with
    | last hbefore h hbehind =>
      simp only [List.append_assoc, List.singleton_append]
      rw [readItems_cons _ hbefore h (hvalue _ _ h (.gap hbehind (.cons (by decide) rest))),
        readItems, nextItem_end false hbehind]
      rfl
    | more hbefore h hbehind hothers =>
      have hrest := ih (fun value hmem => hitem value (List.mem_cons_of_mem _ hmem)) hothers fuel
        (Nat.lt_of_succ_lt_succ hfuel)
      obtain ⟨between, c, more, rfl, hbetween, hc, hend⟩ := hothers.eq_append
      simp only [List.append_assoc, List.cons_append] at hrest ⊢
      rw [readItems_cons _ hbefore h (hvalue _ _ h (.gap hbehind (.cons (by decide) _))),
        readItems_comma _ _ hbehind hbetween hc hend, hrest]
      rfl

theorem nextKey_end (first : Bool) {gap : List Char} (hgap : Blanks gap) (rest : List Char) :
    nextKey first (gap ++ '\x7d' :: rest) = .ok (false, '\x7d' :: rest) := by
  rw [nextKey, skipSpaces_gap hgap rfl]
  rfl

theorem nextKey_first {gap : List Char} (hgap : Blanks gap) (text : List Char) :
    nextKey true (gap ++ '"' :: text) = .ok (true, '"' :: text) := by
  rw [nextKey, skipSpaces_gap hgap rfl]
  rfl

/-- Behind a member a comma leads to the next one. -/
theorem nextKey_comma {gap between : List Char} (hgap : Blanks gap) (hbetween : Blanks between)
    (text : List Char) :
    nextKey false (gap ++ ',' :: (between ++ '"' :: text)) = .ok (true, '"' :: text) := by
  rw [nextKey, skipSpaces_gap hgap rfl]
  split
  next heq => cases heq
  next heq => exact absurd (List.cons.inj heq).1 (by decide)
  next heq =>
    obtain ⟨rfl, rfl⟩ := List.cons.inj heq
    rw [if_neg Bool.false_ne_true, if_pos rfl, skipSpaces_gap hbetween rfl]
    rfl

theorem readColon_cons (rest : List Char) : readColon (':' :: rest) = .ok rest :=
  rfl

variable {member : σ → String → List Char → Reading (σ × List Char)}

/-- Members behind a comma are read like those behind the opening brace. -/
theorem readMembers_comma (fuel : Nat) (state : σ) {gap between : List Char} (hgap : Blanks gap)
    (hbetween : Blanks between) (text : List Char) :
    readMembers member false (fuel + 1) state (gap ++ ',' :: (between ++ '"' :: text)) =
      readMembers member true (fuel + 1) state (between ++ '"' :: text) := by
  rw [readMembers, readMembers, nextKey_comma hgap hbetween, nextKey_first hbetween]

/-- Behind the brace one member is read, then what follows it. -/
theorem readMembers_first (fuel : Nat) (state : σ) {gap : List Char} (hgap : Blanks gap)
    (text : List Char) :
    readMembers member true (fuel + 1) state (gap ++ '"' :: text) =
      (readString text >>= fun read => member state read.1 read.2 >>= fun next =>
        readMembers member false fuel next.1 next.2) := by
  rw [readMembers, nextKey_first hgap]
  rfl

/-- An object of one more member at its front. -/
theorem readMembers_cons {state next : σ} {name : String} {before text tail : List Char}
    (fuel : Nat) (hbefore : Blanks before) (hread : member state name text = .ok (next, tail)) :
    readMembers member true (fuel + 1) state (before ++ (writeString name ++ text)) =
      readMembers member false fuel next tail := by
  rw [writeString_append, readMembers_first fuel state hbefore, readString_tail, ok_bind, hread,
    ok_bind]

/-- A reader of single members takes some members in, one after the other, from one state to another,
whatever texts their values are written as. -/
inductive Gathers (member : σ → String → List Char → Reading (σ × List Char)) :
    σ → Members → σ → Prop
  | nil (state : σ) : Gathers member state [] state
  | cons {state next last : σ} {name : String} {value : Json} {members : Members}
    (hread : ∀ middle text rest, Blanks middle → Written value text → Ends rest →
      member state name (':' :: (middle ++ (text ++ rest))) = .ok (next, rest))
    (h : Gathers member next members last) : Gathers member state ((name, value) :: members) last

/-- Members are read as a reader of single ones gathers them. -/
theorem readMembers_written {state last : σ} {members : Members} {text : List Char}
    (hgathers : Gathers member state members last) (h : WrittenMembers members text) {fuel : Nat}
    (hfuel : members.length < fuel) (rest : List Char) :
    readMembers member true fuel state (text ++ rest) = .ok (last, rest) := by
  obtain ⟨fuel, rfl⟩ := Nat.exists_eq_add_one.2 (Nat.zero_lt_of_lt hfuel)
  -- The state is carried along by the members, so the induction follows how it is gathered.
  induction hgathers generalizing text fuel with
  | nil state =>
    cases h with
    | none hgap =>
      rw [List.append_assoc, List.singleton_append, readMembers, nextKey_end true hgap]
      rfl
  | cons hread hrest ih =>
    obtain ⟨fuel, rfl⟩ := Nat.exists_eq_add_one.2
      (Nat.zero_lt_of_lt (Nat.lt_of_succ_lt_succ hfuel))
    cases h with
    | last _ hbefore hmiddle h hbehind =>
      cases hrest
      simp only [List.append_assoc, List.cons_append, List.nil_append]
      rw [readMembers_cons _ hbefore (hread _ _ _ hmiddle h
          (.gap hbehind (.cons (by decide) rest))),
        readMembers, nextKey_end false hbehind]
      rfl
    | more _ hbefore hmiddle h hbehind hothers =>
      have hrest := ih hothers fuel (Nat.lt_of_succ_lt_succ hfuel)
      obtain ⟨between, more, rfl, hbetween⟩ := hothers.eq_append
      simp only [List.append_assoc, List.cons_append] at hrest ⊢
      rw [readMembers_cons _ hbefore (hread _ _ _ hmiddle h
          (.gap hbehind (.cons (by decide) _))),
        readMembers_comma _ _ hbehind hbetween, hrest]

/-- Members are gathered one stretch after the other. -/
theorem Gathers.append {state next last : σ} {members others : Members}
    (h : Gathers member state members next) (hothers : Gathers member next others last) :
    Gathers member state (members ++ others) last := by
  induction h with
  | nil => exact hothers
  | cons hread _ ih => exact .cons hread (ih hothers)

/-- What is done with every member by itself is done with all of them in order. -/
theorem Gathers.foldl (step : σ → String × Json → σ) {members : Members}
    (h : ∀ name value, (name, value) ∈ members → ∀ state middle text rest, Blanks middle →
      Written value text → Ends rest →
      member state name (':' :: (middle ++ (text ++ rest))) = .ok (step state (name, value), rest))
    (state : σ) : Gathers member state members (members.foldl step state) := by
  induction members generalizing state with
  | nil => exact .nil state
  | cons entry members ih =>
    obtain ⟨name, value⟩ := entry
    refine .cons (h name value List.mem_cons_self state) (ih (fun name value hmem => ?_) _)
    exact h name value (List.mem_cons_of_mem _ hmem)

end Reading

/-! ## Reading values -/

/-- Blanks may stand at the end. -/
theorem readEnd_blanks {gap : List Char} (hgap : Blanks gap) : readEnd gap = .ok () := by
  have hskip := skipSpaces_append hgap []
  rw [List.append_nil] at hskip
  rw [readEnd, hskip]
  rfl

/-- Blanks before a value do not count. -/
theorem readValue_gap (depth : Nat) {gap : List Char} (hgap : Blanks gap) (text : List Char) :
    readValue depth (gap ++ text) = readValue depth text := by
  rw [readValue.eq_def, skipSpaces_append hgap, ← readValue.eq_def]

/-- A value that starts with a digit is a number. -/
theorem readValue_digit (depth : Nat) {c : Char} (hc : c.isDigit = true) (text : List Char) :
    readValue depth (c :: text) = readNumber false (c :: text) := by
  rw [readValue, skipSpaces_cons (isSpace_of_isDigit hc)]
  -- A digit is none of the characters that other values begin with.
  have hne : ∀ d : Char, d.isDigit = false → c ≠ d := fun d => Decimal.ne_of_isDigit hc
  split
  next heq => cases heq
  next heq => exact absurd (List.cons.inj heq).1 (hne _ rfl)
  next heq => exact absurd (List.cons.inj heq).1 (hne _ rfl)
  next heq => exact absurd (List.cons.inj heq).1 (hne _ rfl)
  next heq => exact absurd (List.cons.inj heq).1 (hne _ rfl)
  next heq => exact absurd (List.cons.inj heq).1 (hne _ rfl)
  next heq => exact absurd (List.cons.inj heq).1 (hne _ rfl)
  next heq => exact absurd (List.cons.inj heq).1 (hne _ rfl)
  next heq =>
    obtain ⟨rfl, rfl⟩ := List.cons.inj heq
    rw [if_pos hc]

/-- A whole number of 64 bits is read, whatever depth is left. -/
theorem readValue_integer (depth : Nat) {i : Int} (hlow : -0x8000000000000000 ≤ i)
    (hhigh : i < 0x10000000000000000) {rest : List Char} (h : Ends rest) :
    readValue depth (Decimal.integerDigits i ++ rest) = .ok (.integer i, rest) := by
  have hread := readNumber_natAbs hlow hhigh h
  by_cases hi : i < 0
  · rw [Decimal.integerDigits, if_pos hi, List.cons_append, readValue, skipSpaces_cons rfl]
    rw [decide_eq_true hi] at hread
    exact hread
  · obtain ⟨c, digits, hdigits, hc⟩ := Decimal.decimalDigits_eq_cons i.natAbs
    rw [decide_eq_false hi, hdigits, List.cons_append] at hread
    rw [Decimal.integerDigits, if_neg hi, hdigits, List.cons_append, readValue_digit depth hc, hread]

/-- A value is read up to its end, with the members of its objects in order. -/
theorem readValue_written {value : Json} {text : List Char} {depth : Nat} (h : Written value text)
    (hdepth : value.depth ≤ depth) (hfits : value.FitsWords) {rest : List Char}
    (hrest : Ends rest) :
    readValue depth (text ++ rest) = .ok (value.sorted, rest) := by
  -- A container takes one level of the depth that is left, and what it holds does with the others.
  induction value using containers generalizing text depth rest with
  | null =>
    cases h
    rw [readValue]
    rfl
  | bool b =>
    cases h
    rw [readValue]
    cases b <;> rfl
  | integer i =>
    cases h
    obtain ⟨hlow, hhigh⟩ := hfits _ .here i rfl
    exact readValue_integer depth hlow hhigh hrest
  | float x => cases h
  | string s =>
    cases h
    rw [writeString_append, readValue, skipSpaces_cons rfl]
    change (readString _ >>= fun _ => _) = _
    rw [readString_tail]
    rfl
  | array items ih =>
    cases h with
    | @array _ text h =>
      cases depth with
      | zero => cases hdepth
      | succ depth =>
        have hitems := readItems_written (readValue depth) sorted
          (fun value hmem text rest hvalue hrest => ih value hmem hvalue
            (depth_item_le hmem hdepth) (hfits.item hmem) hrest)
          h (h.lt_fuel rest) rest
        rw [List.cons_append, readValue, skipSpaces_cons rfl]
        change (readItems (readValue depth) true _ (text ++ rest) >>= fun _ => _) = _
        rw [hitems, sorted, sortedItems_eq_map]
        rfl
  | object members ih =>
    cases h with
    | @object _ text h =>
      cases depth with
      | zero => cases hdepth
      | succ depth =>
        have hgathers : Gathers
            (fun members name text => do
              let text ← readColon text
              let read ← readValue depth text
              .ok (insertMember name read.1 members, read.2)) [] members
            (members.foldl (fun members member =>
              insertMember member.1 member.2.sorted members) []) := by
          refine .foldl _ (fun name value hmem state middle text rest hmiddle hvalue hrest => ?_) []
          rw [readColon_cons]
          change (readValue depth (middle ++ (text ++ rest)) >>= fun _ => _) = _
          rw [readValue_gap depth hmiddle, ih (name, value) hmem hvalue
            (depth_member_le hmem hdepth) (hfits.member hmem) hrest]
          rfl
        have hmembers := readMembers_written hgathers h (h.lt_fuel rest) rest
        rw [List.cons_append, readValue, skipSpaces_cons rfl]
        change (readMembers _ true _ [] (text ++ rest) >>= fun _ => _) = _
        rw [hmembers, sorted, ofMembers, sortedMembers_eq_map, List.foldl_map]
        rfl

/-- The text of a value, with nothing but blanks around it, is taken for that value. -/
theorem parse_written {value : Json} {before text behind : List Char} (h : Written value text)
    (hdepth : value.depth ≤ maxDepth) (hfits : value.FitsWords) (hbefore : Blanks before)
    (hbehind : Blanks behind) :
    parse (String.ofList (before ++ (text ++ behind))) = .ok value.sorted := by
  rw [parse, String.toList_ofList, readValue_gap maxDepth hbefore,
    readValue_written h hdepth hfits hbehind.ends, ok_bind]
  dsimp only
  rw [readEnd_blanks hbehind, ok_bind]

/-! ## Writing values -/

/-- Items are written in the notation if every one of them is. -/
theorem writtenItems_writeItems {items : List Json}
    (h : ∀ item ∈ items, Written item (write item)) : WrittenItems items (writeItems items) := by
  induction items with
  | nil => exact .none .nil
  | cons item rest ih =>
    have hitem := h item List.mem_cons_self
    have hrest := ih fun item hmem => h item (List.mem_cons_of_mem _ hmem)
    cases rest with
    | nil => exact .last .nil hitem .nil
    | cons next rest => exact .more .nil hitem .nil hrest

/-- Members are written in the notation if the value of every one of them is. -/
theorem writtenMembers_writeMembers {members : Members}
    (h : ∀ name value, (name, value) ∈ members → Written value (write value)) :
    WrittenMembers members (writeMembers members) := by
  induction members with
  | nil => exact .none .nil
  | cons member rest ih =>
    obtain ⟨name, value⟩ := member
    have hvalue := h name value List.mem_cons_self
    have hrest := ih fun name value hmem => h name value (List.mem_cons_of_mem _ hmem)
    cases rest with
    | nil =>
      have := WrittenMembers.last name .nil .nil hvalue .nil
      simpa [writeMembers] using this
    | cons next rest =>
      have := WrittenMembers.more name .nil .nil hvalue .nil hrest
      simpa [writeMembers] using this

/-- A value without blanks is in the notation. -/
theorem written_write {value : Json} (h : value.IsExact) : Written value (write value) := by
  induction value using containers with
  | null => exact .null
  | bool b => exact .bool b
  | integer i => exact .integer i
  | float x => exact absurd rfl (h _ .here x)
  | string s => exact .string s
  | array items ih =>
    have hitems : ∀ item ∈ items, Written item (write item) :=
      fun item hmem => ih item hmem (h.item hmem)
    rw [write]
    exact .array (writtenItems_writeItems hitems)
  | object members ih =>
    have hmembers : ∀ name value, (name, value) ∈ members → Written value (write value) :=
      fun name value hmem => ih (name, value) hmem (h.member hmem)
    rw [write]
    exact .object (writtenMembers_writeMembers hmembers)

theorem blanks_newline (depth : Nat) : Blanks (newline depth) := by
  intro c hc
  rcases List.mem_cons.1 hc with rfl | hc
  · rfl
  · rw [List.eq_of_mem_replicate hc]
    rfl

/-- Items are laid out in the notation if every one of them is. -/
theorem writtenItems_layOutItems {items : List Json} (depth : Nat)
    (h : ∀ item ∈ items, Written item (layOut (depth + 1) item)) :
    WrittenItems items (layOutItems depth items) := by
  induction items with
  | nil => exact .none (blanks_newline depth)
  | cons item rest ih =>
    have hitem := h item List.mem_cons_self
    have hrest := ih fun item hmem => h item (List.mem_cons_of_mem _ hmem)
    cases rest with
    | nil =>
      rw [layOutItems, List.append_assoc, List.append_assoc]
      exact .last (blanks_newline _) hitem (blanks_newline _)
    | cons next rest =>
      rw [layOutItems, List.append_assoc]
      · exact .more (blanks_newline _) hitem .nil hrest
      · exact List.cons_ne_nil next rest

/-- Members are laid out in the notation if the value of every one of them is. -/
theorem writtenMembers_layOutMembers {members : Members} (depth : Nat)
    (h : ∀ name value, (name, value) ∈ members → Written value (layOut (depth + 1) value)) :
    WrittenMembers members (layOutMembers depth members) := by
  have hblank : Blanks [' '] := fun c hc => by rw [List.mem_singleton.1 hc]; rfl
  induction members with
  | nil => exact .none (blanks_newline depth)
  | cons member rest ih =>
    obtain ⟨name, value⟩ := member
    have hvalue := h name value List.mem_cons_self
    have hrest := ih fun name value hmem => h name value (List.mem_cons_of_mem _ hmem)
    cases rest with
    | nil =>
      have := WrittenMembers.last name (blanks_newline (depth + 1)) hblank hvalue
        (blanks_newline depth)
      simpa [layOutMembers] using this
    | cons next rest =>
      have := WrittenMembers.more name (blanks_newline (depth + 1)) hblank hvalue .nil
        hrest
      simpa [layOutMembers] using this

/-- So is a value over several lines. -/
theorem written_layOut {value : Json} (depth : Nat) (h : value.IsExact) :
    Written value (layOut depth value) := by
  induction value using containers generalizing depth with
  | null => exact .null
  | bool b => exact .bool b
  | integer i => exact .integer i
  | float x => exact absurd rfl (h _ .here x)
  | string s => exact .string s
  | array items ih =>
    cases items with
    | nil => exact .array (.none .nil)
    | cons item rest =>
      refine .array (writtenItems_layOutItems depth fun item hmem => ?_)
      exact ih item hmem _ (h.item hmem)
  | object members ih =>
    cases members with
    | nil => exact .object (.none .nil)
    | cons member rest =>
      refine .object (writtenMembers_layOutMembers depth fun name value hmem => ?_)
      exact ih (name, value) hmem _ (h.member hmem)

end QueryLint.Json
