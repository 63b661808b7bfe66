import QueryLint.Proofs.Toml.Document
import QueryLint.Proofs.Toml.Key
import QueryLint.Proofs.Toml.Number

/-!
# Values are read back

What is read where a value was written is an item for that value (`reads_writeValue`), whatever
stands behind it, as long as it ends there. Arrays and tables between braces are read by a reader of
what stands in them, so each is treated for any such reader first.
-/

namespace QueryLint.Toml

open Reading Decimal

/-- A value that a text can hold, and hold exactly: nothing in it is missing, it has no
floating-point numbers, and its whole numbers have 64 bits with a sign. -/
def Expressible (value : Json) : Prop :=
  value.Everywhere fun inner => inner ≠ .null ∧ (∀ x, inner ≠ .float x)
    ∧ ∀ i, inner = .integer i → -0x8000000000000000 ≤ i ∧ i < 0x8000000000000000

/-- A reader reads a value where it was written, if it ends there. -/
def Reads (read : List Char → Reading (Item × List Char)) (value : Json) : Prop :=
  ∀ rest, Stops rest → ∃ item, Item.toJson item = value
    ∧ read (writeValue value ++ rest) = .ok (item, rest)

/-! ## How a value begins -/

/-- The characters that stand between values and around them. -/
def gaps : List Char :=
  [' ', '\t', '\n', '\r', '#']

theorem isBlank_of_not_mem_gaps {c : Char} (h : c ∉ gaps) : isBlank c = false := by
  simp only [isBlank, Bool.or_eq_false_iff, decide_eq_false_iff_not]
  constructor <;> rintro rfl <;> exact h (by decide)

/-- A gap ends in front of a character that can stand in none. -/
theorem skipGap_of_skipBlanks {text tail : List Char} {c : Char} (h : skipBlanks text = c :: tail)
    (hc : c ∉ gaps) (fuel : Nat) : skipGap (fuel + 1) text = .ok (c :: tail) := by
  rw [skipGap, h]
  split
  next heq => exact absurd ((List.cons.inj heq).1 ▸ hc) (by decide)
  next heq => exact absurd ((List.cons.inj heq).1 ▸ hc) (by decide)
  next heq => exact absurd ((List.cons.inj heq).1 ▸ hc) (by decide)
  next => rfl

theorem skipGap_cons {c : Char} (hc : c ∉ gaps) (fuel : Nat) (text : List Char) :
    skipGap (fuel + 1) (c :: text) = .ok (c :: text) :=
  skipGap_of_skipBlanks (skipBlanks_cons (isBlank_of_not_mem_gaps hc) text) hc fuel

theorem writeText_eq_cons (text : List Char) :
    ∃ c tail, writeText text = c :: tail ∧ (c = '"' ∨ c = '\'') := by
  unfold writeText
  dsimp only
  split
  · exact ⟨_, _, rfl, .inl rfl⟩
  split
  · exact ⟨_, _, rfl, .inr rfl⟩
  split
  · exact ⟨_, _, rfl, .inl rfl⟩
  split
  · exact ⟨_, _, rfl, .inr rfl⟩
  split <;> exact ⟨_, _, rfl, .inl rfl⟩

theorem integerDigits_eq_cons (i : Int) :
    ∃ c tail, integerDigits i = c :: tail ∧ (c = '-' ∨ c.isDigit = true) := by
  by_cases hi : i < 0
  · rw [integerDigits, if_pos hi]
    exact ⟨'-', _, rfl, .inl rfl⟩
  · obtain ⟨c, digits, hdigits, hc⟩ := decimalDigits_eq_cons i.natAbs
    rw [integerDigits, if_neg hi]
    exact ⟨c, digits, hdigits, .inr hc⟩

/-- A written value starts with nothing that a gap could take, and it does not close a list. -/
theorem writeValue_eq_cons {value : Json} (h : Expressible value) :
    ∃ c tail, writeValue value = c :: tail ∧ c ∉ gaps ∧ c ≠ ']' := by
  obtain ⟨hnull, hfloat, -⟩ := h value .here
  cases value with
  | null => exact absurd rfl hnull
  | bool b => cases b <;> exact ⟨_, _, rfl, by decide⟩
  | integer i =>
    have hgaps : ∀ c ∈ gaps, c.isDigit = false := by simp [gaps]
    obtain ⟨c, tail, hdigits, hc⟩ := integerDigits_eq_cons i
    refine ⟨c, tail, hdigits, ?_⟩
    rcases hc with rfl | hc
    · decide
    · exact ⟨fun hmem => ne_of_isDigit hc (hgaps c hmem) rfl, ne_of_isDigit hc rfl⟩
  | float x => exact absurd rfl (hfloat x)
  | string s =>
    obtain ⟨c, tail, htext, hc⟩ := writeText_eq_cons s.toList
    refine ⟨c, tail, htext, ?_⟩
    rcases hc with rfl | rfl <;> decide
  | array items => exact ⟨_, _, rfl, by decide⟩
  | object members => cases members <;> exact ⟨_, _, rfl, by decide⟩

/-! ## Lists of items and members -/

theorem separateItems_cons (part : List Char) {parts : List (List Char)} (h : parts ≠ []) :
    separateItems (part :: parts) = part ++ ',' :: ' ' :: separateItems parts := by
  obtain ⟨next, parts, rfl⟩ := List.exists_cons_of_ne_nil h
  rfl

theorem separateItems_eq_cons (c : Char) (tail : List Char) (parts : List (List Char)) :
    ∃ rest, separateItems ((c :: tail) :: parts) = c :: rest := by
  cases parts <;> exact ⟨_, rfl⟩

/-- There are hardly more items than characters, so fuel measured by the text is enough for a list. -/
theorem length_le_separateItems (parts : List (List Char)) :
    parts.length ≤ (separateItems parts).length + 1 := by
  induction parts with
  | nil => exact Nat.zero_le _
  | cons part parts ih =>
    by_cases h : parts = []
    · subst h
      exact Nat.succ_le_succ (Nat.zero_le _)
    · rw [separateItems_cons part h, List.length_append, List.length_cons, List.length_cons,
        List.length_cons]
      omega

theorem writeItems_eq_map (items : List Json) : writeItems items = items.map writeValue := by
  induction items with
  | nil => rfl
  | cons item rest ih => rw [writeItems, ih, List.map_cons]

theorem writeMembers_eq_map (members : Json.Members) :
    writeMembers members =
      members.map fun member => writeKey member.1 ++ [' ', '=', ' '] ++ writeValue member.2 := by
  induction members with
  | nil => rfl
  | cons member rest ih => rw [writeMembers, ih, List.map_cons]

theorem writeItems_ne_nil {items : List Json} (h : items ≠ []) : writeItems items ≠ [] := by
  rw [writeItems_eq_map]
  exact fun heq => h (List.map_eq_nil_iff.1 heq)

theorem writeMembers_ne_nil {members : Json.Members} (h : members ≠ []) :
    writeMembers members ≠ [] := by
  rw [writeMembers_eq_map]
  exact fun heq => h (List.map_eq_nil_iff.1 heq)

/-- Written items start as a value does. -/
theorem separateItems_writeItems_eq_cons {items : List Json} (hne : items ≠ [])
    (h : ∀ item ∈ items, Expressible item) :
    ∃ c tail, separateItems (writeItems items) = c :: tail ∧ c ∉ gaps ∧ c ≠ ']' := by
  obtain ⟨item, items, rfl⟩ := List.exists_cons_of_ne_nil hne
  obtain ⟨c, tail, hvalue, hc⟩ := writeValue_eq_cons (h item List.mem_cons_self)
  obtain ⟨rest, hrest⟩ := separateItems_eq_cons c tail (writeItems items)
  exact ⟨c, rest, by rw [writeItems, hvalue, hrest], hc⟩

theorem separateItems_writeMembers_eq_cons {members : Json.Members} (hne : members ≠ []) :
    ∃ c tail, separateItems (writeMembers members) = c :: tail ∧ c ∉ marks := by
  obtain ⟨⟨name, value⟩, members, rfl⟩ := List.exists_cons_of_ne_nil hne
  obtain ⟨c, tail, hkey, hc⟩ := writeKey_eq_cons name
  obtain ⟨rest, hrest⟩ := separateItems_eq_cons c (tail ++ ' ' :: '=' :: ' ' :: writeValue value)
    (writeMembers members)
  exact ⟨c, rest, by rw [writeMembers, hkey, List.append_assoc]; exact hrest, hc⟩

/-- The blank before the members of a table is no part of them. -/
theorem skipBlanks_writeMembers {members : Json.Members} (hne : members ≠ []) (rest : List Char) :
    skipBlanks (' ' :: (separateItems (writeMembers members) ++ rest)) =
      separateItems (writeMembers members) ++ rest := by
  obtain ⟨c, tail, hparts, hc⟩ := separateItems_writeMembers_eq_cons hne
  exact skipBlanks_append hparts (isBlank_of_not_mem_marks hc) rest

/-! ## Arrays -/

section

variable {read : List Char → Reading (Item × List Char)}

/-- One item of an array is read with the gaps around it. -/
theorem readItem_writeValue {item : Json} (hitem : Expressible item) (h : Reads read item)
    {c : Char} (hc : c ∈ [',', ']']) {text rest : List Char}
    (htext : skipBlanks text = writeValue item ++ c :: rest) :
    ∃ taken, Item.toJson taken = item
      ∧ (do
          let (taken, rest) ← read (← skipGap (text.length + 1) text)
          .ok (taken, ← skipGap (rest.length + 1) rest) : Reading (Item × List Char)) =
        .ok (taken, c :: rest) := by
  obtain ⟨first, tail, hvalue, hfirst⟩ := writeValue_eq_cons hitem
  have hstops : ∀ c ∈ [',', ']'], c ∈ stops ∧ c ∉ gaps := by simp [stops, gaps]
  have hstop := hstops c hc
  obtain ⟨taken, htaken, hread⟩ := h (c :: rest) ⟨c, rest, rfl, hstop.1⟩
  refine ⟨taken, htaken, ?_⟩
  have hgap := skipGap_of_skipBlanks (htext.trans (congrArg (· ++ _) hvalue))
    hfirst.1 text.length
  rw [hvalue] at hread
  rw [hgap]
  change (read (first :: tail ++ c :: rest) >>= fun _ => _) = _
  rw [hread]
  change (skipGap _ (c :: rest) >>= fun _ => _) = _
  rw [skipGap_cons hstop.2]
  rfl

/-- The items of an array are read, up to its closing bracket. -/
theorem readItems_writeItems {items : List Json} (hne : items ≠ [])
    (h : ∀ item ∈ items, Expressible item ∧ Reads read item) {fuel : Nat}
    (hfuel : items.length ≤ fuel) {text rest : List Char}
    (htext : skipBlanks text = separateItems (writeItems items) ++ ']' :: rest) :
    ∃ taken, itemsToJson taken = items ∧ readItems read fuel text = .ok (taken, ']' :: rest) := by
  induction items generalizing fuel text with
  | nil => exact absurd rfl hne
  | cons item items ih =>
    obtain ⟨fuel, rfl⟩ := Nat.exists_eq_add_one.2 (Nat.lt_of_lt_of_le (Nat.succ_pos _) hfuel)
    obtain ⟨hexpressible, hread⟩ := h item List.mem_cons_self
    -- Behind the last item stands the bracket, behind every other one a comma.
    by_cases hitems : items = []
    · subst hitems
      rw [writeItems, writeItems, separateItems, List.intercalate_singleton] at htext
      obtain ⟨taken, htaken, hone⟩ := readItem_writeValue hexpressible hread (by decide) htext
      refine ⟨[taken], by rw [itemsToJson, itemsToJson, htaken], ?_⟩
      rw [readItems, hone]
      rfl
    · rw [writeItems, separateItems_cons _ (writeItems_ne_nil hitems), List.append_assoc,
        List.cons_append, List.cons_append] at htext
      obtain ⟨taken, htaken, hone⟩ := readItem_writeValue hexpressible hread (by decide) htext
      have hrest := fun item hmem => h item (List.mem_cons_of_mem _ hmem)
      have hskip : skipBlanks (' ' :: (separateItems (writeItems items) ++ ']' :: rest)) =
          separateItems (writeItems items) ++ ']' :: rest := by
        obtain ⟨c, tail, hparts, hc⟩ :=
          separateItems_writeItems_eq_cons hitems fun item hmem => (hrest item hmem).1
        exact skipBlanks_append hparts (isBlank_of_not_mem_gaps hc.1) _
      obtain ⟨more, hmore, hitems⟩ := ih hitems hrest (Nat.le_of_succ_le_succ hfuel) hskip
      refine ⟨taken :: more, by rw [itemsToJson, hmore, htaken], ?_⟩
      rw [readItems, hone]
      change (readItems read fuel (' ' :: _) >>= fun _ => _) = _
      rw [hitems]
      rfl

/-- An array is read behind its opening bracket. -/
theorem readArray_writeItems {items : List Json}
    (h : ∀ item ∈ items, Expressible item ∧ Reads read item) (rest : List Char) :
    ∃ taken, itemsToJson taken = items
      ∧ readArray read (separateItems (writeItems items) ++ ']' :: rest) = .ok (taken, rest) := by
  by_cases hitems : items = []
  · subst hitems
    exact ⟨[], rfl, rfl⟩
  · obtain ⟨c, tail, hparts, hc⟩ :=
      separateItems_writeItems_eq_cons hitems fun item hmem => (h item hmem).1
    have hskip : skipBlanks (separateItems (writeItems items) ++ ']' :: rest) =
        separateItems (writeItems items) ++ ']' :: rest :=
      skipBlanks_append hparts (isBlank_of_not_mem_gaps hc.1) _
    have hfuel : items.length ≤ (separateItems (writeItems items) ++ ']' :: rest).length + 1 := by
      have hlength := length_le_separateItems (writeItems items)
      rw [writeItems_eq_map, List.length_map, ← writeItems_eq_map] at hlength
      rw [List.length_append]
      omega
    obtain ⟨taken, htaken, hread⟩ := readItems_writeItems hitems h hfuel hskip
    refine ⟨taken, htaken, ?_⟩
    unfold readArray
    split
    next heq =>
      rw [hparts] at heq
      exact absurd (List.cons.inj heq).1 hc.2
    next =>
      rw [hread]
      dsimp only [bind, Except.bind]
      rw [skipGap_cons (by decide)]
      rfl

/-! ## Tables between braces -/

/-- A key and its value are read. -/
theorem readAssignment_written {value : Json} (hvalue : Expressible value) (h : Reads read value)
    (name : String) {text rest : List Char} (hrest : Stops rest)
    (htext : skipBlanks text = writeKey name ++ [' ', '=', ' '] ++ writeValue value ++ rest) :
    ∃ key item, Key.name key = name ∧ Item.toJson item = value
      ∧ readAssignment read text = .ok ((([], key), item), rest) := by
  have hkeytext : skipBlanks text =
      writePath ([] ++ [name]) ++ ' ' :: '=' :: ' ' :: (writeValue value ++ rest) := by
    rw [htext, List.nil_append, writePath_singleton, List.append_assoc, List.append_assoc]
    rfl
  obtain ⟨keys, key, hkeys, hkey, hread⟩ := readKey_writePath (by decide)
    (fun c hc => by obtain rfl := Option.some.inj hc; rfl)
    (fun c hc => by obtain rfl := Option.some.inj hc; decide) hkeytext
  obtain rfl := List.map_eq_nil_iff.1 hkeys
  obtain ⟨item, hitem, hvalueRead⟩ := h rest hrest
  have hskip : skipBlanks (' ' :: (writeValue value ++ rest)) = writeValue value ++ rest := by
    obtain ⟨c, tail, hwritten, hc⟩ := writeValue_eq_cons hvalue
    exact skipBlanks_append hwritten (isBlank_of_not_mem_gaps hc.1) rest
  refine ⟨key, item, hkey, hitem, ?_⟩
  rw [readAssignment, hread]
  change (required (read (skipBlanks (' ' :: (writeValue value ++ rest)))) >>= fun _ => _) = _
  rw [hskip, hvalueRead]
  rfl

/-- The members of a table between braces are read, up to its closing brace. -/
theorem readMembers_writeMembers {members : Json.Members} (hne : members ≠ [])
    (h : ∀ member ∈ members, Expressible member.2 ∧ Reads read member.2) {fuel : Nat}
    (hfuel : members.length ≤ fuel) {text rest : List Char}
    (htext : skipBlanks text = separateItems (writeMembers members) ++ ' ' :: '\x7d' :: rest) :
    ∃ taken : List ((List Key × Key) × Item), (∀ member ∈ taken, member.1.1 = [])
      ∧ taken.map (fun member => (member.1.2.name, member.2.toJson)) = members
      ∧ readMembers read fuel text = .ok (taken, '\x7d' :: rest) := by
  induction members generalizing fuel text with
  | nil => exact absurd rfl hne
  | cons member members ih =>
    obtain ⟨fuel, rfl⟩ := Nat.exists_eq_add_one.2 (Nat.lt_of_lt_of_le (Nat.succ_pos _) hfuel)
    obtain ⟨name, value⟩ := member
    obtain ⟨hexpressible, hread⟩ := h (name, value) List.mem_cons_self
    by_cases hmembers : members = []
    · subst hmembers
      rw [writeMembers, writeMembers, separateItems, List.intercalate_singleton] at htext
      obtain ⟨key, item, hkey, hitem, hone⟩ :=
        readAssignment_written hexpressible hread name ⟨_, _, rfl, by decide⟩ htext
      refine ⟨[(([], key), item)], fun member hmem => ?_, ?_, ?_⟩
      · rw [List.mem_singleton.1 hmem]
      · rw [List.map_singleton, hkey, hitem]
      · rw [readMembers, hone]
        rfl
    · rw [writeMembers, separateItems_cons _ (writeMembers_ne_nil hmembers), List.append_assoc,
        List.cons_append, List.cons_append] at htext
      obtain ⟨key, item, hkey, hitem, hone⟩ :=
        readAssignment_written hexpressible hread name ⟨_, _, rfl, by decide⟩ htext
      have hskip := skipBlanks_writeMembers hmembers (' ' :: '\x7d' :: rest)
      obtain ⟨more, hpaths, hmore, hrest⟩ := ih hmembers
        (fun member hmem => h member (List.mem_cons_of_mem _ hmem)) (Nat.le_of_succ_le_succ hfuel)
        hskip
      refine ⟨(([], key), item) :: more, fun member hmem => ?_, ?_, ?_⟩
      · rcases List.mem_cons.1 hmem with rfl | hmem
        · rfl
        · exact hpaths member hmem
      · rw [List.map_cons, hkey, hitem, hmore]
      · rw [readMembers, hone]
        change (readMembers read fuel (' ' :: _) >>= fun _ => _) = _
        rw [hrest]
        -- A comma without a member behind it would be given back.
        cases more with
        | nil => exact absurd hmore.symm hmembers
        | cons => rfl

/-- Members with names of their own become entries, one after the other. -/
theorem foldlM_assign {t : Table} (hdotted : t.isDotted = false)
    {taken : List ((List Key × Key) × Item)} (hpaths : ∀ member ∈ taken, member.1.1 = [])
    (hnames : (t.names ++ taken.map fun member => member.1.2.name).Nodup) :
    ∃ u, t.Grows u (taken.map fun member => (member.1.2.name, member.2.toJson))
      ∧ taken.foldlM
          (fun table ((path, key), item) => Table.assign true none path key item table) t =
        .ok u := by
  induction taken generalizing t with
  | nil => exact ⟨t, .refl t, rfl⟩
  | cons member taken ih =>
    obtain ⟨⟨path, key⟩, item⟩ := member
    obtain rfl : path = [] := hpaths _ List.mem_cons_self
    have hkey : key.name ∉ t.names := Table.not_mem_names_of_nodup hnames
    -- A name that is new and not dotted cannot clash with anything.
    have hassign : Table.assign true none [] key item t = .ok (t.push key item) := by
      rw [Table.assign]
      change (if (t.isDotted == true) = true then _
        else if (t.find? key.name).isSome = true then _ else _) = _
      rw [hdotted, Table.find?_eq_none_iff.2 hkey]
      rfl
    obtain ⟨u, hu, hfold⟩ := ih (t := t.push key item) hdotted
      (fun member hmem => hpaths member (List.mem_cons_of_mem _ hmem))
      (by rw [Table.names_push, List.append_assoc]; exact hnames)
    refine ⟨u, (Table.grows_push t key item).trans hu, ?_⟩
    rw [List.foldlM_cons]
    change (Table.assign true none [] key item t >>= fun _ => _) = _
    rw [hassign]
    exact hfold

/-- A table without members is read behind its opening brace. -/
theorem readInlineTable_empty (rest : List Char) :
    ∃ t, Table.toJson t = .object [] ∧ readInlineTable read ('\x7d' :: rest) = .ok (t, rest) := by
  have hname : Softly (readName (skipBlanks ('\x7d' :: rest))) := softly_failAt _
  have hkey : Softly (readKey ('\x7d' :: rest)) := ((hname.bind _).labelled "key").bind _
  -- No key begins with the closing brace; as that is a soft failure, there just are no members.
  obtain ⟨f, hf, hsoft⟩ : Softly (readAssignment read ('\x7d' :: rest)) := hkey.bind _
  refine ⟨⟨false, false, none, []⟩, rfl, ?_⟩
  rw [readInlineTable, readMembers, hf]
  dsimp only
  rw [if_pos hsoft]
  rfl

/-- A table with members is read behind its opening brace. -/
theorem readInlineTable_writeMembers {members : Json.Members} (hne : members ≠ [])
    (h : ∀ member ∈ members, Expressible member.2 ∧ Reads read member.2)
    (hordered : (members.map Prod.fst).Pairwise (· < ·)) (rest : List Char) :
    ∃ t, Table.toJson t = .object members
      ∧ readInlineTable read
          (' ' :: (separateItems (writeMembers members) ++ ' ' :: '\x7d' :: rest)) =
        .ok (t, rest) := by
  have hfuel : members.length ≤
      (' ' :: (separateItems (writeMembers members) ++ ' ' :: '\x7d' :: rest)).length + 1 := by
    have hlength := length_le_separateItems (writeMembers members)
    rw [writeMembers_eq_map, List.length_map, ← writeMembers_eq_map] at hlength
    rw [List.length_cons, List.length_append]
    omega
  have hskip := skipBlanks_writeMembers hne (' ' :: '\x7d' :: rest)
  obtain ⟨taken, hpaths, htaken, hread⟩ := readMembers_writeMembers hne h hfuel hskip
  have hnames : taken.map (fun member => member.1.2.name) = members.map Prod.fst := by
    rw [← htaken, List.map_map]
    rfl
  obtain ⟨t, ht, hfold⟩ := foldlM_assign (t := ⟨false, false, none, []⟩) rfl hpaths
    (hnames ▸ Json.nodup_of_ordered hordered)
  have hmembers : entriesToJson t.entries = members := (ht.members ⟨rfl, rfl⟩).trans htaken
  refine ⟨t, Table.toJson_of_perm (by rw [hmembers]) hordered, ?_⟩
  rw [readInlineTable, hread]
  dsimp only [bind, Except.bind]
  rw [inlineTable, hfold]
  rfl

end

/-! ## Values -/

/-- A written text is read back. -/
theorem readScalar_writeText (text : List Char) {rest : List Char} (hrest : Stops rest) :
    readScalar (writeText text ++ rest) = .ok (.string (String.ofList text), rest) := by
  have hunquoted : Unquoted rest := by
    have hstops : ∀ c ∈ stops, c ≠ '"' ∧ c ≠ '\'' := by simp [stops]
    obtain ⟨c, tail, rfl, hc⟩ := hrest
    rintro _ ⟨⟩
    exact hstops c hc
  have hread := readText_writeText text hunquoted
  obtain ⟨c, tail, htext, hc⟩ := writeText_eq_cons text
  rw [htext, List.cons_append] at hread ⊢
  rw [readScalar, if_pos (by simpa using hc), hread]
  rfl

theorem readScalar_integerDigits {i : Int}
    (hi : -0x8000000000000000 ≤ i ∧ i < 0x8000000000000000) {rest : List Char}
    (hrest : Stops rest) : readScalar (integerDigits i ++ rest) = .ok (.integer i, rest) := by
  have hread := readNumeral_integerDigits hi.1 hi.2 hrest
  obtain ⟨c, tail, hdigits, hc⟩ := integerDigits_eq_cons i
  have hquote : c ≠ '"' ∧ c ≠ '\'' := by
    rcases hc with rfl | hc
    · decide
    · exact ⟨ne_of_isDigit hc rfl, ne_of_isDigit hc rfl⟩
  rw [hdigits, List.cons_append] at hread ⊢
  rw [readScalar, if_neg (by simpa using hquote), if_pos ?_, hread]
  rcases hc with rfl | hc
  · rfl
  · rw [hc, Bool.or_true]

theorem readScalar_bool (b : Bool) (rest : List Char) :
    readScalar (writeValue (.bool b) ++ rest) = .ok (.boolean b, rest) := by
  cases b <;> rfl

/-- What opens no array and no table is a scalar, at any depth. -/
theorem readValue_of_readScalar {text tail rest : List Char} {c : Char} (htext : text = c :: tail)
    (hc : c ≠ '[' ∧ c ≠ '\x7b') {node : Node} (h : readScalar (text ++ rest) = .ok (node, rest))
    (depth : Nat) :
    readValue depth (text ++ rest) = .ok (⟨node, some (between (text ++ rest) rest)⟩, rest) := by
  subst htext
  rw [List.cons_append] at h ⊢
  unfold readValue
  split
  next heq => exact absurd (List.cons.inj heq).1 hc.1
  next heq => exact absurd (List.cons.inj heq).1 hc.2
  next heq => exact absurd (List.cons.inj heq).1 hc.1
  next heq => exact absurd (List.cons.inj heq).1 hc.2
  next =>
    rw [h]
    rfl

/-- **A value is read where it was written**, if there is room for the depth of it. -/
theorem reads_writeValue {value : Json} (hvalue : Expressible value) (hordered : value.IsOrdered)
    {depth : Nat} (hdepth : value.depth ≤ depth) : Reads (readValue depth) value := by
  induction value using Json.containers generalizing depth with
  | null => exact absurd rfl (hvalue _ .here).1
  | bool b =>
    intro rest _
    obtain ⟨c, tail, htext, hc⟩ :
        ∃ c tail, writeValue (.bool b) = c :: tail ∧ c ≠ '[' ∧ c ≠ '\x7b' := by
      cases b <;> exact ⟨_, _, rfl, by decide⟩
    exact ⟨_, rfl, readValue_of_readScalar htext hc (readScalar_bool b rest) depth⟩
  | integer i =>
    intro rest hrest
    obtain ⟨c, tail, hdigits, hc⟩ := integerDigits_eq_cons i
    have hne : c ≠ '[' ∧ c ≠ '\x7b' := by
      rcases hc with rfl | hc
      · decide
      · exact ⟨ne_of_isDigit hc rfl, ne_of_isDigit hc rfl⟩
    exact ⟨_, rfl, readValue_of_readScalar hdigits hne
      (readScalar_integerDigits ((hvalue _ .here).2.2 i rfl) hrest) depth⟩
  | float x => exact absurd rfl ((hvalue _ .here).2.1 x)
  | string s =>
    intro rest hrest
    obtain ⟨c, tail, htext, hc⟩ := writeText_eq_cons s.toList
    have hne : c ≠ '[' ∧ c ≠ '\x7b' := by rcases hc with rfl | rfl <;> decide
    refine ⟨_, ?_, readValue_of_readScalar htext hne (readScalar_writeText s.toList hrest) depth⟩
    exact congrArg Json.string String.ofList_toList
  | array items ih =>
    intro rest _
    obtain ⟨depth, rfl⟩ := Nat.exists_eq_add_one.2 (Nat.lt_of_lt_of_le (Nat.succ_pos _) hdepth)
    obtain ⟨taken, htaken, hread⟩ := readArray_writeItems (fun item hmem =>
      ⟨hvalue.item hmem, ih item hmem (hvalue.item hmem) (hordered.item hmem)
        (Json.depth_item_le hmem hdepth)⟩) rest
    have htext : writeValue (.array items) ++ rest =
        '[' :: (separateItems (writeItems items) ++ ']' :: rest) := by
      rw [writeValue, List.cons_append, List.cons_append, List.append_assoc]
      rfl
    refine ⟨⟨.array taken, some (between (writeValue (.array items) ++ rest) rest)⟩,
      congrArg Json.array htaken, ?_⟩
    rw [htext, readValue]
    change (readArray (readValue depth) (separateItems (writeItems items) ++ _) >>= fun _ => _) = _
    rw [hread]
    rfl
  | object members ih =>
    intro rest _
    obtain ⟨depth, rfl⟩ := Nat.exists_eq_add_one.2 (Nat.lt_of_lt_of_le (Nat.succ_pos _) hdepth)
    have hmembers : ∀ member ∈ members,
        Expressible member.2 ∧ Reads (readValue depth) member.2 := fun member hmem =>
      ⟨hvalue.member hmem, ih member hmem (hvalue.member hmem) (hordered.member hmem)
        (Json.depth_member_le hmem hdepth)⟩
    -- Nothing stands between the braces of an object without members, not even a blank.
    obtain ⟨text, htext, t, ht, hread⟩ : ∃ text,
        writeValue (.object members) ++ rest = '\x7b' :: text
          ∧ ∃ t, Table.toJson t = .object members
            ∧ readInlineTable (readValue depth) text = .ok (t, rest) := by
      by_cases hne : members = []
      · subst hne
        exact ⟨_, rfl, readInlineTable_empty rest⟩
      · refine ⟨_, ?_, readInlineTable_writeMembers hne hmembers (hordered _ .here members rfl) rest⟩
        rw [writeValue, List.append_assoc, List.append_assoc]
        · rfl
        · exact hne
    refine ⟨⟨.inlineTable t, some (between (writeValue (.object members) ++ rest) rest)⟩, ht, ?_⟩
    rw [htext, readValue]
    change (readInlineTable (readValue depth) text >>= fun _ => _) = _
    rw [hread]
    rfl

end QueryLint.Toml
