import QueryLint.Proofs.Json.Scalar
import QueryLint.Proofs.Json.Written

/-!
# Reading goes by the grammar

What is read of a container is put together from what is read of each of its parts, whatever reader
these have, and it fails if one of them does (`readItems_listed`, `readMembers_membered`); where its keys
spell names, the members of an object are gathered by these (`foldlM_spells`). So whether a value is
read, and what it is read as, lies in its text alone, and not in how deep it stands
(`readValue_reads`).
-/

namespace QueryLint.Json

variable {α σ : Type}

/-! ## Items -/

/-- What comes of the first of some items and of the others. -/
theorem toOption_readItems {read : List Char → Reading (α × List Char)} {before item tail : List Char}
    {result : Option α} (fuel : Nat) (hbefore : Blanks before) (hbegins : Begins item)
    (h : Reads read item result) (htail : Ends tail) :
    (readItems read true (fuel + 1) (before ++ (item ++ tail))).toOption =
      result.bind fun x =>
        (readItems read false fuel tail).toOption.map fun rest => (x :: rest.1, rest.2) := by
  obtain ⟨c, more, rfl, hc, hend⟩ := hbegins
  rw [List.cons_append, readItems_first read fuel hbefore hc hend, ← List.cons_append, h.bind htail]
  refine Option.bind_congr fun x _ => ?_
  rw [toOption_bind]
  cases (readItems read false fuel tail).toOption <;> rfl

/-- Items are read one by one, and all of them or none. -/
theorem readItems_listed {read : List Char → Reading (α × List Char)}
    {result : List Char → Option α} {items : List (List Char)} {text : List Char}
    (hbegins : ∀ item ∈ items, Begins item)
    (hread : ∀ item ∈ items, Reads read item (result item)) (h : Listed items text) {fuel : Nat}
    (hfuel : items.length < fuel) (rest : List Char) :
    (readItems read true fuel (text ++ rest)).toOption = (items.mapM result).map (·, rest) := by
  obtain ⟨fuel, rfl⟩ := Nat.exists_eq_add_one.2 (Nat.zero_lt_of_lt hfuel)
  induction h generalizing fuel with
  | none hgap =>
    rw [List.append_assoc, List.singleton_append, readItems, nextItem_end true hgap]
    rfl
  | @last item before behind hbefore hbehind =>
    obtain ⟨fuel, rfl⟩ := Nat.exists_eq_add_one.2
      (Nat.zero_lt_of_lt (Nat.lt_of_succ_lt_succ hfuel))
    simp only [List.append_assoc, List.singleton_append]
    rw [toOption_readItems _ hbefore (hbegins item List.mem_cons_self)
      (hread item List.mem_cons_self) (.gap hbehind (.cons (by decide) rest)), readItems,
      nextItem_end false hbehind, List.mapM_cons, List.mapM_nil]
    cases result item <;> rfl
  | @more item next before behind others items hbefore hbehind hothers ih =>
    obtain ⟨fuel, rfl⟩ := Nat.exists_eq_add_one.2
      (Nat.zero_lt_of_lt (Nat.lt_of_succ_lt_succ hfuel))
    have hrest := ih (fun item hmem => hbegins item (List.mem_cons_of_mem _ hmem))
      (fun item hmem => hread item (List.mem_cons_of_mem _ hmem)) fuel (Nat.lt_of_succ_lt_succ hfuel)
    obtain ⟨between, more, rfl, hbetween⟩ := hothers.eq_append
    obtain ⟨c, letters, rfl, hc, hend⟩ := hbegins next (by simp)
    simp only [List.append_assoc, List.cons_append] at hrest ⊢
    rw [List.mapM_cons, toOption_readItems _ hbefore (hbegins item List.mem_cons_self)
      (hread item List.mem_cons_self) (.gap hbehind (.cons (by decide) _)),
      readItems_comma _ _ hbehind hbetween hc hend, hrest]
    cases result item with
    | none => rfl
    | some x => cases List.mapM result ((c :: letters) :: items) <;> rfl

/-! ## Members -/

theorem readColon_gap {gap : List Char} (hgap : Blanks gap) (rest : List Char) :
    readColon (gap ++ ':' :: rest) = .ok rest := by
  rw [readColon, skipSpaces_gap hgap rfl]
  rfl

/-- What a reader of single members makes of one of them: its key is read, and then what is behind the
colon, for the name and from the state so far. -/
def Takes (member : σ → String → List Char → Reading (σ × List Char))
    (entry : List Char × List Char) (step : σ → Option σ) : Prop :=
  ∀ state between middle rest, Blanks between → Blanks middle → Ends rest →
    (do let (name, text) ← readString
          (entry.1 ++ (between ++ ':' :: (middle ++ (entry.2 ++ rest))))
        member state name text).toOption = (step state).map (·, rest)

variable {member : σ → String → List Char → Reading (σ × List Char)}
  {step : List Char × List Char → σ → Option σ}

/-- What comes of the first of some members and of the others. -/
theorem toOption_readMembers {before key between middle value tail : List Char} (fuel : Nat)
    (state : σ) (h : Takes member (key, value) (step (key, value))) (hbefore : Blanks before)
    (hbetween : Blanks between) (hmiddle : Blanks middle) (htail : Ends tail) :
    (readMembers member true (fuel + 1) state
      (before ++ '"' :: (key ++ (between ++ ':' :: (middle ++ (value ++ tail)))))).toOption =
      (step (key, value) state).bind fun next =>
        (readMembers member false fuel next tail).toOption := by
  have hread := h state between middle tail hbetween hmiddle htail
  rw [readMembers_first fuel state hbefore, ← bind_assoc, toOption_bind]
  refine (congrArg (Option.bind · _) hread).trans ?_
  cases step (key, value) state <;> rfl

/-- Members are read one after the other, and all of them or none. -/
theorem readMembers_membered {entries : List (List Char × List Char)} {text : List Char}
    (hread : ∀ entry ∈ entries, Takes member entry (step entry)) (h : Membered entries text)
    {fuel : Nat} (hfuel : entries.length < fuel) (state : σ) (rest : List Char) :
    (readMembers member true fuel state (text ++ rest)).toOption =
      (entries.foldlM (fun state entry => step entry state) state).map (·, rest) := by
  obtain ⟨fuel, rfl⟩ := Nat.exists_eq_add_one.2 (Nat.zero_lt_of_lt hfuel)
  induction h generalizing fuel state with
  | none hgap =>
    rw [List.append_assoc, List.singleton_append, readMembers, nextKey_end true hgap]
    rfl
  | @last key value before between middle behind hbefore hbetween hmiddle hbehind =>
    obtain ⟨fuel, rfl⟩ := Nat.exists_eq_add_one.2
      (Nat.zero_lt_of_lt (Nat.lt_of_succ_lt_succ hfuel))
    simp only [List.append_assoc, List.cons_append, List.nil_append]
    rw [toOption_readMembers _ _ (hread _ List.mem_cons_self) hbefore hbetween hmiddle
      (.gap hbehind (.cons (by decide) rest)), List.foldlM_cons]
    cases step (key, value) state with
    | none => rfl
    | some next =>
      change (readMembers member false (fuel + 1) next _).toOption = _
      rw [readMembers, nextKey_end false hbehind]
      rfl
  | @more key value before between middle behind others next entries hbefore hbetween hmiddle hbehind
      hothers ih =>
    obtain ⟨fuel, rfl⟩ := Nat.exists_eq_add_one.2
      (Nat.zero_lt_of_lt (Nat.lt_of_succ_lt_succ hfuel))
    have hrest := fun state => ih (fun entry hmem => hread entry (List.mem_cons_of_mem _ hmem)) state
      fuel (Nat.lt_of_succ_lt_succ hfuel)
    obtain ⟨gap, more, rfl, hgap⟩ := hothers.eq_append
    simp only [List.append_assoc, List.cons_append] at hrest ⊢
    rw [toOption_readMembers _ _ (hread _ List.mem_cons_self) hbefore hbetween hmiddle
      (.gap hbehind (.cons (by decide) _)), List.foldlM_cons]
    cases step (key, value) state with
    | none => rfl
    | some next =>
      change (readMembers member false (fuel + 1) next _).toOption = _
      rw [readMembers_comma _ _ hbehind hgap]
      exact hrest next

/-- Blanks in front of what a reader takes do not count. -/
def SkipsBlanks (read : List Char → Reading (α × List Char)) : Prop :=
  ∀ gap text, Blanks gap → read (gap ++ text) = read text

/-- What a reader makes of a value is put where the member belongs. -/
theorem toOption_colon {read : List Char → Reading (α × List Char)} {value between middle rest : List Char}
    {result : Option α} (hskips : SkipsBlanks read) (h : Reads read value result) (put : α → σ)
    (hbetween : Blanks between) (hmiddle : Blanks middle) (hrest : Ends rest) :
    (do let text ← readColon (between ++ ':' :: (middle ++ (value ++ rest)))
        let (x, text) ← read text
        .ok (put x, text)).toOption = (result.map put).map (·, rest) := by
  rw [readColon_gap hbetween, ok_bind, hskips middle _ hmiddle]
  refine (h.bind hrest fun read => .ok (put read.1, read.2)).trans ?_
  cases result <;> rfl

/-- A member whose key is read for a name, if it is read at all. -/
theorem takes_of_key {entry : List Char × List Char} {step : String → σ → Option σ}
    (hkey : IsQuoted entry.1)
    (h : ∀ name state between middle rest, Blanks between → Blanks middle → Ends rest →
      (member state name (between ++ ':' :: (middle ++ (entry.2 ++ rest)))).toOption =
        (step name state).map (·, rest)) :
    Takes member entry fun state => (taken readString entry.1).bind fun name => step name state := by
  intro state between middle rest hbetween hmiddle hrest
  have hends : Ends (between ++ ':' :: (middle ++ (entry.2 ++ rest))) :=
    .gap hbetween (.cons (by decide) _)
  have hread := (reads_taken (exists_reads_readString hkey)).bind hends
    fun read => member state read.1 read.2
  refine hread.trans ?_
  cases taken readString entry.1 with
  | none => rfl
  | some name => exact h name state between middle rest hbetween hmiddle hrest

/-- Where keys spell names, members are gathered by their names. -/
theorem foldlM_spells {entries : List (List Char × List Char)} {members : List (String × List Char)}
    (h : List.Forall₂ (fun entry (member : String × List Char) =>
      Spells member.1.toList entry.1 ∧ entry.2 = member.2) entries members)
    (step : String → List Char → σ → Option σ) (state : σ) :
    entries.foldlM (fun state entry =>
        (taken readString entry.1).bind fun name => step name entry.2 state) state =
      members.foldlM (fun state member => step member.1 member.2 state) state := by
  induction h generalizing state with
  | nil => rfl
  | cons hentry _ ih =>
    obtain ⟨hkey, hvalue⟩ := hentry
    rw [List.foldlM_cons, List.foldlM_cons, (reads_spells hkey).taken_eq, Option.bind_some, hvalue]
    simp only [ih]

/-! ## Values -/

/-- Blanks before a value do not matter. -/
theorem skipsBlanks_readValue (depth : Nat) : SkipsBlanks (readValue depth) :=
  fun _ text hgap => readValue_gap depth hgap text

/-- The member of an object that is read as a value. -/
def readMember (depth : Nat) (members : Members) (name : String) (text : List Char) :
    Reading (Members × List Char) := do
  let text ← readColon text
  let (value, text) ← readValue depth text
  .ok (insertMember name value members, text)

theorem readValue_quote (depth : Nat) (text : List Char) :
    readValue depth ('"' :: text) =
      (readString text >>= fun read => .ok (Json.string read.1, read.2)) := by
  rw [readValue, skipSpaces_cons rfl]
  rfl

/-- A bracket opens a list, whose items may be one level less deep. -/
theorem readValue_array (depth : Nat) (text : List Char) :
    readValue (depth + 1) ('[' :: text) =
      (readItems (readValue depth) true (text.length + 1) text >>= fun read =>
        .ok (.array read.1, read.2)) := by
  rw [readValue, skipSpaces_cons rfl]
  rfl

/-- A brace opens an object, whose members may be one level less deep. -/
theorem readValue_brace (depth : Nat) (text : List Char) :
    readValue (depth + 1) ('\x7b' :: text) =
      (readMembers (readMember depth) true (text.length + 1) [] text >>= fun read =>
        .ok (.object read.1, read.2)) := by
  rw [readValue, skipSpaces_cons rfl]
  rfl

/-- Whether a value is read, and what it is read as, lies in its text, as long as there is depth enough
for it. -/
theorem exists_reads_readValue {n : Nat} {text : List Char} (h : IsValue n text) :
    ∃ result, ∀ depth, n ≤ depth → Reads (readValue depth) text result := by
  induction h with
  | null => exact ⟨some .null, fun depth _ rest _ => by rw [readValue]; rfl⟩
  | true => exact ⟨some (.bool true), fun depth _ rest _ => by rw [readValue]; rfl⟩
  | false => exact ⟨some (.bool false), fun depth _ rest _ => by rw [readValue]; rfl⟩
  | number h =>
    obtain ⟨result, hresult⟩ := exists_reads_readNumber false h
    obtain ⟨c, more, rfl, hc⟩ := h.eq_cons
    refine ⟨result, fun depth _ rest hrest => ?_⟩
    rw [List.cons_append, readValue_digit depth hc]
    exact hresult rest hrest
  | negative h =>
    obtain ⟨result, hresult⟩ := exists_reads_readNumber true h
    refine ⟨result, fun depth _ rest hrest => ?_⟩
    rw [List.cons_append, readValue]
    exact hresult rest hrest
  | string h =>
    obtain ⟨result, hresult⟩ := exists_reads_readString h
    refine ⟨result.map .string, fun depth _ rest hrest => ?_⟩
    rw [List.cons_append, readValue_quote, hresult.bind hrest]
    cases result <;> rfl
  | @array n items text h hitems ih =>
    choose! result hresult using ih
    refine ⟨(items.mapM result).map .array, fun depth hdepth rest _ => ?_⟩
    obtain ⟨depth, rfl⟩ := Nat.exists_eq_add_one.2 (Nat.zero_lt_of_lt hdepth)
    have hbegins := fun item hmem => (hitems item hmem).begins
    rw [List.cons_append, readValue_array, toOption_bind, readItems_listed hbegins
      (fun item hmem => hresult item hmem depth (Nat.le_of_succ_le_succ hdepth)) h
      (h.lt_fuel hbegins rest)]
    cases items.mapM result <;> rfl
  | @object n entries text h hkeys hvalues ih =>
    choose! value hvalue using ih
    let step (entry : List Char × List Char) (members : Members) : Option Members :=
      (taken readString entry.1).bind fun name =>
        (value entry).map fun value => insertMember name value members
    refine ⟨(entries.foldlM (fun members entry => step entry members) []).map .object,
      fun depth hdepth rest _ => ?_⟩
    obtain ⟨depth, rfl⟩ := Nat.exists_eq_add_one.2 (Nat.zero_lt_of_lt hdepth)
    have htakes : ∀ entry ∈ entries, Takes (readMember depth) entry (step entry) :=
      fun entry hmem => takes_of_key (hkeys entry hmem)
        fun name members between middle rest hbetween hmiddle hrest =>
          toOption_colon (skipsBlanks_readValue depth)
            (hvalue entry hmem depth (Nat.le_of_succ_le_succ hdepth))
            (insertMember name · members) hbetween hmiddle hrest
    rw [List.cons_append, readValue_brace, toOption_bind,
      readMembers_membered htakes h (h.lt_fuel rest)]
    cases entries.foldlM (fun members entry => step entry members) [] <;> rfl

/-- The value that a text writes, if it is read as one. -/
def valueOf (text : List Char) : Option Json :=
  (parse (String.ofList text)).toOption

/-- A value is read as what its text is by itself. -/
theorem readValue_reads {n depth : Nat} {text : List Char} (h : IsValue n text)
    (hdepth : n ≤ depth) (hmax : n ≤ maxDepth) : Reads (readValue depth) text (valueOf text) := by
  obtain ⟨result, hresult⟩ := exists_reads_readValue h
  have heq : valueOf text = result := by
    have hparse := (hresult maxDepth hmax).bind .nil fun read => do
      readEnd read.2
      .ok read.1
    rw [List.append_nil] at hparse
    rw [valueOf, parse, String.toList_ofList]
    refine hparse.trans ?_
    cases result <;> rfl
  rw [heq]
  exact hresult depth hdepth

end QueryLint.Json
