import QueryLint.Proofs.Config.Field

/-!
# Configuration documents

A configuration document is an object, and its members may come in any order and stand among others.
Member by member a field is filled in, or the member is passed over (`readField_step`), so all that
counts of a document is what stands under the names of fields (`Loads`): where no field is named twice,
a document is read as a configuration exactly if each of its fields is one (`parseJson_eq_ok_iff`).
-/

namespace QueryLint.Config

open Json

/-! ## Filling in fields -/

/-- The names of fields. -/
def isField (name : String) : Bool :=
  name == "dialect" || name == "ignorePatterns" || name == "rules"

/-- What a member with a name and the text of a value makes of a draft. -/
def fieldStep (name : String) (value : List Char) (draft : Draft) : Option Draft :=
  if name = "dialect" then
    if draft.dialect.isSome then none
    else (taken readDialect value).map fun dialect => { draft with dialect := some dialect }
  else if name = "ignorePatterns" then
    if draft.ignorePatterns.isSome then none
    else (taken readPatterns value).map fun patterns => { draft with ignorePatterns := some patterns }
  else if name = "rules" then
    if draft.rules.isSome then none
    else (taken readRules value).map fun rules => { draft with rules := some rules }
  else some draft

theorem toOption_repeated {α : Type} (name : String) (text : List Char) :
    (repeated (α := α) name text).toOption = none := by
  rw [repeated]
  rfl

/-- A member that is a field fills it in, unless it was filled in before. -/
theorem toOption_field {α : Type} {read : List Char → Reading (α × List Char)}
    {value between middle rest : List Char} (hskips : SkipsBlanks read)
    (hread : ∃ result, Reads read value result) (name : String) (isSome : Bool) (put : α → Draft)
    (hbetween : Blanks between) (hmiddle : Blanks middle) (hrest : Ends rest) :
    (if isSome then repeated name (between ++ ':' :: (middle ++ (value ++ rest))) else do
        let text ← readColon (between ++ ':' :: (middle ++ (value ++ rest)))
        let (x, text) ← read text
        .ok (put x, text)).toOption =
      (if isSome then none else (taken read value).map put).map (·, rest) := by
  cases isSome with
  | true => exact toOption_repeated name _
  | false => exact toOption_colon hskips (reads_taken hread) put hbetween hmiddle hrest

/-- A member fills in a field, or it is passed over. -/
theorem readField_step {n : Nat} {value between middle rest : List Char} (hvalue : IsValue n value)
    (hn : n ≤ maxDepth - 2) (name : String) (draft : Draft) (hbetween : Blanks between)
    (hmiddle : Blanks middle) (hrest : Ends rest) :
    (readField draft name (between ++ ':' :: (middle ++ (value ++ rest)))).toOption =
      (fieldStep name value draft).map (·, rest) := by
  rw [fieldStep]
  by_cases hdialect : name = "dialect"
  · subst hdialect
    rw [readField, if_pos rfl]
    exact toOption_field skipsBlanks_readDialect (exists_reads_readDialect hvalue) _ _
      (fun dialect => { draft with dialect := some dialect }) hbetween hmiddle hrest
  by_cases hpatterns : name = "ignorePatterns"
  · subst hpatterns
    rw [readField, if_neg hdialect, if_pos rfl]
    exact toOption_field skipsBlanks_readPatterns (exists_reads_readPatterns hvalue) _ _
      (fun patterns => { draft with ignorePatterns := some patterns }) hbetween hmiddle hrest
  by_cases hrules : name = "rules"
  · subst hrules
    rw [readField, if_neg hdialect, if_neg hpatterns, if_pos rfl]
    exact toOption_field skipsBlanks_readRules (exists_reads_readRules hvalue hn) _ _
      (fun rules => { draft with rules := some rules }) hbetween hmiddle hrest
  · rw [readField, if_neg hdialect, if_neg hpatterns, if_neg hrules, readColon_gap hbetween, ok_bind,
      skipValue_gap hmiddle hvalue hrest]
    · rfl
    all_goals assumption

/-- A reader takes the value of a member that is there, if the field was not filled in before; without
the member the field stays as it was. -/
def Fills {α : Type} (read : List Char → Reading (α × List Char)) :
    Option (List Char) → Option α → Option α → Prop
  | none, old, new => new = old
  | some value, old, new => old = none ∧ ∃ x, taken read value = some x ∧ new = some x

/-- Members make of one draft another one. -/
structure FillsIn (members : List (String × List Char)) (old new : Draft) : Prop where
  dialect : Fills readDialect (members.lookup "dialect") old.dialect new.dialect
  ignorePatterns :
    Fills readPatterns (members.lookup "ignorePatterns") old.ignorePatterns new.ignorePatterns
  rules : Fills readRules (members.lookup "rules") old.rules new.rules

variable {members members' : List (String × List Char)} {name : String} {value : List Char}
  {draft last : Draft}

theorem fillsIn_nil : FillsIn [] draft last ↔ last = draft := by
  constructor
  · rintro ⟨hdialect, hpatterns, hrules⟩
    obtain ⟨_, _, _⟩ := last
    obtain rfl : _ = draft.dialect := hdialect
    obtain rfl : _ = draft.ignorePatterns := hpatterns
    obtain rfl : _ = draft.rules := hrules
    rfl
  · rintro rfl
    exact ⟨rfl, rfl, rfl⟩

/-- A value that a reader takes is put where nothing was. -/
theorem put_eq_some_iff {α : Type} {read : List Char → Reading (α × List Char)} {old : Option α}
    {put : α → Draft} :
    (if old.isSome then none else (taken read value).map put) = some last ↔
      old = none ∧ ∃ x, taken read value = some x ∧ put x = last := by
  cases old with
  | some x => simp
  | none => simp

/-- One member fills in its field. -/
theorem fieldStep_eq_some_iff :
    fieldStep name value draft = some last ↔ FillsIn [(name, value)] draft last := by
  obtain ⟨dialect, patterns, rules⟩ := last
  have hfills : FillsIn [(name, value)] draft ⟨dialect, patterns, rules⟩ ↔
      Fills readDialect (if "dialect" = name then some value else none) draft.dialect dialect
        ∧ Fills readPatterns (if "ignorePatterns" = name then some value else none)
          draft.ignorePatterns patterns
        ∧ Fills readRules (if "rules" = name then some value else none) draft.rules rules := by
    have hlookup : ∀ field, List.lookup field [(name, value)] =
        if field = name then some value else none := fun field => Entries.lookup_cons _ _ _
    rw [← hlookup, ← hlookup, ← hlookup]
    exact ⟨fun h => ⟨h.dialect, h.ignorePatterns, h.rules⟩, fun h => ⟨h.1, h.2.1, h.2.2⟩⟩
  rw [hfills, fieldStep]
  by_cases hdialect : name = "dialect"
  · subst hdialect
    simp only [if_true, String.reduceEq, if_false, put_eq_some_iff, Fills, Draft.mk.injEq]
    grind
  by_cases hpatterns : name = "ignorePatterns"
  · subst hpatterns
    simp only [if_true, String.reduceEq, if_false, put_eq_some_iff, Fills, Draft.mk.injEq]
    grind
  by_cases hrules : name = "rules"
  · subst hrules
    simp only [if_true, String.reduceEq, if_false, put_eq_some_iff, Fills, Draft.mk.injEq]
    grind
  · obtain ⟨_, _, _⟩ := draft
    simp only [hdialect, hpatterns, hrules, Ne.symm hdialect, Ne.symm hpatterns, Ne.symm hrules,
      if_false, Fills, Option.some.injEq, Draft.mk.injEq]
    grind

/-- The first of some members with distinct names is either the one that a field is filled from, or it
has nothing to do with it. -/
theorem fills_cons {α : Type} {read : List Char → Reading (α × List Char)} {old new : Option α}
    (hname : name ∉ members.map Prod.fst) (field : String) :
    Fills read (((name, value) :: members).lookup field) old new ↔
      ∃ middle, Fills read (List.lookup field [(name, value)]) old middle
        ∧ Fills read (members.lookup field) middle new := by
  rw [Entries.lookup_cons, Entries.lookup_cons]
  by_cases hfield : field = name
  · have hnone : members.lookup field = none := by
      rw [List.lookup_eq_none_iff]
      intro entry hmem
      have hne : name ≠ entry.1 := fun heq => hname (heq ▸ List.mem_map_of_mem hmem)
      rw [hfield]
      exact bne_iff_ne.2 hne
    rw [if_pos hfield, if_pos hfield, hnone]
    simp only [Fills, exists_eq_right']
  · rw [if_neg hfield, if_neg hfield]
    simp only [List.lookup_nil, Fills, exists_eq_left]

/-- The first of some members comes before the others. -/
theorem fillsIn_cons (hname : name ∉ members.map Prod.fst) :
    FillsIn ((name, value) :: members) draft last ↔
      ∃ next, FillsIn [(name, value)] draft next ∧ FillsIn members next last := by
  constructor
  · rintro ⟨hdialect, hpatterns, hrules⟩
    obtain ⟨dialect, hdialect, hdialect'⟩ := (fills_cons hname _).1 hdialect
    obtain ⟨patterns, hpatterns, hpatterns'⟩ := (fills_cons hname _).1 hpatterns
    obtain ⟨rules, hrules, hrules'⟩ := (fills_cons hname _).1 hrules
    exact ⟨⟨dialect, patterns, rules⟩, ⟨hdialect, hpatterns, hrules⟩,
      ⟨hdialect', hpatterns', hrules'⟩⟩
  · rintro ⟨next, hfirst, hrest⟩
    exact ⟨(fills_cons hname _).2 ⟨_, hfirst.dialect, hrest.dialect⟩,
      (fills_cons hname _).2 ⟨_, hfirst.ignorePatterns, hrest.ignorePatterns⟩,
      (fills_cons hname _).2 ⟨_, hfirst.rules, hrest.rules⟩⟩

/-- Members of different names fill in their fields, in whatever order they come. -/
theorem foldlM_fieldStep (hnodup : (members.map Prod.fst).Nodup) :
    members.foldlM (fun draft member => fieldStep member.1 member.2 draft) draft = some last ↔
      FillsIn members draft last := by
  induction members generalizing draft with
  | nil =>
    rw [fillsIn_nil, List.foldlM_nil]
    exact ⟨fun h => (Option.some.inj h).symm, fun h => h ▸ rfl⟩
  | cons member members ih =>
    obtain ⟨name, value⟩ := member
    rw [List.map_cons, List.nodup_cons] at hnodup
    rw [List.foldlM_cons, Option.bind_eq_bind, Option.bind_eq_some_iff, fillsIn_cons hnodup.1]
    simp only [fieldStep_eq_some_iff, ih hnodup.2]

/-- Members of other names are passed over. -/
theorem foldlM_filter_isField (draft : Draft) :
    members.foldlM (fun draft member => fieldStep member.1 member.2 draft) draft =
      (members.filter fun member => isField member.1).foldlM
        (fun draft member => fieldStep member.1 member.2 draft) draft := by
  rw [List.foldlM_filter]
  congr
  funext draft member
  split
  next => rfl
  next h =>
    simp only [isField, Bool.or_eq_true, beq_iff_eq, not_or] at h
    rw [fieldStep, if_neg h.1.1, if_neg h.1.2, if_neg h.2]
    rfl

/-! ## Documents -/

/-- The draft that the members of a document make up. -/
theorem toOption_readConfig {n : Nat} {before object : List Char} (hbefore : Blanks before)
    (h : IsObject n members object) (hn : n ≤ maxDepth - 2) (rest : List Char) :
    (readConfig (before ++ (object ++ rest))).toOption =
      ((members.foldlM (fun draft member => fieldStep member.1 member.2 draft) {}).bind
        Draft.config?).map (·, rest) := by
  obtain ⟨entries, body, rfl, hmembered, hentries, hkeys, hvalues⟩ := h.exists_membered
  have htakes : ∀ entry ∈ entries, Takes readField entry fun draft =>
      (taken readString entry.1).bind fun name => fieldStep name entry.2 draft :=
    fun entry hmem => takes_of_key (hkeys entry hmem)
      fun name draft between middle rest hbetween hmiddle hrest =>
        readField_step (hvalues entry hmem) hn name draft hbetween hmiddle hrest
  have hdraft := readMembers_membered htakes hmembered (hmembered.lt_fuel rest) {} rest
  rw [foldlM_spells hentries] at hdraft
  rw [readConfig, List.cons_append, skipSpaces_gap hbefore rfl]
  change (readMembers readField true _ {} (body ++ rest) >>= fun _ => _).toOption = _
  rw [toOption_bind, hdraft]
  cases members.foldlM (fun draft member => fieldStep member.1 member.2 draft) {} with
  | none => rfl
  | some draft =>
    rw [Option.map_some, Option.bind_some, Option.bind_some]
    dsimp only
    cases draft.config? <;> rfl

/-- To tell a fault by a message makes no difference to what is read. -/
theorem toOption_parseJson_eq (text : String) :
    (parseJson text).toOption = (ofJsonText text).toOption := by
  rw [parseJson]
  cases ofJsonText text <;> rfl

/-- A document is read member by member. -/
theorem toOption_parseJson {n : Nat} {text : String} (h : IsDocument n members text)
    (hn : n ≤ maxDepth - 2) :
    (parseJson text).toOption =
      (members.foldlM (fun draft member => fieldStep member.1 member.2 draft) {}).bind
        Draft.config? := by
  obtain ⟨hbefore, hbehind, hobject⟩ := h
  rw [toOption_parseJson_eq, ofJsonText, String.toList_ofList, toOption_bind,
    toOption_readConfig hbefore hobject hn]
  cases (members.foldlM (fun draft member => fieldStep member.1 member.2 draft) {}).bind
    Draft.config? with
  | none => rfl
  | some config =>
    rw [Option.map_some, Option.bind_some]
    dsimp only
    rw [readEnd_blanks hbehind, ok_bind]
    rfl

/-- What a configuration holds for a field: what the value of its member is read as, or else what holds
where there is no such member. -/
def Holds {α : Type} (read : List Char → Reading (α × List Char)) (standard : α) :
    Option (List Char) → α → Prop
  | none, x => x = standard
  | some value, x => taken read value = some x

/-- Members of a document are those of a configuration: each field is what its member says. -/
structure Loads (members : List (String × List Char)) (config : Config) : Prop where
  dialect : Holds readDialect none (members.lookup "dialect") config.dialect?
  ignorePatterns : Holds readPatterns [] (members.lookup "ignorePatterns") config.ignorePatterns
  rules : ∃ value, members.lookup "rules" = some value ∧ taken readRules value = some config.rules

/-- A field that is filled in from nothing holds what its member says. -/
theorem fills_none {α : Type} {read : List Char → Reading (α × List Char)} {found : Option (List Char)}
    {new : Option α} {standard x : α} (h : Fills read found none new)
    (hx : new.getD standard = x) : Holds read standard found x := by
  cases found with
  | none => exact hx.symm.trans (by rw [show new = none from h]; rfl)
  | some value =>
    obtain ⟨-, y, hy, rfl⟩ := h
    exact hy.trans (congrArg some hx)

/-- A field with a value that can be read is filled in with it. -/
theorem exists_fills {α : Type} {read : List Char → Reading (α × List Char)}
    {found : Option (List Char)} {standard x : α} (h : Holds read standard found x) :
    ∃ new, Fills read found none new ∧ new.getD standard = x := by
  cases found with
  | none => exact ⟨none, rfl, h.symm⟩
  | some value => exact ⟨some x, ⟨rfl, x, h, rfl⟩, rfl⟩

/-- The fields that members fill in make up a configuration if the rules are among them. -/
theorem loads_iff {config : Config} :
    Loads members config ↔ ∃ last, FillsIn members {} last ∧ last.config? = some config := by
  constructor
  · rintro ⟨hdialect, hpatterns, value, hfound, hrules⟩
    obtain ⟨dialect, hdialect, heq⟩ := exists_fills hdialect
    obtain ⟨patterns, hpatterns, heq'⟩ := exists_fills hpatterns
    refine ⟨⟨dialect, patterns, some config.rules⟩, ⟨hdialect, hpatterns, ?_⟩, ?_⟩
    · rw [hfound]
      exact ⟨rfl, _, hrules, rfl⟩
    · rw [Draft.config?, Option.map_some, heq, heq']
  · rintro ⟨last, ⟨hdialect, hpatterns, hrules⟩, hconfig⟩
    obtain ⟨rules, hlast, rfl⟩ := Option.map_eq_some_iff.1 hconfig
    refine ⟨fills_none hdialect rfl, fills_none hpatterns rfl, ?_⟩
    rw [hlast] at hrules
    cases hfound : members.lookup "rules" with
    | none =>
      rw [hfound] at hrules
      cases hrules
    | some value =>
      rw [hfound] at hrules
      obtain ⟨-, x, hx, heq⟩ := hrules
      exact ⟨value, rfl, hx.trans heq.symm⟩

/-- All that counts is what stands under the names of fields. -/
theorem Loads.congr {config : Config}
    (hlookup : ∀ field, isField field = true → members.lookup field = members'.lookup field)
    (h : Loads members config) : Loads members' config := by
  obtain ⟨hdialect, hpatterns, hrules⟩ := h
  rw [hlookup _ (by decide)] at hdialect hpatterns hrules
  exact ⟨hdialect, hpatterns, hrules⟩

/-- Members of other names do not count. -/
theorem loads_filter_isField {config : Config} :
    Loads (members.filter fun member => isField member.1) config ↔ Loads members config := by
  have hlookup : ∀ field, isField field = true →
      (members.filter fun member => isField member.1).lookup field = members.lookup field :=
    fun field hfield => Entries.lookup_filter isField hfield members
  exact ⟨.congr hlookup, .congr fun field hfield => (hlookup field hfield).symm⟩

/-- Nor does the order of the others. -/
theorem loads_perm {config : Config} (hperm : members.Perm members')
    (hnodup : (members.map Prod.fst).Nodup) : Loads members config ↔ Loads members' config :=
  ⟨.congr fun field _ => Entries.lookup_perm hperm hnodup field,
    .congr fun field _ => (Entries.lookup_perm hperm hnodup field).symm⟩

/-- **A document is the configuration that its fields are**, if none of them is there twice. -/
theorem parseJson_eq_ok_iff {n : Nat} {text : String} {config : Config}
    (h : IsDocument n members text) (hn : n ≤ maxDepth - 2)
    (hnodup : ((members.filter fun member => isField member.1).map Prod.fst).Nodup) :
    parseJson text = .ok config ↔ Loads members config := by
  rw [← toOption_eq_some_iff, toOption_parseJson h hn, foldlM_filter_isField,
    Option.bind_eq_some_iff, ← loads_filter_isField, loads_iff]
  simp only [foldlM_fieldStep hnodup]

/-- A field holds something if its member, where there is one, has a value of the right kind. -/
theorem exists_holds_iff {α : Type} {read : List Char → Reading (α × List Char)} {standard : α}
    (hnodup : (members.map Prod.fst).Nodup)
    (hread : ∀ value, (name, value) ∈ members → Reads read value (taken read value)) :
    (∃ x, Holds read standard (members.lookup name) x) ↔
      ∀ value, (name, value) ∈ members → ∃ x, read value = .ok (x, []) := by
  simp only [← Entries.lookup_eq_some_iff_mem hnodup] at hread ⊢
  cases hfound : members.lookup name with
  | none => simp [Holds]
  | some value =>
    simp only [Option.some.injEq, forall_eq', (hread value hfound).eq_ok_iff]
    rfl

/-- **Order, other members and repeated rules.** A document is read alike in whatever order its members
come, and whatever members there are among them that are no fields, be it as a configuration or not at
all; without rules it never is one. A rule that is named more than once stands where it was named first
and has the setting that it was given last, and repeating it does not keep the document from being read:
that lies in the values of the fields alone. -/
theorem parseJson_document {text : String} (h : IsDocument 64 members text)
    (hdistinct : (members.map Prod.fst).Nodup) :
    (∀ members' text', IsDocument 64 members' text' →
        (members'.filter fun member => isField member.1).Perm
          (members.filter fun member => isField member.1) →
        ∀ config, parseJson text' = .ok config ↔ parseJson text = .ok config)
      ∧ ("rules" ∉ members.map Prod.fst → ∀ config, parseJson text ≠ .ok config)
      ∧ ∀ value entries, ("rules", value) ∈ members → IsObject 63 entries value →
        (∀ config, parseJson text = .ok config →
          Settings.names config.rules = (entries.map Prod.fst).eraseDups
            ∧ ∀ name, config.setting? name =
              ((entries.reverse.lookup name).bind valueOf).map Setting.ofJson)
        ∧ ((∃ config, parseJson text = .ok config) ↔
          (∀ value, ("dialect", value) ∈ members → ∃ dialect, readDialect value = .ok (dialect, []))
            ∧ (∀ value, ("ignorePatterns", value) ∈ members →
              ∃ patterns, readPatterns value = .ok (patterns, []))
            ∧ ∀ entry ∈ entries, ∃ value, Json.parse (String.ofList entry.2) = .ok value) := by
  have hnodup : ((members.filter fun member => isField member.1).map Prod.fst).Nodup :=
    hdistinct.sublist (List.filter_sublist.map Prod.fst)
  have hloads : ∀ config, parseJson text = .ok config ↔ Loads members config :=
    fun config => parseJson_eq_ok_iff h (by decide) hnodup
  refine ⟨fun members' text' h' hperm config => ?_, fun hrules config hconfig => ?_,
    fun value entries hmem hobject => ?_⟩
  · rw [parseJson_eq_ok_iff h' (by decide) ((hperm.map Prod.fst).nodup_iff.2 hnodup), hloads]
    exact loads_filter_isField.symm.trans
      ((loads_perm hperm.symm hnodup).symm.trans loads_filter_isField)
  · obtain ⟨value, hfound, -⟩ := ((hloads config).1 hconfig).rules
    exact hrules (List.mem_map_of_mem ((Entries.lookup_eq_some_iff_mem hdistinct).1 hfound))
  · have hfound := (Entries.lookup_eq_some_iff_mem hdistinct).2 hmem
    have hsame : ∀ {value'}, members.lookup "rules" = some value' → value' = value :=
      fun h => Option.some.inj (h.symm.trans hfound)
    have hdialect : (∃ dialect, Holds readDialect none (members.lookup "dialect") dialect) ↔ _ :=
      exists_holds_iff hdistinct fun value hmem =>
        reads_taken (exists_reads_readDialect (h.isValue hmem))
    have hpatterns : (∃ patterns, Holds readPatterns [] (members.lookup "ignorePatterns") patterns)
        ↔ _ := exists_holds_iff hdistinct fun value hmem =>
      reads_taken (exists_reads_readPatterns (h.isValue hmem))
    have hrules := exists_taken_readRules_iff hobject (by decide)
    simp only [valueOf, toOption_eq_some_iff] at hrules
    refine ⟨fun config hconfig => ?_, ?_⟩
    · obtain ⟨value', hfound', htaken⟩ := ((hloads config).1 hconfig).rules
      obtain rfl := hsame hfound'
      exact rules_of_taken hobject (by decide) htaken
    · rw [← hdialect, ← hpatterns, ← hrules]
      constructor
      · rintro ⟨config, hconfig⟩
        obtain ⟨hdialect, hpatterns, value', hfound', htaken⟩ := (hloads config).1 hconfig
        obtain rfl := hsame hfound'
        exact ⟨⟨_, hdialect⟩, ⟨_, hpatterns⟩, ⟨_, htaken⟩⟩
      · rintro ⟨⟨dialect, hdialect⟩, ⟨patterns, hpatterns⟩, ⟨rules, htaken⟩⟩
        exact ⟨⟨dialect, patterns, rules⟩,
          (hloads _).2 ⟨hdialect, hpatterns, value, hfound, htaken⟩⟩

/-- A rule that is named twice, in a document by itself and behind a member that is no field, with a
number that is too large for a value. -/
theorem parseJson_document_repeated :
    let value := "\x7b\"a\":true,\"a\":\"error\"\x7d".toList
    let text := "\x7b\"rules\":\x7b\"a\":true,\"a\":\"error\"\x7d\x7d"
    let text' := "\x7b\"x\":1e999,\"rules\":\x7b\"a\":true,\"a\":\"error\"\x7d\x7d"
    IsDocument 64 [("rules", value)] text ∧ IsDocument 64 [("x", "1e999".toList), ("rules", value)] text'
      ∧ ∃ config, parseJson text = .ok config ∧ parseJson text' = .ok config
        ∧ Settings.names config.rules = ["a"] ∧ config.setting? "a" = some (.level "error") := by
  let entries := [("a", "true".toList), ("a", "\"error\"".toList)]
  have herror : IsQuoted "error\"".toList := (@Spells.of_plain "error".toList (by decide)).isQuoted
  have hentries : ∀ entry ∈ entries, IsValue 63 entry.2 :=
    List.forall_mem_cons.2 ⟨.true, List.forall_mem_singleton.2 (.string herror)⟩
  have hobject : IsObject 63 entries "\x7b\"a\":true,\"a\":\"error\"\x7d".toList :=
    .of_plain (by decide) hentries
      (.more .nil .nil .nil .nil (.last .nil .nil .nil .nil) : Membered
        [("a\"".toList, "true".toList), ("a\"".toList, "\"error\"".toList)] _)
  have hvalue := hobject.isValue
  have hnumber : IsValue 64 "1e999".toList :=
    .number (@IsUnsigned.intro ['1'] [] ['e', '9', '9', '9'] (.digits rfl (by decide) nofun) .none
      (@IsExponent.digits 'e' '9' [] ['9', '9'] (.inl rfl) (.inl rfl) rfl (by simp [Digits])))
  have hdocument := IsDocument.intro .nil .nil (@IsObject.of_plain 64 [("rules", _)] _ (by decide)
    (List.forall_mem_singleton.2 hvalue) (.last .nil .nil .nil .nil))
  have hdocument' := IsDocument.intro .nil .nil (@IsObject.of_plain 64 [("x", _), ("rules", _)] _
    (by decide) (List.forall_mem_cons.2 ⟨hnumber, List.forall_mem_singleton.2 hvalue⟩)
    (.more .nil .nil .nil .nil (.last .nil .nil .nil .nil)))
  obtain ⟨hsame, -, hrules⟩ := parseJson_document hdocument (by decide)
  obtain ⟨hsettings, hloads⟩ := hrules _ entries List.mem_cons_self hobject
  obtain ⟨config, hconfig⟩ := hloads.2 ⟨by simp, by simp,
    List.forall_mem_cons.2 ⟨⟨_, rfl⟩, List.forall_mem_singleton.2 ⟨_, rfl⟩⟩⟩
  obtain ⟨hnames, hsetting⟩ := hsettings config hconfig
  exact ⟨hdocument, hdocument', config, hconfig, (hsame _ _ hdocument' (.refl _) config).2 hconfig,
    hnames.trans (by decide), (hsetting "a").trans rfl⟩

end QueryLint.Config
