import Mathlib
import QueryLint.Proofs.Config.Canonical
import QueryLint.Proofs.Json.Written

/-!
# Configurations survive JSON

The reader of configurations takes the members of a written one in whatever order they come; what is
left out comes back as what it was left out for. `parseJson_compact` says that a configuration whose
settings are in their own form is read from its text as it was, with its rules in order.
-/

namespace QueryLint

open Json

namespace Dialect

/-- The name that a configuration is written with is one of those that it may use. -/
@[simp] theorem ofName?_configName (dialect : Dialect) :
    ofName? dialect.configName = some dialect := by
  cases dialect <;> decide

end Dialect

namespace Config

/-! ## The fields of a written configuration -/

/-- A text is read up to its end. -/
theorem readText_quote (expected s : String) (rest : List Char) :
    readText expected ('"' :: (s.toList.flatMap writeChar ++ '"' :: rest)) = .ok (s, rest) := by
  rw [readText, skipSpaces_cons rfl]
  exact readString_tail s rest

/-- A written string is read as a text. -/
theorem readText_written {expected s : String} {text rest : List Char}
    (h : Written (.string s) text) : readText expected (text ++ rest) = .ok (s, rest) := by
  cases h
  rw [writeString_append]
  exact readText_quote expected s rest

/-- The dialect is read from the name that it is written with. -/
theorem readDialect_written (dialect : Dialect) {middle text rest : List Char}
    (hmiddle : Blanks middle) (h : Written (.string dialect.configName) text) :
    readDialect (middle ++ (text ++ rest)) = .ok (some dialect, rest) := by
  have hname : ∀ rest, readDialectName "variant identifier"
      ('"' :: (dialect.configName.toList.flatMap writeChar ++ '"' :: rest)) = .ok (dialect, rest) := by
    intro rest
    rw [readDialectName, readText_quote]
    dsimp only [bind, Except.bind]
    rw [Dialect.ofName?_configName]
  cases h
  rw [writeString_append, readDialect, skipSpaces_gap hmiddle rfl]
  change (readDialectName _ _ >>= fun _ => _) = _
  rw [hname]
  rfl

/-- The patterns are read from the array that they are written as. -/
theorem readPatterns_written (patterns : List String) {middle text rest : List Char}
    (hmiddle : Blanks middle) (h : Written (.array (patterns.map Json.string)) text) :
    readPatterns (middle ++ (text ++ rest)) = .ok (patterns, rest) := by
  cases h with
  | @array _ text h =>
    have hitems := readItems_written (readText "a string") (fun value => value.string?.getD "")
      (fun value hmem text rest hvalue _ => by
        obtain ⟨s, -, rfl⟩ := List.mem_map.1 hmem
        exact readText_written hvalue)
      h (h.lt_fuel rest) rest
    rw [List.cons_append, readPatterns, skipSpaces_gap hmiddle rfl]
    refine hitems.trans ?_
    rw [List.map_map]
    exact congrArg (fun patterns => Except.ok (patterns, rest)) (List.map_id' patterns)

/-- The members that the settings of rules are written as. -/
def rulesToMembers (rules : Settings) : Members :=
  rules.map fun entry => (entry.1, entry.2.toJson)

/-- The settings are read from the object that they are written as, in order. -/
theorem readRules_written {config : Config} (hwell : config.WellFormed)
    (hcanonical : config.IsCanonical) (hdepth : config.ForValues fun value => value.depth ≤ 125)
    {middle text rest : List Char} (hmiddle : Blanks middle)
    (h : Written (.object (rulesToMembers config.rules)) text) :
    readRules (middle ++ (text ++ rest)) = .ok (config.rules, rest) := by
  cases h with
  | @object _ text h =>
    have hgathers : Gathers
        (fun (rules : Settings) name text => do
          let text ← readColon text
          let read ← readValue (maxDepth - 2) text
          .ok (Settings.set name (Setting.ofJson read.1) rules, read.2)) []
        (rulesToMembers config.rules)
        ((rulesToMembers config.rules).foldl (fun rules member =>
          Settings.set member.1 (Setting.ofJson member.2.sorted) rules) []) := by
      refine .foldl _ (fun name value hmem rules middle text rest hmiddle hvalue hrest => ?_) []
      obtain ⟨entry, hentry, heq⟩ := List.mem_map.1 hmem
      obtain ⟨rfl, rfl⟩ := Prod.mk.inj heq
      rw [readColon_cons]
      change (readValue 125 (middle ++ (text ++ rest)) >>= fun _ => _) = _
      rw [readValue_gap 125 hmiddle,
        readValue_written hvalue (hdepth entry hentry) (hwell.fits entry hentry) hrest]
      rfl
    -- What is read of the value of a setting is the setting itself.
    have hrules : (rulesToMembers config.rules).foldl (fun rules member =>
        Settings.set member.1 (Setting.ofJson member.2.sorted) rules) [] = config.rules := by
      have hset : ∀ (rules : Settings), ∀ entry ∈ config.rules,
          Settings.set entry.1 (Setting.ofJson entry.2.toJson.sorted) rules =
            Settings.set entry.1 entry.2 rules := by
        intro rules entry hentry
        rw [sorted_eq (hwell.ordered entry hentry), Setting.ofJson_toJson (hcanonical entry hentry)]
      rw [rulesToMembers, List.foldl_map]
      exact (List.foldl_ext _ _ [] hset).trans (Settings.foldl_set hwell.names)
    have hmembers := readMembers_written hgathers h (h.lt_fuel rest) rest
    rw [List.cons_append, readRules, skipSpaces_gap hmiddle rfl]
    rw [hrules] at hmembers
    exact hmembers

/-! ## The whole configuration -/

/-- The fields of a configuration as they are written: those that are standard are left out, except for
the rules. -/
theorem toMembers_eq (config : Config) :
    config.toMembers =
      (config.dialect?.map fun d => ("dialect", Json.string d.configName)).toList
        ++ ((if config.ignorePatterns.isEmpty then none
            else some ("ignorePatterns", Json.array (config.ignorePatterns.map Json.string))).toList
          ++ [("rules", Json.object (rulesToMembers config.rules))]) := by
  rw [← List.append_assoc]
  rfl

/-- A field that was not given before is filled in by its member. -/
theorem gathers_dialect {draft : Draft} (h : draft.dialect = none) (dialect : Dialect) :
    Gathers readField draft [("dialect", .string dialect.configName)]
      { draft with dialect := some (some dialect) } := by
  refine .cons (fun middle text rest hmiddle htext _ => ?_) (.nil _)
  rw [readField, h, Option.isSome_none, if_neg Bool.false_ne_true, readColon_cons]
  change (readDialect (middle ++ (text ++ rest)) >>= fun _ => _) = _
  rw [readDialect_written dialect hmiddle htext]
  rfl

/-- Written patterns fill in the field for patterns. -/
theorem gathers_patterns {draft : Draft} (h : draft.ignorePatterns = none)
    (patterns : List String) :
    Gathers readField draft [("ignorePatterns", .array (patterns.map .string))]
      { draft with ignorePatterns := some patterns } := by
  refine .cons (fun middle text rest hmiddle htext _ => ?_) (.nil _)
  rw [readField, h, Option.isSome_none, if_neg Bool.false_ne_true, readColon_cons]
  change (readPatterns (middle ++ (text ++ rest)) >>= fun _ => _) = _
  rw [readPatterns_written patterns hmiddle htext]
  rfl

/-- Written rules fill in the field for rules. -/
theorem gathers_rules {draft : Draft} (h : draft.rules = none) {config : Config}
    (hwell : config.WellFormed) (hcanonical : config.IsCanonical)
    (hdepth : config.ForValues fun value => value.depth ≤ 125) :
    Gathers readField draft [("rules", .object (rulesToMembers config.rules))]
      { draft with rules := some config.rules } := by
  refine .cons (fun middle text rest hmiddle htext _ => ?_) (.nil _)
  rw [readField, h, Option.isSome_none, if_neg Bool.false_ne_true, readColon_cons]
  change (readRules (middle ++ (text ++ rest)) >>= fun _ => _) = _
  rw [readRules_written hwell hcanonical hdepth hmiddle htext]
  rfl

/-- The fields that a configuration is written with. -/
def toDraft (config : Config) : Draft where
  dialect := config.dialect?.map some
  ignorePatterns := if config.ignorePatterns.isEmpty then none else some config.ignorePatterns
  rules := some config.rules

/-- The members of a written configuration fill in its fields. -/
theorem gathers_toMembers {config : Config} (hwell : config.WellFormed)
    (hcanonical : config.IsCanonical) (hdepth : config.ForValues fun value => value.depth ≤ 125) :
    Gathers readField {} config.toMembers config.toDraft := by
  rw [toMembers_eq, toDraft]
  have hrules : ∀ {draft : Draft}, draft.rules = none → _ :=
    fun h => gathers_rules h hwell hcanonical hdepth
  cases config.dialect? <;> cases config.ignorePatterns
  · exact hrules rfl
  · exact (gathers_patterns rfl _).append (hrules rfl)
  · exact (gathers_dialect rfl _).append (hrules rfl)
  · exact (gathers_dialect rfl _).append ((gathers_patterns rfl _).append (hrules rfl))

/-- The fields that are written make up the configuration. -/
theorem config?_toDraft (config : Config) : config.toDraft.config? = some config := by
  obtain ⟨dialect?, patterns, rules⟩ := config
  cases dialect? <;> cases patterns <;> rfl

/-- A written configuration has no floating-point numbers if its settings have none. -/
theorem isExact_toJson {config : Config} (h : config.ForValues Json.IsExact) :
    config.toJson.IsExact := by
  refine .object (fun _ => nofun) fun name value hmem => ?_
  rw [toMembers_eq] at hmem
  rcases List.mem_append.1 hmem with hmem | hmem
  · obtain ⟨dialect, -, heq⟩ := Option.map_eq_some_iff.1 (Option.mem_toList.1 hmem)
    obtain ⟨-, rfl⟩ := Prod.mk.inj heq
    exact .string (fun _ => nofun)
  rcases List.mem_append.1 hmem with hmem | hmem
  · rw [Option.mem_toList] at hmem
    split at hmem
    · cases hmem
    · obtain ⟨-, rfl⟩ := Prod.mk.inj (Option.some.inj hmem)
      refine .array (fun _ => nofun) fun value hmem => ?_
      obtain ⟨s, -, rfl⟩ := List.mem_map.1 hmem
      exact .string (fun _ => nofun)
  · obtain ⟨-, rfl⟩ := Prod.mk.inj (List.mem_singleton.1 hmem)
    refine .object (fun _ => nofun) fun name value hmem => ?_
    obtain ⟨entry, hentry, heq⟩ := List.mem_map.1 hmem
    obtain ⟨-, rfl⟩ := Prod.mk.inj heq
    exact h entry hentry

/-- **A configuration is read from its text as it was**, with its rules in order. -/
theorem parseJson_compact {config : Config} (hwell : config.WellFormed)
    (hcanonical : config.IsCanonical) (hexact : config.ForValues Json.IsExact)
    (hdepth : config.ForValues fun value => value.depth ≤ 125) :
    parseJson config.toJson.compact = .ok config := by
  have hwritten : Written (.object config.toMembers) (write config.toJson) :=
    written_write (isExact_toJson hexact)
  have hread : readConfig (write config.toJson) = .ok (config, []) := by
    generalize write config.toJson = text at hwritten
    cases hwritten with
    | @object _ text h =>
      have hmembers := readMembers_written (gathers_toMembers hwell hcanonical hdepth) h
        (h.lt_fuel []) []
      rw [List.append_nil] at hmembers
      rw [readConfig, skipSpaces_cons rfl]
      change (readMembers readField true _ {} text >>= fun _ => _) = _
      rw [hmembers]
      dsimp only [bind, Except.bind]
      rw [config?_toDraft]
  rw [parseJson, compact, ofJsonText, String.toList_ofList, hread]
  rfl

/-- **Configurations survive JSON.** What is read, in either notation, has its settings in their own
form; and a configuration whose settings are, with no floating-point number in them and no value
nested deeper than 64 levels, is read from its JSON text as the configuration that it is. -/
theorem parseJson_round_trip :
    (∀ text config, parseJson text = .ok config → config.IsCanonical)
      ∧ (∀ text config, parseToml text = .ok config → config.IsCanonical)
      ∧ ∀ config : Config, config.WellFormed → config.IsCanonical →
        config.ForValues Json.IsExact → (config.ForValues fun value => value.depth ≤ 64) →
        parseJson config.toJson.compact = .ok config := by
  refine ⟨fun _ _ => isCanonical_of_parseJson, fun _ _ => isCanonical_of_parseToml, ?_⟩
  intro config hwell hcanonical hexact hdepth
  refine parseJson_compact hwell hcanonical hexact fun entry hentry => ?_
  exact Nat.le_trans (hdepth entry hentry) (by decide)

/-- A configuration with settings of all kinds, in texts with escapes and objects in objects, and one
that is read from TOML. -/
theorem parseJson_round_trip_nested :
    let config : Config :=
      { dialect? := some .postgres
        ignorePatterns := ["a\"b/**", "c\\d\n"]
        rules := [("z-rule", .toggle false), ("é\t", .level "warn"),
          ("list", .list [.string "error", .object [("a", .null), ("b", .array [.integer (-7)])]]),
          ("bare", .other .null), ("deep", .other (.object [("", .object [])]))] }
    let table : Config := { rules := [("rule", .other (.object [("level", .string "warn")]))] }
    (parseJson config.toJson.compact = .ok config ∧ config.IsCanonical)
      ∧ parseToml "[rules.rule]\nlevel = \"warn\"\n" = .ok table ∧ table.IsCanonical := by
  intro config table
  have hread : parseJson config.toJson.compact = .ok config := by
    refine parseJson_round_trip.2.2 config ⟨by decide, ?_, ?_⟩ ?_ ?_ ?_
    · simp [config, ForValues, Json.FitsWords, Setting.toJson]
    · simp only [config, ForValues, Json.IsOrdered, Setting.toJson, Json.everywhere_scalar,
        Json.everywhere_array, Json.everywhere_object, Json.object.injEq, forall_eq',
        List.map_cons, List.map_nil, List.pairwise_cons, List.Pairwise.nil, List.mem_cons,
        List.not_mem_nil, or_false, forall_eq_or_imp, forall_eq, String.reduceLT,
        IsEmpty.forall_iff, reduceCtorEq, ne_eq, not_false_eq_true, implies_true, and_self]
    · simp [config, IsCanonical, Settings.IsCanonical, Setting.isCanonical]
    · simp [config, ForValues, Json.IsExact, Setting.toJson]
    · simp [config, ForValues, Json.depth, Json.depthOfItems, Json.depthOfMembers, Setting.toJson]
  have htable : parseToml "[rules.rule]\nlevel = \"warn\"\n" = .ok table := by cbv
  exact ⟨⟨hread, parseJson_round_trip.1 _ config hread⟩, htable,
    parseJson_round_trip.2.1 _ table htable⟩

end Config

end QueryLint
