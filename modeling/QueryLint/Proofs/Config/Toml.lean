import QueryLint.Proofs.Config.Json
import QueryLint.Proofs.Toml.Section
import QueryLint.Proofs.Toml.Unwritable

/-!
# Configurations survive TOML

A configuration is written as a document with the table of its rules behind everything else, and in
that table those rules that get lines come before those that get headers. So a configuration is read
from its text as it was but for the order of its rules (`parseToml_writeDocument`). A setting with a
missing value in it has no text at all.
-/

namespace QueryLint

open Toml

/-- The whole numbers of a value have 64 bits with a sign. -/
def Json.FitsSigned (value : Json) : Prop :=
  value.Everywhere fun inner =>
    ∀ i, inner = .integer i → -0x8000000000000000 ≤ i ∧ i < 0x8000000000000000

/-- A value that does not occur in another one is different from everything in it. -/
theorem Json.not_occurs_iff {inner value : Json} :
    ¬ Json.Occurs inner value ↔ value.Everywhere (· ≠ inner) := by
  refine ⟨?_, fun h hinner => h inner hinner rfl⟩
  rintro h other hother rfl
  exact h hother

theorem Toml.expressible_of {value : Json} (hnull : ¬ Json.Occurs .null value) (hexact : value.IsExact)
    (hfits : value.FitsSigned) : Expressible value := by
  exact fun inner hinner =>
    ⟨Json.not_occurs_iff.1 hnull inner hinner, hexact inner hinner, hfits inner hinner⟩

theorem Toml.Expressible.writable {value : Json} (h : Expressible value) : Writable value :=
  fun inner hinner => ⟨(h inner hinner).1, fun i hi => ((h inner hinner).2.2 i hi).2⟩

namespace Config

/-! ## The entries of a written configuration -/

/-- Only a text has the value of a text. -/
theorem node_eq_string {item : Item} {s : String} (h : item.toJson = .string s) :
    item.node = .string s := by
  obtain ⟨node, stretch?⟩ := item
  rw [Item.toJson] at h
  cases node with
  | string text => exact congrArg Node.string (Json.string.inj h)
  | float x =>
    rw [Node.toJson] at h
    split at h <;> cases h
  | table t | inlineTable t =>
    obtain ⟨isImplicit, isDotted, stretch?, entries⟩ := t
    cases h
  | integer | boolean | dateTime | array | tables => cases h

/-- The written name of a dialect is read as that dialect. -/
theorem dialectOf_written {item : Item} {dialect : Dialect} (key : Key)
    (h : item.toJson = .string dialect.configName) : dialectOf key item = .ok dialect := by
  rw [dialectOf, node_eq_string h]
  dsimp only
  rw [Dialect.ofName?_configName]

/-- Items that stand for texts are read as those texts. -/
theorem mapM_patternOf {items : List Item} {patterns : List String} (key : Key)
    (h : itemsToJson items = patterns.map Json.string) :
    items.mapM (patternOf key) = .ok patterns := by
  rw [mapM_eq_ok_iff]
  induction items generalizing patterns with
  | nil =>
    cases patterns with
    | nil => exact .nil
    | cons => cases h
  | cons item items ih =>
    cases patterns with
    | nil => cases h
    | cons pattern patterns =>
      obtain ⟨hitem, hitems⟩ := List.cons.inj h
      exact .cons (by rw [patternOf, node_eq_string hitem]) (ih hitems)

/-- The patterns are read from the array that they are written as; no tables are written so, as there
is a pattern. -/
theorem patternsOf_written {item : Item} {patterns : List String} (hne : patterns ≠ [])
    (key : Key) (h : item.toJson = .array (patterns.map Json.string)) :
    patternsOf key item = .ok patterns := by
  obtain ⟨node, stretch?⟩ := item
  rw [Item.toJson] at h
  cases node with
  | array items =>
    rw [Node.toJson] at h
    exact mapM_patternOf key (Json.array.inj h)
  | tables ts =>
    rw [Node.toJson] at h
    obtain ⟨pattern, patterns, rfl⟩ := List.exists_cons_of_ne_nil hne
    cases ts with
    | nil => cases h
    | cons t ts =>
      obtain ⟨isImplicit, isDotted, stretch?, entries⟩ := t
      cases h
  | float x =>
    rw [Node.toJson] at h
    split at h <;> cases h
  | table t | inlineTable t =>
    obtain ⟨isImplicit, isDotted, stretch?, entries⟩ := t
    cases h
  | string | integer | boolean | dateTime => cases h

section Entries

variable {root : Stretch} {config : Config} {hasRules : Bool} {key : Key} {item : Item}
  {rest : List Entry}

/-- The first member of some entries is their first entry. -/
theorem entriesToJson_eq_cons {entries : List Entry} {name : String} {value : Json}
    {members : Json.Members} (h : entriesToJson entries = (name, value) :: members) :
    ∃ key item rest, entries = ⟨key, item⟩ :: rest ∧ Key.name key = name
      ∧ Item.toJson item = value ∧ entriesToJson rest = members := by
  cases entries with
  | nil => cases h
  | cons entry rest =>
    obtain ⟨key, item⟩ := entry
    obtain ⟨hfirst, hrest⟩ := List.cons.inj h
    obtain ⟨hname, hvalue⟩ := Prod.mk.inj hfirst
    exact ⟨key, item, rest, rfl, hname, hvalue, hrest⟩

theorem eq_nil_of_entriesToJson {entries : List Entry} (h : entriesToJson entries = []) :
    entries = [] := by
  cases entries with
  | nil => rfl
  | cons entry rest =>
    obtain ⟨key, item⟩ := entry
    cases h

theorem ofEntries_dialect (hkey : key.name = "dialect") {dialect : Dialect}
    (hitem : item.toJson = .string dialect.configName) :
    ofEntries root config hasRules (⟨key, item⟩ :: rest) =
      ofEntries root { config with dialect? := some dialect } hasRules rest := by
  rw [ofEntries, hkey]
  change (dialectOf key item >>= fun _ => _) = _
  rw [dialectOf_written key hitem]
  rfl

theorem ofEntries_patterns (hkey : key.name = "ignorePatterns") {patterns : List String}
    (hne : patterns ≠ []) (hitem : item.toJson = .array (patterns.map Json.string)) :
    ofEntries root config hasRules (⟨key, item⟩ :: rest) =
      ofEntries root { config with ignorePatterns := patterns } hasRules rest := by
  rw [ofEntries, hkey]
  change (patternsOf key item >>= fun _ => _) = _
  rw [patternsOf_written hne key hitem]
  rfl

/-- A table of rules, as the last entry, gives the rules. -/
theorem ofEntries_rules (hkey : key.name = "rules") (u : Table) :
    ofEntries root config hasRules [⟨key, ⟨.table u, none⟩⟩] =
      .ok { config with rules := settingsOf u.entries } := by
  rw [ofEntries, hkey]
  rfl

end Entries

/-! ## The whole configuration -/

/-- What is written of a configuration before its rules. -/
def fields (config : Config) : Json.Members :=
  (config.dialect?.map fun d => ("dialect", Json.string d.configName)).toList
    ++ (if config.ignorePatterns.isEmpty then none
        else some ("ignorePatterns", Json.array (config.ignorePatterns.map Json.string))).toList

/-- The rules come last among the fields that are written. -/
theorem toMembers_eq_fields (config : Config) :
    config.toMembers = config.fields ++ [("rules", .object (rulesToMembers config.rules))] :=
  rfl

/-- The entries of a document that hold what was written make up the configuration. -/
theorem ofEntries_fields {config : Config} {entries : List Entry}
    (hentries : entriesToJson entries = config.fields) {key : Key} (hkey : key.name = "rules")
    (u : Table) (root : Stretch) :
    ofEntries root {} false (entries ++ [⟨key, ⟨.table u, none⟩⟩]) =
      .ok { config with rules := settingsOf u.entries } := by
  obtain ⟨dialect?, patterns, rules⟩ := config
  -- The patterns come behind the dialect, so they are looked at once for both of its cases.
  have hpatterns : ∀ (entries : List Entry) (dialect? : Option Dialect),
      entriesToJson entries = (if patterns.isEmpty then none
        else some ("ignorePatterns", Json.array (patterns.map Json.string))).toList →
      ofEntries root { dialect? } false (entries ++ [⟨key, ⟨.table u, none⟩⟩]) =
        .ok ⟨dialect?, patterns, settingsOf u.entries⟩ := by
    intro entries dialect? h
    cases patterns with
    | nil =>
      obtain rfl := eq_nil_of_entriesToJson h
      exact ofEntries_rules hkey u
    | cons pattern patterns =>
      obtain ⟨first, item, rest, rfl, hfirst, hitem, hrest⟩ := entriesToJson_eq_cons h
      obtain rfl := eq_nil_of_entriesToJson hrest
      rw [List.cons_append, ofEntries_patterns hfirst (List.cons_ne_nil _ _) hitem]
      exact ofEntries_rules hkey u
  cases dialect? with
  | none => exact hpatterns entries none hentries
  | some dialect =>
    obtain ⟨first, item, rest, rfl, hfirst, hitem, hrest⟩ := entriesToJson_eq_cons hentries
    rw [List.cons_append, ofEntries_dialect hfirst hitem]
    exact hpatterns rest (some dialect) hrest

/-- The settings that have lines, and behind them those that have headers. -/
def withTablesLast (rules : Settings) : Settings :=
  rules.filter (fun entry => !hasHeader entry.2.toJson)
    ++ rules.filter fun entry => hasHeader entry.2.toJson

theorem perm_withTablesLast (rules : Settings) : (withTablesLast rules).Perm rules :=
  List.perm_append_comm.trans (List.filter_append_perm _ rules)

theorem settingsOf_eq_map (entries : List Entry) :
    settingsOf entries =
      (entriesToJson entries).map fun member => (member.1, Setting.ofJson member.2) := by
  induction entries with
  | nil => rfl
  | cons entry rest ih =>
    obtain ⟨key, item⟩ := entry
    exact congrArg ((key.name, Setting.ofJson item.toJson) :: ·) ih

/-- Settings in their own form are read from the members that they are written as. -/
theorem settingsOf_written {rules : Settings} (hcanonical : rules.IsCanonical) {entries : List Entry}
    (h : entriesToJson entries =
      withLines (rulesToMembers rules) ++ withHeaders (rulesToMembers rules)) :
    settingsOf entries = withTablesLast rules := by
  have hmembers : withLines (rulesToMembers rules) ++ withHeaders (rulesToMembers rules) =
      rulesToMembers (withTablesLast rules) := by
    rw [withLines, withHeaders, rulesToMembers, List.filter_map, List.filter_map, rulesToMembers,
      withTablesLast, List.map_append]
    rfl
  rw [settingsOf_eq_map, h, hmembers, rulesToMembers, List.map_map]
  refine (List.map_congr_left fun entry hentry => ?_).trans (List.map_id _)
  have := hcanonical entry ((perm_withTablesLast rules).mem_iff.1 hentry)
  exact congrArg (Prod.mk entry.1) (Setting.ofJson_toJson this)

/-- What is written of a configuration before its rules has lines and can be written. -/
theorem fields_written {config : Config} {member : String × Json} (h : member ∈ config.fields) :
    hasHeader member.2 = false ∧ Expressible member.2 ∧ member.2.IsOrdered
      ∧ member.2.depth ≤ maxDepth := by
  have hstring : ∀ s, Expressible (.string s) ∧ (Json.string s).IsOrdered := fun s =>
    ⟨.string ⟨nofun, fun _ => nofun, fun _ => nofun⟩, .string fun _ => nofun⟩
  rcases List.mem_append.1 h with hdialect | hpatterns
  · obtain ⟨dialect, -, rfl⟩ := Option.map_eq_some_iff.1 (Option.mem_toList.1 hdialect)
    exact ⟨rfl, (hstring _).1, (hstring _).2, Nat.zero_le _⟩
  · rw [Option.mem_toList] at hpatterns
    split at hpatterns
    · cases hpatterns
    next hne =>
      obtain rfl := Option.some.inj hpatterns
      have hitem : ∀ item ∈ config.ignorePatterns.map Json.string, ∃ s, Json.string s = item :=
        fun item hmem => (List.mem_map.1 hmem).imp fun _ => And.right
      refine ⟨?_, .array ⟨nofun, fun _ => nofun, fun _ => nofun⟩ fun item hmem => ?_,
        .array (fun _ => nofun) fun item hmem => ?_, ?_⟩
      · obtain ⟨pattern, patterns, heq⟩ := List.exists_cons_of_ne_nil (mt List.isEmpty_iff.2 hne)
        rw [heq]
        rfl
      · obtain ⟨s, rfl⟩ := hitem item hmem
        exact (hstring s).1
      · obtain ⟨s, rfl⟩ := hitem item hmem
        exact (hstring s).2
      · have hdepth : (Json.array (config.ignorePatterns.map Json.string)).depth ≤ 0 + 1 := by
          refine Json.depth_array_le fun item hmem => ?_
          obtain ⟨s, rfl⟩ := hitem item hmem
          exact Nat.le_refl 0
        exact Nat.le_trans hdepth (by decide)

/-- A configuration is written if every setting of it can be, and not otherwise. -/
theorem writeToml_eq_ok_iff {config : Config} {text : String} :
    config.writeToml = .ok text ↔
      config.ForValues Writable ∧ text = String.ofList (writeDocument config.toMembers) := by
  have hmembers : (∀ member ∈ config.toMembers, Writable member.2) ↔ config.ForValues Writable := by
    rw [toMembers_eq_fields, List.forall_mem_append, List.forall_mem_singleton, Writable,
      Json.everywhere_object, and_iff_right fun _ hmem => (fields_written hmem).2.1.writable,
      and_iff_right ⟨Json.noConfusion, fun _ => Json.noConfusion⟩]
    exact List.forall_mem_map
  rw [writeToml, write_eq_ok_iff, hmembers]

/-- **A configuration is read from its text** as it was, but with its rules in the order of the
text. -/
theorem parseToml_writeDocument {config : Config} (hnames : (Settings.names config.rules).Nodup)
    (hordered : config.ForValues Json.IsOrdered) (hcanonical : config.IsCanonical)
    (hvalues : config.ForValues Expressible)
    (hdepth : config.ForValues fun value => value.depth < maxDepth) :
    parseToml (String.ofList (writeDocument config.toMembers)) =
      .ok { config with rules := withTablesLast config.rules } := by
  have hfields : (config.fields.map Prod.fst ++ ["rules"]).Nodup := by
    rw [fields]
    cases config.dialect? <;> cases config.ignorePatterns
    · exact (by decide : ["rules"].Nodup)
    · exact (by decide : ["ignorePatterns", "rules"].Nodup)
    · exact (by decide : ["dialect", "rules"].Nodup)
    · exact (by decide : ["dialect", "ignorePatterns", "rules"].Nodup)
  have hinner : ((rulesToMembers config.rules).map Prod.fst).Nodup := by
    rw [rulesToMembers, List.map_map]
    exact hnames
  obtain ⟨t, u, key, ht, hkey, hu, hparse⟩ := parse_writeDocument
    (fun _ hmem => (fields_written hmem).1) (fun _ hmem => (fields_written hmem).2) hfields hinner
    (List.forall_mem_map.2 fun entry hmem =>
      ⟨hvalues entry hmem, hordered entry hmem, hdepth entry hmem⟩)
  rw [parseToml, ofTomlText, String.toList_ofList, toMembers_eq_fields, hparse]
  dsimp only [Table.push]
  rw [ofEntries_fields ht hkey, settingsOf_written hcanonical hu]

/-- A setting with a missing value in it keeps its configuration from being written. -/
theorem writeToml_of_null {config : Config} {entry : String × Setting} (hentry : entry ∈ config.rules)
    (hnull : Json.Occurs .null entry.2.toJson) : ∃ reason, config.writeToml = .error reason := by
  cases h : config.writeToml with
  | error reason => exact ⟨reason, rfl⟩
  | ok text => exact absurd rfl ((writeToml_eq_ok_iff.1 h).1 entry hentry .null hnull).1

/-- **Configurations survive TOML.** For a configuration whose settings are in their own form, with no
value nested deeper than 64 levels: if a value is missing anywhere in them, it is not written; and if
none is, with no floating-point number and no whole number of more than 64 bits with a sign, then it
is written, and read from its text with the same dialect, the same patterns in their order and the
same setting for every rule. Only those settings come last that are tables or arrays of tables. -/
theorem parseToml_round_trip {config : Config} (hwell : config.WellFormed)
    (hcanonical : config.IsCanonical) (hdepth : config.ForValues fun value => value.depth ≤ 64) :
    ((∃ entry ∈ config.rules, Json.Occurs .null entry.2.toJson) →
        ∃ reason, config.writeToml = .error reason)
      ∧ ((config.ForValues fun value => ¬ Json.Occurs .null value) →
        config.ForValues Json.IsExact → config.ForValues Json.FitsSigned →
        ∃ text again, config.writeToml = .ok text ∧ parseToml text = .ok again
          ∧ again.dialect? = config.dialect? ∧ again.ignorePatterns = config.ignorePatterns
          ∧ again.rules = withTablesLast config.rules
          ∧ ∀ name, again.setting? name = config.setting? name) := by
  constructor
  · rintro ⟨entry, hentry, hnull⟩
    exact writeToml_of_null hentry hnull
  · intro hnull hexact hsigned
    have hvalues : config.ForValues Expressible := fun entry hentry =>
      expressible_of (hnull entry hentry) (hexact entry hentry) (hsigned entry hentry)
    have hwrite := writeToml_eq_ok_iff.2
      ⟨fun entry hentry => (hvalues entry hentry).writable, rfl⟩
    have hread := parseToml_writeDocument hwell.names hwell.ordered hcanonical hvalues
      fun entry hentry => Nat.lt_of_le_of_lt (hdepth entry hentry) (by decide)
    refine ⟨_, _, hwrite, hread, rfl, rfl, rfl, fun name => ?_⟩
    exact (Entries.lookup_perm (perm_withTablesLast config.rules).symm hwell.names name).symm

/-- A configuration whose settings are of all kinds, with tables in tables, tables that share a header,
and names and texts that need quotes; and one that cannot be written. -/
theorem parseToml_round_trip_tables :
    let config : Config :=
      { dialect? := some .postgres
        ignorePatterns := ["a\"b/**", "c\\d\n"]
        rules := [
          ("deep", .other (.object [("a", .object [("b", .integer (-7))]), ("c", .bool true)])),
          ("z.rule", .toggle false),
          ("shared", .list [.object [("x", .integer 1)], .object []]),
          ("list", .list [.string "error", .object [("min", .array [])]])] }
    let text := "dialect = \"postgresql\"\nignorePatterns = ['a\"b/**', '''\nc\\d\n''']\n\n"
      ++ "[rules]\n\"z.rule\" = false\nlist = [\"error\", \x7b min = [] \x7d]\n\n"
      ++ "[rules.deep]\nc = true\n\n[rules.deep.a]\nb = -7\n\n[[rules.shared]]\nx = 1\n\n[[rules.shared]]\n"
    let missing : Config := { rules := [("bare", .other .null)] }
    (config.writeToml = .ok text ∧ ∃ again, parseToml text = .ok again
        ∧ again.rules.map Prod.fst = ["z.rule", "list", "deep", "shared"]
        ∧ again.setting? "deep" = config.setting? "deep")
      ∧ ∃ reason, missing.writeToml = .error reason := by
  intro config text missing
  have hwell : config.WellFormed := by
    refine ⟨by decide, ?_, ?_⟩
    · simp [config, ForValues, Json.FitsWords, Setting.toJson]
    · simp only [config, ForValues, Json.IsOrdered, Setting.toJson, Json.everywhere_scalar,
        Json.everywhere_array, Json.everywhere_object, Json.object.injEq, forall_eq',
        List.map_cons, List.map_nil, List.pairwise_cons, List.Pairwise.nil, List.mem_cons,
        List.not_mem_nil, or_false, forall_eq_or_imp, forall_eq, String.reduceLT,
        IsEmpty.forall_iff, reduceCtorEq, ne_eq, not_false_eq_true, implies_true, and_self]
  have hcanonical : config.IsCanonical := by
    simp [config, IsCanonical, Settings.IsCanonical, Setting.isCanonical]
  have hdepth : config.ForValues fun value => value.depth ≤ 64 := by
    simp [config, ForValues, Json.depth, Json.depthOfItems, Json.depthOfMembers, Setting.toJson]
  have hnull : config.ForValues fun value => ¬ Json.Occurs .null value := by
    simp [config, ForValues, Json.not_occurs_iff, Setting.toJson]
  have hexact : config.ForValues Json.IsExact := by
    simp [config, ForValues, Json.IsExact, Setting.toJson]
  have hsigned : config.ForValues Json.FitsSigned := by
    simp [config, ForValues, Json.FitsSigned, Setting.toJson]
  have hmissing : missing.WellFormed := by
    refine ⟨by decide, ?_, ?_⟩
    · simp [missing, ForValues, Json.FitsWords, Setting.toJson]
    · simp [missing, ForValues, Json.IsOrdered, Setting.toJson]
  obtain ⟨written, again, hwrite, hread, -, -, hrules, hsetting⟩ :=
    (parseToml_round_trip hwell hcanonical hdepth).2 hnull hexact hsigned
  have htext : config.writeToml.toOption = some text := by decide +kernel
  rw [hwrite] at htext
  obtain rfl : written = text := Option.some.inj htext
  refine ⟨⟨hwrite, again, hread, by rw [hrules]; rfl, hsetting "deep"⟩, ?_⟩
  refine (parseToml_round_trip hmissing ?_ ?_).1 ⟨_, List.mem_cons_self, .here⟩
  · simp [missing, IsCanonical, Settings.IsCanonical, Setting.isCanonical]
  · simp [missing, ForValues, Json.depth, Setting.toJson]

end Config

end QueryLint
