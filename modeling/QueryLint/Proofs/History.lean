import Mathlib.Data.List.Induction
import QueryLint.Proofs.Config
import QueryLint.Proofs.Linter
import QueryLint.Proofs.Registry

/-!
# How a linter is set up

A linter is set up step by step: rules are registered and get settings, in any order, and again
under names that were there before. The two kinds of steps settle collisions in opposite ways. Of the
rules registered under one name the first stays, of the settings given to one name the last, and it
takes the place of those before. `setup_of_history` says what comes of a whole history, in terms of
the rules that were registered and of the settings that were given (`registered`, `configured`).

The steps of one kind do not notice those of the other (`ofHistory_eq`), so only the order of the
steps of each kind counts, and what comes of each kind is told apart: `Registry.ofRules` is about
registrations only, `Config.ofSettings` about settings only.
-/

namespace QueryLint

/-- A step of setting up a linter. -/
inductive Step
  | register (rule : Rule)
  | configure (name : String) (setting : Setting)

/-- What a linter is set up with. -/
structure Setup where
  registry : Registry := .empty
  config : Config := .empty

namespace Setup

/-- Takes a step. -/
def step (setup : Setup) : Step → Setup
  | .register rule => { setup with registry := setup.registry.add rule }
  | .configure name setting => { setup with config := setup.config.withRule name setting }

/-- What a history gives, from nothing. -/
def ofHistory (history : List Step) : Setup :=
  history.foldl step {}

/-- The rules that run. -/
def active (setup : Setup) : List ActiveRule :=
  setup.registry.active setup.config

end Setup

/-! ## Histories -/

/-- The rules that were registered, in order, those whose names were taken among them. -/
def registered (history : List Step) : List Rule :=
  history.filterMap fun
    | .register rule => some rule
    | .configure _ _ => none

/-- The settings that were given, in order, those that were replaced among them. -/
def configured (history : List Step) : Settings :=
  history.filterMap fun
    | .register _ => none
    | .configure name setting => some (name, setting)

/-- The first rule that was registered under a name. -/
def firstRule? (history : List Step) (name : String) : Option Rule :=
  (registered history).find? fun rule => rule.name = name

/-- The last setting that was given to a name. -/
def lastSetting? (history : List Step) (name : String) : Option Setting :=
  (configured history).reverse.lookup name

/-- The last setting that was given to a name makes a rule run. -/
def Running (history : List Step) (name : String) : Prop :=
  ∃ setting override, lastSetting? history name = some setting ∧ setting.Runs override

instance (history : List Step) : DecidablePred (Running history) := fun name =>
  decidable_of_iff (∃ setting ∈ lastSetting? history name, setting.severity?.isSome) <| by
    unfold Running
    simp only [Option.mem_def, Setting.runs_iff, exists_and_left, exists_eq', and_true]

/-! ## Names in the order of first mention -/

/-- A further mention adds to the distinct names only if it is the first. -/
theorem eraseDups_concat (names : List String) (name : String) :
    (names ++ [name]).eraseDups =
      if name ∈ names then names.eraseDups else names.eraseDups ++ [name] := by
  rw [List.eraseDups_append, List.removeAll]
  by_cases h : name ∈ names
  · rw [if_pos h, List.filter_cons_of_neg (by simpa using h), List.filter_nil, List.eraseDups_nil,
      List.append_nil]
  · rw [if_neg h, List.filter_cons_of_pos (by simpa using h), List.filter_nil, List.eraseDups_cons,
      List.filter_nil, List.eraseDups_nil]

theorem nodup_eraseDups (names : List String) : names.eraseDups.Nodup := by
  induction names using List.reverseRecOn with
  | nil => exact List.nodup_nil
  | append_singleton names name ih =>
    rw [eraseDups_concat]
    split
    next => exact ih
    next h =>
      rw [List.nodup_append]
      refine ⟨ih, List.nodup_singleton name, fun a ha b hb => ?_⟩
      rintro rfl
      rw [List.mem_singleton.1 hb] at ha
      exact h (List.mem_eraseDups.1 ha)

/-! ## Rules that are registered -/

namespace Registry

/-- Registers rules, one after the other. -/
def ofRules (rules : List Rule) : Registry :=
  rules.foldl add empty

theorem ofRules_concat (rules : List Rule) (rule : Rule) :
    ofRules (rules ++ [rule]) = (ofRules rules).add rule :=
  List.foldl_concat ..

/-- The rules that were registered give their names in the order of first mention. -/
theorem names_ofRules (rules : List Rule) :
    (ofRules rules).names = (rules.map Rule.name).eraseDups := by
  induction rules using List.reverseRecOn with
  | nil => rfl
  | append_singleton rules rule ih =>
    rw [ofRules_concat, names_add, ih, List.map_append, List.map_singleton, eraseDups_concat]
    simp only [List.mem_eraseDups]

/-- Under a name is found the first rule that was registered under it. -/
theorem get?_ofRules (rules : List Rule) (name : String) :
    (ofRules rules).get? name = rules.find? fun rule => rule.name = name := by
  induction rules using List.reverseRecOn with
  | nil => rfl
  | append_singleton rules rule ih =>
    rw [ofRules_concat, get?_add, ih, List.find?_append, List.find?_singleton]
    simp only [decide_eq_true_eq]

/-- Where no two rules have one name, the rules are those that are found under their names. -/
theorem get?_eq_some_iff_mem {registry : Registry} (h : registry.names.Nodup) {rule : Rule} :
    registry.get? rule.name = some rule ↔ rule ∈ registry.rules := by
  constructor
  · exact List.mem_of_find?_eq_some
  · intro hmem
    obtain ⟨found, hfound⟩ : ∃ found, registry.get? rule.name = some found :=
      Option.isSome_iff_exists.1 (isSome_get?_iff.2 (List.mem_map_of_mem hmem))
    -- What is found has the name of the rule, and no other rule of the registry has it.
    have hname : found.name = rule.name := by
      simpa using List.find?_some hfound
    rw [hfound, List.inj_on_of_nodup_map h (List.mem_of_find?_eq_some hfound) hmem hname]

end Registry

/-! ## Settings that are given -/

namespace Config

/-- Gives settings, one after the other. -/
def ofSettings (settings : Settings) : Config :=
  settings.foldl (fun config entry => config.withRule entry.1 entry.2) empty

theorem ofSettings_concat (settings : Settings) (entry : String × Setting) :
    ofSettings (settings ++ [entry]) = (ofSettings settings).withRule entry.1 entry.2 :=
  List.foldl_concat ..

/-- The names that were given settings stand in the order of first mention. -/
theorem names_ofSettings (settings : Settings) :
    Settings.names (ofSettings settings).rules = (settings.map Prod.fst).eraseDups := by
  induction settings using List.reverseRecOn with
  | nil => rfl
  | append_singleton settings entry ih =>
    rw [ofSettings_concat, withRule, Settings.names_set, ih, List.map_append, List.map_singleton,
      eraseDups_concat]
    simp only [List.mem_eraseDups]

/-- Under a name is found the last setting that was given to it. -/
theorem setting?_ofSettings (settings : Settings) (name : String) :
    (ofSettings settings).setting? name = settings.reverse.lookup name := by
  induction settings using List.reverseRecOn with
  | nil => rfl
  | append_singleton settings entry ih =>
    rw [ofSettings_concat, setting?_withRule, ih, List.reverse_append, List.reverse_singleton,
      List.singleton_append, Entries.lookup_cons]

end Config

/-! ## The setup that a history gives -/

namespace Setup

theorem ofHistory_concat (history : List Step) (s : Step) :
    ofHistory (history ++ [s]) = (ofHistory history).step s :=
  List.foldl_concat ..

/-- The steps of one kind do not notice those of the other. The induction is on the history from its
end, so that the last step is taken from the setup that the others gave. -/
theorem ofHistory_eq (history : List Step) :
    ofHistory history =
      { registry := .ofRules (registered history), config := .ofSettings (configured history) } := by
  induction history using List.reverseRecOn with
  | nil => rfl
  | append_singleton history s ih =>
    rw [ofHistory_concat, ih]
    cases s with
    | register rule =>
      have hrules : registered (history ++ [.register rule]) = registered history ++ [rule] :=
        List.filterMap_append
      have hsettings : configured (history ++ [.register rule]) = configured history :=
        List.filterMap_append.trans (List.append_nil _)
      rw [hrules, hsettings, Registry.ofRules_concat, step]
    | configure name setting =>
      have hrules : registered (history ++ [.configure name setting]) = registered history :=
        List.filterMap_append.trans (List.append_nil _)
      have hsettings : configured (history ++ [.configure name setting]) =
          configured history ++ [(name, setting)] :=
        List.filterMap_append
      rw [hrules, hsettings, Config.ofSettings_concat, step]

variable (history : List Step)

/-- A registry has the names of the rules that were registered, in the order of their first time. -/
theorem names_ofHistory :
    (ofHistory history).registry.names = ((registered history).map Rule.name).eraseDups := by
  rw [ofHistory_eq, Registry.names_ofRules]

/-- Under a name a registry has the rule that was registered first. -/
theorem get?_ofHistory (name : String) :
    (ofHistory history).registry.get? name = firstRule? history name := by
  rw [ofHistory_eq, Registry.get?_ofRules]
  rfl

/-- A configuration has the names that were given settings, in the order of their first time. -/
theorem configNames_ofHistory :
    Settings.names (ofHistory history).config.rules =
      ((configured history).map Prod.fst).eraseDups := by
  rw [ofHistory_eq, Config.names_ofSettings]

/-- Under a name a configuration has the setting that was given last. -/
theorem setting?_ofHistory (name : String) :
    (ofHistory history).config.setting? name = lastSetting? history name := by
  rw [ofHistory_eq, Config.setting?_ofSettings]
  rfl

/-- A rule runs when it is the first of its name and the last setting of the name makes it. -/
theorem mem_active_ofHistory {active : ActiveRule} :
    active ∈ (ofHistory history).active ↔
      firstRule? history active.rule.name = some active.rule
        ∧ ∃ setting, lastSetting? history active.rule.name = some setting
          ∧ setting.Runs active.override? := by
  have hnodup : (ofHistory history).registry.names.Nodup := by
    rw [names_ofHistory]
    exact nodup_eraseDups _
  rw [Setup.active, Registry.active, List.mem_filterMap, ← get?_ofHistory, ← setting?_ofHistory,
    Registry.get?_eq_some_iff_mem hnodup]
  constructor
  · rintro ⟨rule, hrule, hactive⟩
    obtain ⟨rfl, hruns⟩ := Registry.activate?_eq_some_iff.1 hactive
    exact ⟨hrule, hruns⟩
  · rintro ⟨hrule, hruns⟩
    exact ⟨active.rule, hrule, Registry.activate?_eq_some_iff.2 ⟨rfl, hruns⟩⟩

/-- The names of the rules that run are those of all rules whose last setting makes them, in
order. -/
theorem names_active_ofHistory :
    (ofHistory history).active.map (fun active => active.rule.name) =
      ((registered history).map Rule.name).eraseDups.filter fun name => Running history name := by
  rw [← names_ofHistory, Setup.active, Registry.active, Registry.names]
  induction (ofHistory history).registry.rules with
  | nil => rfl
  | cons rule rules ih =>
    have hrunning : Running history rule.name ↔ ∃ override,
        Registry.activate? (ofHistory history).config rule = some ⟨rule, override⟩ := by
      simp only [Running, Registry.activate?_eq_some_iff, setting?_ofHistory, true_and]
      exact exists_comm
    -- The rule is active exactly when its name passes, so both sides take it or leave it.
    rw [List.map_cons, List.filter_cons]
    by_cases h : Running history rule.name
    · obtain ⟨override, hactive⟩ := hrunning.1 h
      rw [if_pos (decide_eq_true h), List.filterMap_cons_some hactive, List.map_cons, ih]
    · have hidle : Registry.activate? (ofHistory history).config rule = none := by
        rw [Option.eq_none_iff_forall_ne_some]
        intro active hactive
        obtain ⟨rfl, -⟩ := Registry.activate?_eq_some_iff.1 hactive
        exact h (hrunning.2 ⟨active.override?, hactive⟩)
      rw [if_neg (by simpa using h), List.filterMap_cons_none hidle, ih]

/-- **What a history comes to.** However registrations and settings follow each other, the registry
has each name that was registered once, in the order of first registration, with the rule that was
the first; the configuration has each name that was given a setting once, in the order of first
mention, with the setting that was the last. The rules that run are, in the order of first
registration, those whose last setting makes them, each with the severity that this setting gives.
Histories with the same registrations and the same settings run the same rules. -/
theorem setup_of_history :
    (ofHistory history).registry.names.Nodup
    ∧ (ofHistory history).registry.names = ((registered history).map Rule.name).eraseDups
    ∧ (∀ name, (ofHistory history).registry.get? name = firstRule? history name)
    ∧ (Settings.names (ofHistory history).config.rules).Nodup
    ∧ Settings.names (ofHistory history).config.rules =
      ((configured history).map Prod.fst).eraseDups
    ∧ (∀ name, (ofHistory history).config.setting? name = lastSetting? history name)
    ∧ (ofHistory history).active.map (fun active => active.rule.name) =
      ((registered history).map Rule.name).eraseDups.filter (fun name => Running history name)
    ∧ (∀ active, active ∈ (ofHistory history).active ↔
      firstRule? history active.rule.name = some active.rule
        ∧ ∃ setting, lastSetting? history active.rule.name = some setting
          ∧ setting.Runs active.override?)
    ∧ ∀ history', registered history' = registered history →
      configured history' = configured history →
      (ofHistory history').active = (ofHistory history).active := by
  refine ⟨?_, names_ofHistory history, get?_ofHistory history, ?_, configNames_ofHistory history,
    setting?_ofHistory history, names_active_ofHistory history,
    fun active => mem_active_ofHistory history, ?_⟩
  · rw [names_ofHistory]
    exact nodup_eraseDups _
  · rw [configNames_ofHistory]
    exact nodup_eraseDups _
  · intro history' hregistered hconfigured
    rw [ofHistory_eq history', ofHistory_eq history, hregistered, hconfigured]

/-- Two histories of the same registrations and settings, in which a name is registered twice and
given two settings: the first rule runs, under the last setting. -/
theorem setup_of_history_interleaved :
    let early : Rule := { name := "a", check := fun _ _ => [] }
    let late : Rule := { name := "a", severity := .error, check := fun _ _ => [] }
    let apart : List Step :=
      [.register early, .register late, .configure "a" (.toggle false),
        .configure "a" (.level "info")]
    let mixed : List Step :=
      [.configure "a" (.toggle false), .register early, .configure "a" (.level "info"),
        .register late]
    registered mixed = registered apart ∧ configured mixed = configured apart
      ∧ (ofHistory mixed).active = (ofHistory apart).active
      ∧ ⟨early, none⟩ ∈ (ofHistory apart).active := by
  intro early late apart mixed
  obtain ⟨-, -, -, -, -, -, -, hactive, hsame⟩ := setup_of_history apart
  have hregistered : registered mixed = registered apart := rfl
  have hconfigured : configured mixed = configured apart := rfl
  refine ⟨hregistered, hconfigured, hsame mixed hregistered hconfigured, ?_⟩
  exact (hactive ⟨early, none⟩).2 ⟨rfl, _, rfl, .level .info⟩

end Setup

end QueryLint
