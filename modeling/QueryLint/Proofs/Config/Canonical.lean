import QueryLint.Config.Load
import QueryLint.Proofs.Config
import QueryLint.Proofs.Except
import QueryLint.Proofs.Json.Value

/-!
# The settings that reading gives

A setting that was read is the one form of its value: a switch, a name or a list is never held as
anything else (`Setting.isCanonical`). This holds of all settings of a configuration, in whichever
notation it was written (`isCanonical_of_parseJson`, `isCanonical_of_parseToml`), and it is what makes
a setting the one that is read from its value (`Setting.ofJson_toJson`).
-/

namespace QueryLint

namespace Setting

/-- A setting read from a value is kept in the form of that value. -/
theorem isCanonical_ofJson (value : Json) : (ofJson value).isCanonical = true := by
  cases value <;> rfl

/-- A setting in its own form is read from its value. -/
theorem ofJson_toJson {setting : Setting} (h : setting.isCanonical = true) :
    ofJson setting.toJson = setting := by
  cases setting with
  | toggle | level | list => rfl
  | other value =>
    cases value with
    | bool | string | array => cases h
    | null | integer | float | object => rfl

end Setting

/-- Every setting is in its own form. -/
def Settings.IsCanonical (settings : Settings) : Prop :=
  ∀ entry ∈ settings, entry.2.isCanonical = true

theorem Settings.IsCanonical.set {settings : Settings} (h : settings.IsCanonical) (name : String)
    {setting : Setting} (hsetting : setting.isCanonical = true) :
    (Settings.set name setting settings).IsCanonical := by
  induction settings with
  | nil =>
    intro entry hentry
    rw [List.mem_singleton.1 hentry]
    exact hsetting
  | cons first rest ih =>
    have hrest := ih fun entry hentry => h entry (List.mem_cons_of_mem _ hentry)
    intro entry hentry
    rw [Settings.set] at hentry
    split at hentry
    · rcases List.mem_cons.1 hentry with rfl | hmem
      · exact hsetting
      · exact h entry (List.mem_cons_of_mem _ hmem)
    · rcases List.mem_cons.1 hentry with rfl | hmem
      · exact h _ List.mem_cons_self
      · exact hrest entry hmem

namespace Config

/-- Every setting of a configuration is in its own form. -/
def IsCanonical (config : Config) : Prop :=
  config.rules.IsCanonical

/-- Something holds of the value of every setting. -/
def ForValues (config : Config) (p : Json → Prop) : Prop :=
  ∀ entry ∈ config.rules, p entry.2.toJson

/-- A configuration as it can be held: no rule has two settings, the whole numbers in settings have
64 bits, and the objects in them know every name once and in order. -/
structure WellFormed (config : Config) : Prop where
  names : (Settings.names config.rules).Nodup
  fits : config.ForValues Json.FitsWords
  ordered : config.ForValues Json.IsOrdered

/-! ## From JSON -/

section Json

open Json

/-- What holds at first and is kept by every member holds of what members are gathered to. -/
theorem readMembers_keeps {σ : Type} {member : σ → String → List Char → Reading (σ × List Char)}
    {holds : σ → Prop}
    (hmember : ∀ {state name text next rest}, holds state →
      member state name text = .ok (next, rest) → holds next)
    {first : Bool} {fuel : Nat} {state last : σ} {text rest : List Char} (hstate : holds state)
    (h : readMembers member first fuel state text = .ok (last, rest)) : holds last := by
  induction fuel generalizing first state text with
  | zero => cases h
  | succ fuel ih =>
    rw [readMembers] at h
    obtain ⟨⟨more, text⟩, -, h⟩ := exists_of_bind_eq_ok h
    cases more with
    | false =>
      obtain ⟨rfl, -⟩ := Prod.mk.inj (Except.ok.inj h)
      exact hstate
    | true =>
      obtain ⟨⟨name, text⟩, -, h⟩ := exists_of_bind_eq_ok h
      obtain ⟨⟨next, text⟩, hnext, h⟩ := exists_of_bind_eq_ok h
      exact ih (hmember hstate hnext) h

/-- A value of another kind gives nothing. -/
theorem unexpected_ne_ok {α : Type} {expected : String} {text : List Char} {x : α × List Char} :
    unexpected expected text ≠ .ok x := by
  intro h
  unfold unexpected at h
  split at h
  · cases h
  · cases h
  · obtain ⟨⟨value, rest⟩, -, h⟩ := exists_of_bind_eq_ok h
    cases h

/-- The settings that stand in a text are all read from values. -/
theorem isCanonical_of_readRules {text rest : List Char} {rules : Settings}
    (h : readRules text = .ok (rules, rest)) : rules.IsCanonical := by
  unfold readRules at h
  split at h
  · cases h
  · refine readMembers_keeps (fun {rules name text next rest} hrules hnext => ?_)
      (fun entry hmem => by cases hmem) h
    obtain ⟨text, -, hnext⟩ := exists_of_bind_eq_ok hnext
    obtain ⟨⟨value, text⟩, -, hnext⟩ := exists_of_bind_eq_ok hnext
    obtain ⟨rfl, -⟩ := Prod.mk.inj (Except.ok.inj hnext)
    exact hrules.set name (Setting.isCanonical_ofJson value)
  · exact absurd h unexpected_ne_ok

/-- The settings among the fields that were given so far are in their own form. -/
def Draft.IsCanonical (draft : Draft) : Prop :=
  ∀ rules ∈ draft.rules, rules.IsCanonical

/-- Reading one field keeps a draft canonical, whichever the field is. -/
theorem Draft.IsCanonical.readField {draft next : Draft} {name : String} {text rest : List Char}
    (hdraft : draft.IsCanonical) (h : readField draft name text = .ok (next, rest)) :
    next.IsCanonical := by
  unfold Config.readField at h
  split at h
  · split at h
    · cases h
    · obtain ⟨text, -, h⟩ := exists_of_bind_eq_ok h
      obtain ⟨⟨value, text⟩, -, h⟩ := exists_of_bind_eq_ok h
      obtain ⟨rfl, -⟩ := Prod.mk.inj (Except.ok.inj h)
      exact hdraft
  · split at h
    · cases h
    · obtain ⟨text, -, h⟩ := exists_of_bind_eq_ok h
      obtain ⟨⟨value, text⟩, -, h⟩ := exists_of_bind_eq_ok h
      obtain ⟨rfl, -⟩ := Prod.mk.inj (Except.ok.inj h)
      exact hdraft
  · split at h
    · cases h
    · obtain ⟨text, -, h⟩ := exists_of_bind_eq_ok h
      obtain ⟨⟨value, text⟩, hvalue, h⟩ := exists_of_bind_eq_ok h
      obtain ⟨rfl, -⟩ := Prod.mk.inj (Except.ok.inj h)
      rintro rules ⟨⟩
      exact isCanonical_of_readRules hvalue
  · obtain ⟨text, -, h⟩ := exists_of_bind_eq_ok h
    obtain ⟨text, -, h⟩ := exists_of_bind_eq_ok h
    obtain ⟨rfl, -⟩ := Prod.mk.inj (Except.ok.inj h)
    exact hdraft

/-- So does reading all of them, one after the other. -/
theorem isCanonical_of_readFields {text rest : List Char} {config : Config}
    (h : readFields text = .ok (config, rest)) : config.IsCanonical := by
  unfold readFields at h
  obtain ⟨⟨more, text⟩, -, h⟩ := exists_of_bind_eq_ok h
  cases more with
  | false => cases h
  | true =>
    obtain ⟨⟨dialect, text⟩, -, h⟩ := exists_of_bind_eq_ok h
    obtain ⟨⟨more, text⟩, -, h⟩ := exists_of_bind_eq_ok h
    cases more with
    | false => cases h
    | true =>
      obtain ⟨⟨patterns, text⟩, -, h⟩ := exists_of_bind_eq_ok h
      obtain ⟨⟨more, text⟩, -, h⟩ := exists_of_bind_eq_ok h
      cases more with
      | false => cases h
      | true =>
        obtain ⟨⟨rules, text⟩, hrules, h⟩ := exists_of_bind_eq_ok h
        dsimp only at h
        -- Only the bracket that closes the array ends it well.
        split at h
        · obtain ⟨rfl, -⟩ := Prod.mk.inj (Except.ok.inj h)
          exact isCanonical_of_readRules hrules
        · split at h <;> cases h
        · cases h
        · cases h

theorem isCanonical_of_readConfig {text rest : List Char} {config : Config}
    (h : readConfig text = .ok (config, rest)) : config.IsCanonical := by
  unfold readConfig at h
  split at h
  · cases h
  · exact isCanonical_of_readFields h
  · obtain ⟨⟨draft, text⟩, hdraft, h⟩ := exists_of_bind_eq_ok h
    have hcanonical : draft.IsCanonical :=
      readMembers_keeps (fun hdraft => hdraft.readField) (fun rules hrules => by cases hrules) hdraft
    dsimp only at h
    split at h
    next hconfig =>
      obtain ⟨rfl, -⟩ := Prod.mk.inj (Except.ok.inj h)
      obtain ⟨rules, hrules, rfl⟩ := Option.map_eq_some_iff.1 hconfig
      exact hcanonical rules hrules
    next => cases h
  · exact absurd h unexpected_ne_ok

/-- A configuration that was read from JSON has its settings in their own form. -/
theorem isCanonical_of_parseJson {text : String} {config : Config}
    (h : parseJson text = .ok config) : config.IsCanonical := by
  unfold parseJson at h
  split at h
  next hread =>
    obtain rfl := Except.ok.inj h
    obtain ⟨⟨config, rest⟩, hconfig, hread⟩ := exists_of_bind_eq_ok hread
    obtain ⟨_, -, hread⟩ := exists_of_bind_eq_ok hread
    obtain rfl := Except.ok.inj hread
    exact isCanonical_of_readConfig hconfig
  next => cases h

end Json

/-! ## From TOML -/

section Toml

open Toml

theorem isCanonical_settingsOf (entries : List Entry) : (settingsOf entries).IsCanonical := by
  intro entry hentry
  obtain ⟨⟨key, item⟩, -, rfl⟩ := List.mem_map.1 hentry
  exact Setting.isCanonical_ofJson item.toJson

/-- A table is taken for rules, and so is a date; the settings are canonical either way. -/
theorem isCanonical_of_rulesOf {key : Key} {item : Item} {rules : Settings}
    (h : rulesOf key item = .ok rules) : rules.IsCanonical := by
  unfold rulesOf at h
  split at h
  · obtain rfl := Except.ok.inj h
    exact isCanonical_settingsOf _
  · obtain rfl := Except.ok.inj h
    exact isCanonical_settingsOf _
  · obtain rfl := Except.ok.inj h
    intro entry hentry
    rw [List.mem_singleton.1 hentry]
    rfl
  · cases h

/-- Entry by entry a configuration stays canonical. The induction is on the entries. -/
theorem isCanonical_of_ofEntries {root : Stretch} {config last : Config} {hasRules : Bool}
    {entries : List Entry} (hconfig : config.IsCanonical)
    (h : ofEntries root config hasRules entries = .ok last) : last.IsCanonical := by
  induction entries generalizing config hasRules with
  | nil =>
    unfold ofEntries at h
    split at h
    · obtain rfl := Except.ok.inj h
      exact hconfig
    · cases h
  | cons entry rest ih =>
    obtain ⟨key, item⟩ := entry
    rw [ofEntries] at h
    split at h
    · obtain ⟨dialect, -, h⟩ := exists_of_bind_eq_ok h
      refine ih ?_ h
      exact hconfig
    · obtain ⟨patterns, -, h⟩ := exists_of_bind_eq_ok h
      refine ih ?_ h
      exact hconfig
    · obtain ⟨rules, hrules, h⟩ := exists_of_bind_eq_ok h
      exact ih (isCanonical_of_rulesOf hrules) h
    · exact ih hconfig h

/-- A configuration that was read from TOML has its settings in their own form. -/
theorem isCanonical_of_parseToml {text : String} {config : Config}
    (h : parseToml text = .ok config) : config.IsCanonical := by
  unfold parseToml at h
  split at h
  next hread =>
    obtain rfl := Except.ok.inj h
    unfold ofTomlText at hread
    split at hread
    · cases hread
    · exact isCanonical_of_ofEntries (fun entry hentry => by cases hentry) hread
  next => cases h

end Toml

end Config

end QueryLint
