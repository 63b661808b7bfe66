import QueryLint.Dialect
import QueryLint.Setting

/-!
# Configurations

A configuration names a dialect, patterns of paths to leave alone, and a setting for each of a
number of rules. The rules are kept in the order in which they were first named; a later setting
takes the place of an earlier one.
-/

namespace QueryLint

/-- Settings by the names of their rules, in the order of first naming. -/
abbrev Settings := List (String × Setting)

/-- Gives a rule a setting: in place if the rule is there, else at the end. -/
def Settings.set (name : String) (setting : Setting) : Settings → Settings
  | [] => [(name, setting)]
  | (other, old) :: rest =>
    if other = name then (name, setting) :: rest
    else (other, old) :: Settings.set name setting rest

/-- What a run is to look at and how. -/
structure Config where
  dialect? : Option Dialect := none
  ignorePatterns : List String := []
  rules : Settings := []
  deriving Inhabited

namespace Config

/-- The configuration under which no rule runs. -/
def empty : Config := {}

/-- Gives a rule a setting. -/
def withRule (config : Config) (name : String) (setting : Setting) : Config :=
  { config with rules := Settings.set name setting config.rules }

/-- Names the dialect. -/
def withDialect (config : Config) (dialect : Dialect) : Config :=
  { config with dialect? := some dialect }

/-- The dialect of the queries: the one that is named, or else the standard one. -/
def dialect (config : Config) : Dialect :=
  config.dialect?.getD Dialect.standard

/-- The setting of a rule. -/
def setting? (config : Config) (name : String) : Option Setting :=
  config.rules.lookup name

/-- The members that a configuration is written as. What is not set is left out. -/
def toMembers (config : Config) : Json.Members :=
  let dialect := config.dialect?.map fun d => ("dialect", Json.string d.configName)
  let patterns :=
    if config.ignorePatterns.isEmpty then none
    else some ("ignorePatterns", Json.array (config.ignorePatterns.map Json.string))
  let rules := ("rules", Json.object (config.rules.map fun (name, s) => (name, s.toJson)))
  dialect.toList ++ patterns.toList ++ [rules]

/-- The value that a configuration is written as. -/
def toJson (config : Config) : Json :=
  .object config.toMembers

/-- Whether two configurations say the same; the order of the rules does not matter. -/
def same (a b : Config) : Bool :=
  a.dialect? == b.dialect? && a.ignorePatterns == b.ignorePatterns
    && a.rules.length == b.rules.length
    && a.rules.all fun (name, s) =>
      match b.setting? name with
      | some t => s.kind == t.kind && s.toJson == t.toJson
      | none => false

end Config

end QueryLint
