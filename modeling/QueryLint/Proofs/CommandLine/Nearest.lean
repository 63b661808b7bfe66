import Mathlib.Data.List.Induction
import QueryLint.Proofs.CommandLine.Check
import QueryLint.Proofs.Files.Tree

/-!
# The nearest configuration file

From the directory where a program runs up to the root, the first directory counts that has a regular
file with one of the names of configuration files, and in it the name that comes first (`Nearest`);
what has such a name but is no regular file is passed over. The paths in a directory are tried before
those above it (`candidates_concat`), and what is nearest seen from a directory is there or is nearest
seen from the one above (`nearest_concat`); so the search ends with what is nearest by induction from
the root down (`find?_candidates_eq_some_iff`).

The file that is found is then the only one that counts: whatever comes of it is what comes of the
search (`Comes`), and if that is no configuration the program does nothing else (`find_and_load`).
-/

namespace QueryLint

namespace FileTree

/-- There is a regular file at a place. -/
def HasFile (tree : FileTree) (place : Location) : Prop :=
  ∃ content, tree.node? place = some (.file content)

variable {tree : FileTree}

/-- The path of a place leads to a file if there is one at the place. -/
theorem isRegular_absolute {files : Files Id} {workplace place : Location}
    (hkind : files.kind? = (tree.files workplace).kind?) (hne : place ≠ [])
    (hplace : ∀ name ∈ place, Path.IsName name) :
    (files.isRegular (Path.absolute place)).run = true ↔ tree.HasFile place := by
  have hrun : (files.isRegular (Path.absolute place)).run =
      ((tree.get? place).map kind == some .regular) := by
    rw [← resolve_absolute hne hplace workplace]
    change ((files.kind? (Path.absolute place)).run == some .regular) = _
    rw [hkind]
    rfl
  rw [hrun, HasFile, node?]
  cases tree.get? place with
  | none => simp
  | some found => cases found <;> simp [kind, root]

end FileTree

namespace ConfigFile

variable {tree : FileTree} {files : Files Id} {start directory : Location} {name path : String}

/-- A directory has no regular file that goes by the name of a configuration file. -/
def Bare (tree : FileTree) (directory : Location) : Prop :=
  ∀ name ∈ names, ¬ tree.HasFile (directory ++ [name])

/-- In a directory there is a regular file that goes by a name of configuration files, and none that
goes by an earlier one. -/
structure First (tree : FileTree) (directory : Location) (name : String) : Prop where
  file : tree.HasFile (directory ++ [name])
  first : ∃ before after, names = before ++ name :: after
    ∧ ∀ earlier ∈ before, ¬ tree.HasFile (directory ++ [earlier])

/-- Of the directories from a place up to the root, this is the nearest one with a configuration file,
and this is the name that counts in it. -/
structure Nearest (tree : FileTree) (start directory : Location) (name : String) : Prop where
  above : directory <+: start
  first : First tree directory name
  nearest : ∀ nearer, nearer <+: start → directory.length < nearer.length → Bare tree nearer

/-- What comes of a configuration file, by what reading its bytes brings. -/
inductive Comes (path : String) : Except Files.Failure ByteArray → Except Diagnostic Config → Prop
  | unreadable {failure : Files.Failure} :
    Comes path (.error failure) (.error (.ofUnreadableConfig path failure))
  | notText {content : ByteArray} (h : String.fromUTF8? content = none) :
    Comes path (.ok content) (.error (.ofUnreadableConfig path .notText))
  | malformed {content : ByteArray} {text : String} {e : ConfigError}
    (h : String.fromUTF8? content = some text)
    (hparse : Config.parse text (Path.extension path) = .error e) :
    Comes path (.ok content) (.error (.ofConfigError path e))
  | config {content : ByteArray} {text : String} {config : Config}
    (h : String.fromUTF8? content = some text)
    (hparse : Config.parse text (Path.extension path) = .ok config) :
    Comes path (.ok content) (.ok config)

/-! ## One directory -/

theorem isName_names : ∀ name ∈ names, Path.IsName name := by
  simp only [names, List.forall_mem_cons]
  exact ⟨⟨by decide, by decide, by decide, by decide⟩, ⟨by decide, by decide, by decide, by decide⟩,
    ⟨by decide, by decide, by decide, by decide⟩, nofun⟩

theorem First.mem (h : First tree directory name) : name ∈ names := by
  obtain ⟨before, after, hnames, -⟩ := h.first
  rw [hnames]
  exact List.mem_append_right _ List.mem_cons_self

/-- The paths that are tried in one directory. -/
def inside (directory : Location) : List String :=
  names.map fun name => Path.absolute (directory ++ [name])

section Directory

variable {p : String → Bool}
  (hp : ∀ name ∈ names, p (Path.absolute (directory ++ [name])) = true ↔
    tree.HasFile (directory ++ [name]))

include hp

/-- Looking through the names in a directory finds the first one that is there. -/
theorem find?_inside_eq_some_iff :
    (inside directory).find? p = some path ↔
      ∃ name, First tree directory name ∧ path = Path.absolute (directory ++ [name]) := by
  simp only [inside, List.find?_map, Option.map_eq_some_iff, List.find?_eq_some_iff_append]
  constructor
  · rintro ⟨name, ⟨hfile, before, after, hnames, hbefore⟩, rfl⟩
    have hmem : ∀ other ∈ before ++ name :: after, other ∈ names := fun _ => (hnames ▸ ·)
    refine ⟨name, ⟨(hp name (hmem _ (by simp))).1 hfile, before, after, hnames, ?_⟩, rfl⟩
    intro earlier hearlier hhas
    rw [← hp earlier (hmem _ (List.mem_append_left _ hearlier))] at hhas
    simpa [hhas] using hbefore earlier hearlier
  · rintro ⟨name, hfirst, rfl⟩
    obtain ⟨before, after, hnames, hbefore⟩ := hfirst.first
    refine ⟨name, ⟨(hp name hfirst.mem).2 hfirst.file, before, after, hnames, ?_⟩, rfl⟩
    intro earlier hearlier
    have hmem : earlier ∈ names := hnames ▸ List.mem_append_left _ hearlier
    simpa [← hp earlier hmem] using hbefore earlier hearlier

/-- It finds nothing in a directory that has none of the names. -/
theorem find?_inside_eq_none_iff : (inside directory).find? p = none ↔ Bare tree directory := by
  rw [inside, List.find?_map, Option.map_eq_none_iff, List.find?_eq_none]
  exact forall₂_congr fun name hname => not_congr (hp name hname)

end Directory

/-! ## The whole way -/

/-- What is nearest seen from a directory is nearest from a bare one inside it, too. -/
theorem Nearest.of_concat {place : Location} {step : String}
    (hbare : Bare tree (place ++ [step])) (h : Nearest tree place directory name) :
    Nearest tree (place ++ [step]) directory name where
  above := h.above.trans (List.prefix_append _ _)
  first := h.first
  nearest nearer hnearer hlength := by
    rcases List.prefix_concat_iff.1 hnearer with rfl | hplace
    · exact hbare
    · exact h.nearest nearer hplace hlength

/-- The nearest directory with a configuration file is the place itself, or else it is the nearest one
seen from the directory that the place is in. -/
theorem nearest_concat {place : Location} {step : String} :
    Nearest tree (place ++ [step]) directory name ↔
      directory = place ++ [step] ∧ First tree directory name
        ∨ Bare tree (place ++ [step]) ∧ Nearest tree place directory name := by
  constructor
  · intro h
    rcases List.prefix_concat_iff.1 h.above with hself | hplace
    · exact .inl ⟨hself, h.first⟩
    · have hlength : directory.length < (place ++ [step]).length := by
        have := hplace.length_le
        simp only [List.length_append, List.length_singleton]
        omega
      exact .inr ⟨h.nearest _ (List.prefix_refl _) hlength, hplace, h.first, fun nearer hnearer =>
        h.nearest nearer (hnearer.trans (List.prefix_append _ _))⟩
  · rintro (⟨rfl, hfirst⟩ | ⟨hbare, h⟩)
    · exact ⟨List.prefix_refl _, hfirst, fun nearer hnearer hlength =>
        absurd hnearer.length_le (Nat.not_le_of_lt hlength)⟩
    · exact h.of_concat hbare

theorem nearest_nil : Nearest tree [] directory name ↔ directory = [] ∧ First tree [] name := by
  constructor
  · intro h
    obtain rfl := List.prefix_nil.1 h.above
    exact ⟨rfl, h.first⟩
  · rintro ⟨rfl, hfirst⟩
    exact ⟨List.prefix_refl _, hfirst, fun nearer hnearer hlength =>
      absurd hnearer.length_le (Nat.not_le_of_lt hlength)⟩

theorem candidates_nil : candidates [] = inside [] := by
  rw [candidates, Location.ancestors_nil]
  exact List.flatMap_singleton _ _

/-- The paths in a directory are tried before those in the directories above it. -/
theorem candidates_concat (place : Location) (step : String) :
    candidates (place ++ [step]) = inside (place ++ [step]) ++ candidates place := by
  rw [candidates, Location.ancestors_concat, List.flatMap_cons]
  rfl

section Search

variable {p : String → Bool}

/-- The search ends with the first name in the nearest directory. The induction goes from the root down
to where the search starts. -/
theorem find?_candidates_eq_some_iff
    (hp : ∀ directory, directory <+: start → ∀ name ∈ names,
      p (Path.absolute (directory ++ [name])) = true ↔ tree.HasFile (directory ++ [name])) :
    (candidates start).find? p = some path ↔
      ∃ directory name, Nearest tree start directory name
        ∧ path = Path.absolute (directory ++ [name]) := by
  induction start using List.reverseRecOn with
  | nil =>
    rw [candidates_nil, find?_inside_eq_some_iff (hp [] (List.prefix_refl _))]
    simp only [nearest_nil, and_assoc, exists_and_left, exists_eq_left]
  | append_singleton place step ih =>
    have hself := hp _ (List.prefix_refl _)
    rw [candidates_concat, List.find?_append, Option.or_eq_some_iff,
      find?_inside_eq_some_iff hself, find?_inside_eq_none_iff hself,
      ih fun directory h => hp directory (h.trans (List.prefix_append _ _))]
    simp only [nearest_concat, or_and_right, exists_or, and_assoc, exists_and_left, exists_eq_left]

/-- The search is in vain exactly if all directories on the way up are bare. The induction is on the
way. -/
theorem find?_candidates_eq_none_iff
    (hp : ∀ directory, directory <+: start → ∀ name ∈ names,
      p (Path.absolute (directory ++ [name])) = true ↔ tree.HasFile (directory ++ [name])) :
    (candidates start).find? p = none ↔ ∀ directory, directory <+: start → Bare tree directory := by
  induction start using List.reverseRecOn with
  | nil =>
    rw [candidates_nil, find?_inside_eq_none_iff (hp [] (List.prefix_refl _))]
    simp only [List.prefix_nil, forall_eq]
  | append_singleton place step ih =>
    rw [candidates_concat, List.find?_append, Option.or_eq_none_iff,
      find?_inside_eq_none_iff (hp _ (List.prefix_refl _)),
      ih fun directory h => hp directory (h.trans (List.prefix_append _ _))]
    simp only [List.prefix_concat_iff, or_imp, forall_and, forall_eq]

end Search

/-- The paths that are tried lead to what stands at their places. -/
theorem isRegular_candidate (hkind : files.kind? = (tree.files start).kind?)
    (hstart : ∀ name ∈ start, Path.IsName name) (hdirectory : directory <+: start) :
    ∀ name ∈ names, (files.isRegular (Path.absolute (directory ++ [name]))).run = true ↔
      tree.HasFile (directory ++ [name]) := by
  intro name hname
  refine FileTree.isRegular_absolute hkind (List.concat_ne_nil _ _) fun part hpart => ?_
  rcases List.mem_append.1 hpart with hpart | hpart
  · exact hstart part (hdirectory.subset hpart)
  · exact List.mem_singleton.1 hpart ▸ isName_names name hname

/-- The file that is found is the nearest one, whatever else there is. -/
theorem find?_eq_some_iff (hkind : files.kind? = (tree.files start).kind?)
    (hstart : ∀ name ∈ start, Path.IsName name) :
    (find? files start).run = some path ↔
      ∃ directory name, Nearest tree start directory name
        ∧ path = Path.absolute (directory ++ [name]) := by
  rw [find?, firstRegular?_eq]
  exact find?_candidates_eq_some_iff fun _ => isRegular_candidate hkind hstart

/-- No file is found if there is none from the start up to the root. -/
theorem find?_eq_none_iff (hkind : files.kind? = (tree.files start).kind?)
    (hstart : ∀ name ∈ start, Path.IsName name) :
    (find? files start).run = none ↔ ∀ directory, directory <+: start → Bare tree directory := by
  rw [find?, firstRegular?_eq]
  exact find?_candidates_eq_none_iff fun _ => isRegular_candidate hkind hstart

/-! ## Loading what was found -/

/-- Reading a text is reading bytes, and then decoding them. -/
theorem readText_eq_decode (path : String) :
    (files.readText path).run = (files.read path).run.bind Files.decode := rfl

/-- What loading a file comes to depends on its path and its bytes alone. -/
theorem comes_load (files : Files Id) (path : String) :
    Comes path (files.read path).run (load files path).run := by
  cases hread : (files.read path).run with
  | error failure =>
    rw [load_unreadable (by rw [readText_eq_decode, hread]; rfl)]
    exact .unreadable
  | ok content =>
    have htext : (files.readText path).run = Files.decode content := by
      rw [readText_eq_decode, hread]
      rfl
    rw [Files.decode] at htext
    cases hcontent : String.fromUTF8? content with
    | none =>
      rw [load_unreadable (by rw [htext, hcontent])]
      exact .notText hcontent
    | some text =>
      rw [load_readable (by rw [htext, hcontent]), parse]
      cases hparse : Config.parse text (Path.extension path) with
      | error e => exact .malformed hcontent hparse
      | ok config => exact .config hcontent hparse

end ConfigFile

namespace Check

variable {files : Files Id} {start : Location} {options : CheckOptions}

/-- Without a file that is named, a run starts from what is found, or else from the standard. -/
theorem configuration_eq (hconfig : options.config? = none) :
    (configuration files start options).run =
      ((ConfigFile.findAndLoad files start).run.map (·.getD Config.standard) >>= fun config =>
        withDialect config options.dialect? : Except Diagnostic Config) := by
  rw [configuration, hconfig, run_bind_id, run_map_id]
  rfl

/-- A run without a configuration is over. -/
theorem run_eq_error {parser : Sql.Parser} {color : Bool} {diagnostic : Diagnostic}
    (h : (configuration files start options).run = Except.error diagnostic) :
    (run files parser start color options).run = Except.error diagnostic := by
  rw [run, run_bind_id, settle, run_bind_id, h]
  rfl

end Check

namespace ConfigFile

variable {tree : FileTree} {files : Files Id} {start directory : Location} {name path : String}

/-- **The nearest configuration file, and no other one.** The search ends with the first name in the
nearest directory from the start up to the root that has a regular file with one of the names, and it
ends without a path exactly if there is no such directory; reading files may fail as it likes. What is
loaded is then what comes of the file that was found: if it cannot be read or is malformed, then there
is no configuration, and a check that names none says so and ends with code 2. Only if nothing was
found does a check start from the standard configuration. -/
theorem find_and_load (hstart : ∀ name ∈ start, Path.IsName name)
    (hkind : files.kind? = (tree.files start).kind?) :
    (∀ path, (find? files start).run = some path ↔
      ∃ directory name, Nearest tree start directory name
        ∧ path = Path.absolute (directory ++ [name]))
      ∧ ((find? files start).run = none ↔
        ∀ directory, directory <+: start → Bare tree directory)
      ∧ (∀ path, (find? files start).run = some path →
        ∃ result, Comes path (files.read path).run result
          ∧ (findAndLoad files start).run = result.map some
          ∧ ∀ (options : CheckOptions), options.config? = none →
            (Check.configuration files start options).run = (result >>= fun config =>
              Check.withDialect config options.dialect? : Except Diagnostic Config)
            ∧ ∀ diagnostic, result = .error diagnostic → ∀ color arguments parser,
              Request.ofArguments arguments = .ok (.check options) →
              (Program.run files start color arguments parser).run = .ofDiagnostic diagnostic)
      ∧ ((find? files start).run = none →
        (findAndLoad files start).run = Except.ok none
          ∧ ∀ (options : CheckOptions), options.config? = none →
            (Check.configuration files start options).run =
              Check.withDialect Config.standard options.dialect?) := by
  refine ⟨fun path => find?_eq_some_iff hkind hstart, find?_eq_none_iff hkind hstart, ?_, ?_⟩
  · intro path hfound
    have hload : (findAndLoad files start).run = (load files path).run.map some := by
      rw [findAndLoad_eq, hfound]
    refine ⟨_, comes_load files path, hload, fun options hconfig => ?_⟩
    have hconfiguration : (Check.configuration files start options).run =
        ((load files path).run >>= fun config =>
          Check.withDialect config options.dialect? : Except Diagnostic Config) := by
      rw [Check.configuration_eq hconfig, hload]
      cases (load files path).run <;> rfl
    refine ⟨hconfiguration, fun diagnostic herror color arguments parser hread => ?_⟩
    rw [Program.run, hread]
    refine congrArg Outcome.ofExcept (Check.run_eq_error ?_)
    rw [hconfiguration, herror]
    rfl
  · intro hfound
    have hload : (findAndLoad files start).run = Except.ok none := by
      rw [findAndLoad_eq, hfound]
    refine ⟨hload, fun options hconfig => ?_⟩
    rw [Check.configuration_eq hconfig, hload]
    rfl

/-- A directory has the first name, the second one is a file that may not be read, and there is another
configuration file above. -/
theorem find_and_load_refused :
    let tree : FileTree := .directory [("sqlint.toml", .file "[rules]".toUTF8), ("w", .directory
      [(".sqlintrc.toml", .directory []), (".sqlintrc.json", .file ⟨#[]⟩), ("deep", .directory [])])]
    let start := ["w", "deep"]
    let path := "/w/.sqlintrc.json"
    let failure : Files.Failure := .other "Permission denied (os error 13)"
    let files : Files Id := { tree.files start with
      read := fun other => if other = path then .error failure else (tree.files start).read other }
    (∃ directory name, Nearest tree start directory name
        ∧ path = Path.absolute (directory ++ [name]))
      ∧ (Program.run files start false ["check", "a.sql"] .standard).run =
        .ofDiagnostic (.ofUnreadableConfig path failure) := by
  intro tree start path failure files
  have hstart : ∀ name ∈ start, Path.IsName name := by
    simp only [start, List.forall_mem_cons]
    exact ⟨⟨by decide, by decide, by decide, by decide⟩,
      ⟨by decide, by decide, by decide, by decide⟩, nofun⟩
  have hkind : files.kind? = (tree.files start).kind? := rfl
  obtain ⟨hsome, -, hloads, -⟩ := find_and_load hstart hkind
  have hfound : (find? files start).run = some path := by
    simp only [files, tree, start, path]
    rfl
  have hread : (files.read path).run = .error failure := rfl
  obtain ⟨result, hcomes, -, hruns⟩ := hloads path hfound
  rw [hread] at hcomes
  cases hcomes
  exact ⟨(hsome path).1 hfound, (hruns _ rfl).2 _ rfl false _ .standard rfl⟩

end ConfigFile

end QueryLint
