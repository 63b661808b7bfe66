import Mathlib.Data.List.Forall2
import QueryLint.CommandLine.Run
import QueryLint.Proofs.Except

/-!
# What a check comes to

Before a check looks at files it settles what to do (`Settled`): a configuration is loaded and given
the dialect of the command line, the patterns to pass over are read, and the arguments are taken for
paths, at least one of which has to be left. From there on nothing stops it: path by path a file is
linted by itself or costs a line of complaint (`Checked`). `run_check` says that the report, the
complaints and the code of a run are those of its paths, and that a run which settles nothing does
nothing either.
-/

namespace QueryLint

namespace FileTree

variable (tree : FileTree) (workplace : Location)

/-- A path leads to a file of text. -/
def Holds (path text : String) : Prop :=
  ∃ content, tree.resolve workplace path = .ok (.file content)
    ∧ String.fromUTF8? content = some text

/-- A path does not lead to a file of text, for a reason. -/
inductive Fails (path : String) : Files.Failure → Prop
  | nowhere {failure : Files.Failure} (h : tree.resolve workplace path = .error failure) :
    Fails path failure
  | directory {entries : List (String × FileTree)}
    (h : tree.resolve workplace path = .ok (.directory entries)) : Fails path .isDirectory
  | notText {content : ByteArray} (h : tree.resolve workplace path = .ok (.file content))
    (hcontent : String.fromUTF8? content = none) : Fails path .notText

/-- Whether a path leads to a file. -/
def isFile (path : String) : Bool :=
  match tree.resolve workplace path with
  | .ok (.file _) => true
  | _ => false

variable {tree workplace} {path text : String} {failure : Files.Failure}

/-- Where a path leads nowhere, the reason for that is why there is no text. -/
theorem readText_nowhere (h : tree.resolve workplace path = .error failure) :
    ((tree.files workplace).readText path).run = .error failure := by
  simp only [Files.readText, files, h]
  rfl

theorem readText_directory {entries : List (String × FileTree)}
    (h : tree.resolve workplace path = .ok (.directory entries)) :
    ((tree.files workplace).readText path).run = .error .isDirectory := by
  simp only [Files.readText, files, h]
  rfl

theorem readText_file {content : ByteArray}
    (h : tree.resolve workplace path = .ok (.file content)) :
    ((tree.files workplace).readText path).run = Files.decode content := by
  simp only [Files.readText, files, h]
  rfl

/-- A text is read where a path leads to a file that holds it, and nowhere else. -/
theorem readText_eq_ok_iff :
    ((tree.files workplace).readText path).run = .ok text ↔ tree.Holds workplace path text := by
  rw [Holds]
  cases hfound : tree.resolve workplace path with
  | error failure => simp [readText_nowhere hfound]
  | ok found =>
    cases found with
    | directory entries => simp [readText_directory hfound]
    | file content =>
      rw [readText_file hfound, Files.decode]
      cases h : String.fromUTF8? content <;> simp_all

/-- When no text is read, the tree has a reason for it, and it is the one that is given. -/
theorem fails_of_readText (h : ((tree.files workplace).readText path).run = .error failure) :
    tree.Fails workplace path failure := by
  cases hfound : tree.resolve workplace path with
  | error failure =>
    rw [readText_nowhere hfound] at h
    obtain rfl := Except.error.inj h
    exact .nowhere hfound
  | ok found =>
    cases found with
    | directory entries =>
      rw [readText_directory hfound] at h
      obtain rfl := Except.error.inj h
      exact .directory hfound
    | file content =>
      rw [readText_file hfound, Files.decode] at h
      split at h
      · cases h
      next hcontent =>
        obtain rfl := Except.error.inj h
        exact .notText hfound hcontent

/-- To ask the files of a tree is to look in the tree. -/
theorem isRegular_files : ((tree.files workplace).isRegular path).run = tree.isFile workplace path := by
  change (((tree.resolve workplace path).toOption.map kind) == some .regular) = _
  rw [isFile]
  cases tree.resolve workplace path with
  | error failure => rfl
  | ok found => cases found <;> rfl

end FileTree

namespace ConfigFile

variable {files : Files Id} {tree : FileTree} {workplace : Location}

/-- The paths are asked about in order, and the first that is a file is taken. -/
theorem firstRegular?_eq (paths : List String) :
    (firstRegular? files paths).run = paths.find? fun path => (files.isRegular path).run := by
  induction paths with
  | nil => rfl
  | cons path more ih =>
    change (if (files.isRegular path).run then some path else (firstRegular? files more).run) = _
    rw [ih, List.find?_cons]
    cases (files.isRegular path).run <;> rfl

theorem firstRegular?_files (paths : List String) :
    (firstRegular? (tree.files workplace) paths).run = paths.find? (tree.isFile workplace) := by
  simp only [firstRegular?_eq, FileTree.isRegular_files]

/-- A text is read as a configuration in the format that the extension of its path stands for. -/
theorem parse_eq_ok_iff {path text : String} {config : Config} :
    parse path text = .ok config ↔ Config.parse text (Path.extension path) = .ok config := by
  rw [parse]
  cases Config.parse text (Path.extension path) <;> simp

/-- A configuration file that can be read is as good as its text. -/
theorem load_readable {path text : String} (h : (files.readText path).run = .ok text) :
    (load files path).run = parse path text := by
  have hpure : files.readText path = pure (.ok text) := h
  rw [load, hpure, liftM_pure, pure_bind]
  rfl

theorem load_unreadable {path : String} {failure : Files.Failure}
    (h : (files.readText path).run = .error failure) :
    (load files path).run = Except.error (.ofUnreadableConfig path failure) := by
  have hpure : files.readText path = pure (.error failure) := h
  rw [load, hpure, liftM_pure, pure_bind]
  rfl

/-- A configuration file is loaded if it is one. -/
theorem load_eq_ok_iff {path : String} {config : Config} :
    (load (tree.files workplace) path).run = Except.ok config ↔
      ∃ text, tree.Holds workplace path text
        ∧ Config.parse text (Path.extension path) = .ok config := by
  simp only [← FileTree.readText_eq_ok_iff]
  cases hread : ((tree.files workplace).readText path).run with
  | ok text =>
    simp only [load_readable hread, Except.ok.injEq, exists_eq_left']
    exact parse_eq_ok_iff
  | error failure => simp [load_unreadable hread]

/-- The file that is found is loaded, and nothing else. -/
theorem findAndLoad_eq :
    (findAndLoad files workplace).run = match (find? files workplace).run with
      | some path => (load files path).run.map some
      | none => Except.ok none := by
  change (match (find? files workplace).run with
    | some path => some <$> load files path
    | none => pure none : ExceptT Diagnostic Id (Option Config)).run = _
  cases (find? files workplace).run with
  | none => rfl
  | some path => exact run_map_id some (load files path)

/-- The nearest configuration file is loaded, if there is one. -/
theorem findAndLoad_files (standard : Config) :
    ((·.getD standard) <$> findAndLoad (tree.files workplace) workplace).run =
      match (candidates workplace).find? (tree.isFile workplace) with
      | some path => (load (tree.files workplace) path).run
      | none => Except.ok standard := by
  rw [← firstRegular?_files, run_map_id, findAndLoad_eq, find?]
  cases (firstRegular? (tree.files workplace) (candidates workplace)).run with
  | none => rfl
  | some path =>
    change Except.map _ ((load (tree.files workplace) path).run.map some) =
      (load (tree.files workplace) path).run
    cases (load (tree.files workplace) path).run <;> rfl

end ConfigFile

/-- What is found for each of some names is found for all of them in order. -/
theorem flatten_mapM_id {α β : Type} (f : α → Id (List β)) (xs : List α) :
    (xs.mapM f).run.flatten = xs.flatMap fun x => (f x).run := by
  induction xs with
  | nil => rfl
  | cons x xs ih =>
    rw [List.mapM_cons, List.flatMap_cons, ← ih]
    rfl

/-- A pattern of a single name stands for names in the directory where the search starts. -/
theorem Glob.expand_name {files : Files Id} {pattern : Glob.Pattern} {names : List String}
    (hliteral : pattern.literal? = none) (hspecial : Glob.specialNames pattern = [])
    (hrecursive : pattern.isRecursive = false) (hnames : (files.names? ".").run = some names) :
    (Glob.expand files ⟨".", [pattern], false⟩).run =
      (names.mergeSort fun a b => !(b < a)).filter pattern.matchesText := by
  have hvisit : ∀ name, (Glob.visit files false (Glob.below files false longestPath) pattern [] name
      (Glob.pathIn "." name)).run = if pattern.matchesText name then [name] else [] := by
    intro name
    rw [Glob.visit, hrecursive, if_neg Bool.false_ne_true, Glob.compare]
    split <;> rfl
  change (Glob.below files false (longestPath + 1) [pattern] ".").run = _
  rw [Glob.below, hliteral, hspecial]
  dsimp only
  rw [Id.run_bind, hnames]
  change List.flatten (Id.run (List.mapM _ _)) = _
  rw [flatten_mapM_id]
  simp only [hvisit]
  induction names.mergeSort fun a b => !(b < a) with
  | nil => rfl
  | cons name rest ih =>
    rw [List.flatMap_cons, List.filter_cons, ih]
    split <;> rfl

/-- A result whose counts were taken of its issues has errors if one of these is an error. -/
theorem LintResult.hasErrors_ofIssues (filename : String) (issues : List Issue) :
    (ofIssues filename issues).hasErrors = true ↔
      ∃ issue ∈ (ofIssues filename issues).issues, issue.severity = .error := by
  rw [hasErrors, decide_eq_true_iff]
  simp [ofIssues, count, List.countP_pos_iff]

namespace Check

variable (tree : FileTree) (workplace : Location)

/-! ## What is settled first -/

/-- The configuration that a run starts from: that of the file which is named, or else of the nearest
configuration file, or else the standard one. -/
inductive Loads : Option String → Config → Prop
  | named {path text : String} {config : Config} (htext : tree.Holds workplace path text)
    (hconfig : Config.parse text (Path.extension path) = .ok config) : Loads (some path) config
  | nearest {path text : String} {config : Config}
    (hpath : (ConfigFile.candidates workplace).find? (tree.isFile workplace) = some path)
    (htext : tree.Holds workplace path text)
    (hconfig : Config.parse text (Path.extension path) = .ok config) : Loads none config
  | standard (h : ∀ path ∈ ConfigFile.candidates workplace, tree.isFile workplace path = false) :
    Loads none Config.standard

/-- The dialect of the command line takes the place of the one in a configuration. -/
inductive Overrides (config : Config) : Option String → Config → Prop
  | kept : Overrides config none config
  | replaced {name : String} {dialect : Dialect} (h : Dialect.parse name = .ok dialect) :
    Overrides config (some name) { config with dialect? := some dialect }

/-- The paths that an argument names. -/
inductive Names : String → List String → Prop
  | plain {argument : String} (h : Glob.hasWildcards argument = false) : Names argument [argument]
  | wildcards {argument : String} {pattern : Glob.PathPattern}
    (h : Glob.hasWildcards argument = true)
    (hpattern : Glob.PathPattern.parse argument = .ok pattern) :
    Names argument (Glob.expand (tree.files workplace) pattern)

/-- What a check settles before it looks at files: the configuration and the paths, in the order of
the arguments and without those that a pattern of the configuration stands for. -/
inductive Settled (options : CheckOptions) : Config → List String → Prop
  | intro {loaded config : Config} {patterns : List Glob.Pattern} {found : List (List String)}
    (hloaded : Loads tree workplace options.config? loaded)
    (hdialect : Overrides loaded options.dialect? config)
    (hpatterns : List.Forall₂ (fun text pattern => Glob.Pattern.parse text = .ok pattern)
      config.ignorePatterns patterns)
    (hfound : List.Forall₂ (Names tree workplace) options.files found)
    (hkept : (found.flatten.filter fun path => ¬ ∃ pattern ∈ patterns,
      pattern.matches path.toList = true) ≠ []) :
    Settled options config (found.flatten.filter fun path => ¬ ∃ pattern ∈ patterns,
      pattern.matches path.toList = true)

/-- What becomes of paths: a file of text is linted by itself, under its path, and gives a result; all
that a path without one gives is a line that says so. -/
inductive Checked (parser : Sql.Parser) (config : Config) :
    List String → List LintResult → List String → Prop
  | nil : Checked parser config [] [] []
  | read {path text : String} {paths lines : List String} {results : List LintResult}
    (htext : tree.Holds workplace path text) (h : Checked parser config paths results lines) :
    Checked parser config (path :: paths)
      (Linter.lint config Registry.standard { filename := path, text } parser :: results) lines
  | missed {path : String} {failure : Files.Failure} {paths lines : List String}
    {results : List LintResult} (hfailure : tree.Fails workplace path failure)
    (h : Checked parser config paths results lines) :
    Checked parser config (path :: paths) results
      (("Error reading file " ++ path ++ ": " ++ failure.message ++ "\n") :: lines)

variable {tree workplace} {parser : Sql.Parser} {color : Bool} {options : CheckOptions}
  {config : Config}

/-! ## How a run settles it -/

/-- A dialect of the command line has to be the name of one. -/
theorem withDialect_eq_ok_iff {loaded : Config} {dialect? : Option String} :
    withDialect loaded dialect? = .ok config ↔ Overrides loaded dialect? config := by
  constructor
  · intro h
    unfold withDialect at h
    split at h
    · obtain rfl := Except.ok.inj h
      exact .kept
    · split at h
      next hdialect =>
        obtain rfl := Except.ok.inj h
        exact .replaced hdialect
      next => cases h
  · rintro (_ | h)
    · rfl
    · rw [withDialect, h]
      rfl

/-- The configuration that a run starts from, if there is one. -/
def loading (tree : FileTree) (workplace : Location) (config? : Option String) :
    Except Diagnostic Config :=
  match config?, (ConfigFile.candidates workplace).find? (tree.isFile workplace) with
  | some path, _ => (ConfigFile.load (tree.files workplace) path).run
  | none, some path => (ConfigFile.load (tree.files workplace) path).run
  | none, none => .ok Config.standard

/-- The three ways to a configuration are the three cases of `Loads`. -/
theorem loading_eq_ok_iff {config? : Option String} :
    loading tree workplace config? = .ok config ↔ Loads tree workplace config? config := by
  unfold loading
  split
  next path _ =>
    rw [ConfigFile.load_eq_ok_iff]
    constructor
    · rintro ⟨text, htext, hconfig⟩
      exact .named htext hconfig
    · rintro ⟨⟩
      next htext hconfig => exact ⟨_, htext, hconfig⟩
  next path hfile =>
    rw [ConfigFile.load_eq_ok_iff]
    constructor
    · rintro ⟨text, htext, hconfig⟩
      exact .nearest hfile htext hconfig
    · intro h
      cases h with
      | nearest hother htext hconfig =>
        obtain rfl := Option.some.inj (hfile.symm.trans hother)
        exact ⟨_, htext, hconfig⟩
      | standard h =>
        rw [List.find?_eq_none.2 fun path hmem => Bool.eq_false_iff.1 (h path hmem)] at hfile
        cases hfile
  next hfile =>
    constructor
    · intro h
      obtain rfl := Except.ok.inj h
      exact .standard fun path hmem => Bool.eq_false_iff.2 (List.find?_eq_none.1 hfile path hmem)
    · intro h
      cases h with
      | nearest hpath => cases hfile.symm.trans hpath
      | standard => rfl

/-- A run has a configuration if one can be loaded and the dialect of the command line, if any, is
known. -/
theorem configuration_eq_ok_iff :
    (configuration (tree.files workplace) workplace options).run = Except.ok config ↔
      ∃ loaded, Loads tree workplace options.config? loaded
        ∧ Overrides loaded options.dialect? config := by
  have hrun : (configuration (tree.files workplace) workplace options).run =
      (loading tree workplace options.config? >>= fun loaded =>
        withDialect loaded options.dialect? : Except Diagnostic Config) := by
    rw [configuration]
    unfold loading
    cases options.config? with
    | some path => exact run_bind_id _ _
    | none =>
      refine (run_bind_id _ _).trans ?_
      rw [ConfigFile.findAndLoad_files]
      cases (ConfigFile.candidates workplace).find? (tree.isFile workplace) <;> rfl
  rw [hrun]
  constructor
  · intro h
    obtain ⟨loaded, hloaded, h⟩ := exists_of_bind_eq_ok h
    exact ⟨loaded, loading_eq_ok_iff.1 hloaded, withDialect_eq_ok_iff.1 h⟩
  · rintro ⟨loaded, hloaded, h⟩
    rw [loading_eq_ok_iff.2 hloaded]
    exact withDialect_eq_ok_iff.2 h

/-- Patterns are read one by one, and all of them have to be patterns. -/
theorem ignored_eq_ok_iff {patterns : List Glob.Pattern} :
    ignored config = .ok patterns ↔
      List.Forall₂ (fun text pattern => Glob.Pattern.parse text = .ok pattern)
        config.ignorePatterns patterns := by
  rw [ignored, mapM_eq_ok_iff]
  refine ⟨fun h => h.imp ?_, fun h => h.imp ?_⟩
  · intro text pattern h
    split at h
    next hpattern => rwa [← Except.ok.inj h]
    next => cases h
  · intro text pattern h
    rw [h]

/-- An argument stands for itself unless it has a wildcard in it. -/
theorem paths_eq_ok_iff {argument : String} {found : List String} :
    (paths (tree.files workplace) argument).run = Except.ok found ↔
      Names tree workplace argument found := by
  constructor
  · intro h
    unfold paths at h
    split at h
    next hwild =>
      split at h
      next hpattern =>
        obtain rfl := Except.ok.inj h
        exact .wildcards hwild hpattern
      next => cases h
    next hplain =>
      obtain rfl := Except.ok.inj h
      exact .plain (Bool.eq_false_iff.2 hplain)
  · rintro (h | ⟨h, hpattern⟩)
    · rw [paths, if_neg (Bool.eq_false_iff.1 h)]
      rfl
    · rw [paths, if_pos h, hpattern]
      rfl

/-- The list of paths without those that some pattern stands for. -/
theorem keep_eq (patterns : List Glob.Pattern) (paths : List String) :
    keep patterns paths = paths.filter fun path => ¬ ∃ pattern ∈ patterns,
      pattern.matches path.toList = true := by
  rw [keep]
  congr
  funext path
  rw [List.any_eq, decide_not]
  rfl

/-- What reading files brings. -/
def readings (tree : FileTree) (workplace : Location) (paths : List String) :
    List (String × Except Files.Failure String) :=
  paths.map fun path => (path, ((tree.files workplace).readText path).run)

/-- Files are read in the order of their paths, each as if it were the only one. -/
theorem mapM_reading (paths : List String) :
    (paths.mapM (reading (tree.files workplace))).run = readings tree workplace paths := by
  induction paths with
  | nil => rfl
  | cons path paths ih =>
    rw [List.mapM_cons]
    change _ :: (paths.mapM (reading (tree.files workplace))).run = _
    rw [ih]
    rfl

/-- What is settled step by step, where the answers to the questions are known. -/
theorem settle_files :
    (settle (tree.files workplace) workplace options).run =
      ((configuration (tree.files workplace) workplace options).run >>= fun config =>
        ignored config >>= fun patterns =>
        (options.files.mapM fun argument => (paths (tree.files workplace) argument).run)
          >>= fun found =>
        if (keep patterns found.flatten).isEmpty then
          .error { message := "No SQL files matched the given patterns" }
        else .ok (config, keep patterns found.flatten) :
        Except Diagnostic (Config × List String)) := by
  -- A tree answers at once, so the steps of both sides correspond one by one.
  rw [settle, run_bind_id]
  congr 1
  funext config
  rw [run_bind_id]
  congr 1
  funext patterns
  rw [run_bind_id, run_mapM_id]
  rfl

/-- What a run has settled when nothing stopped it is what `Settled` says. -/
theorem settle_eq_ok_iff {kept : List String} :
    (settle (tree.files workplace) workplace options).run = Except.ok (config, kept) ↔
      Settled tree workplace options config kept := by
  rw [settle_files]
  constructor
  · intro h
    obtain ⟨settled, hconfig, h⟩ := exists_of_bind_eq_ok h
    obtain ⟨loaded, hloaded, hdialect⟩ := configuration_eq_ok_iff.1 hconfig
    obtain ⟨patterns, hpatterns, h⟩ := exists_of_bind_eq_ok h
    obtain ⟨found, hfound, h⟩ := exists_of_bind_eq_ok h
    rw [mapM_eq_ok_iff] at hfound
    rw [keep_eq] at h
    split at h
    · cases h
    next hkept =>
      obtain ⟨rfl, rfl⟩ := Prod.mk.inj (Except.ok.inj h)
      refine .intro hloaded hdialect (ignored_eq_ok_iff.1 hpatterns)
        (hfound.imp fun _ _ => paths_eq_ok_iff.1) ?_
      rwa [List.isEmpty_iff] at hkept
  · rintro ⟨hloaded, hdialect, hpatterns, hfound, hkept⟩
    rw [configuration_eq_ok_iff.2 ⟨_, hloaded, hdialect⟩]
    change (ignored config >>= fun _ => _) = _
    rw [ignored_eq_ok_iff.2 hpatterns]
    change ((options.files.mapM fun argument => (paths (tree.files workplace) argument).run)
      >>= fun _ => _) = _
    rw [mapM_eq_ok_iff.2 (hfound.imp fun _ _ => paths_eq_ok_iff.2)]
    change (if _ then _ else _) = _
    rw [keep_eq, if_neg (by rwa [List.isEmpty_iff])]

/-- A run, where the answers to its questions are known. -/
theorem run_files :
    (run (tree.files workplace) parser workplace color options).run =
      ((settle (tree.files workplace) workplace options).run.map fun (config, paths) =>
        Check.outcome config parser options.format color (readings tree workplace paths) :
        Except Diagnostic Outcome) := by
  rw [run, run_bind_id]
  cases (settle (tree.files workplace) workplace options).run with
  | error diagnostic => rfl
  | ok settled =>
    change Except.ok (Check.outcome settled.1 parser options.format color
      (settled.2.mapM (reading (tree.files workplace))).run) = _
    rw [mapM_reading]
    rfl

/-- A run gets to its files if it has settled what to do. -/
theorem run_eq_ok_iff {outcome : Outcome} :
    (run (tree.files workplace) parser workplace color options).run = Except.ok outcome ↔
      ∃ config paths, Settled tree workplace options config paths
        ∧ Check.outcome config parser options.format color (readings tree workplace paths) =
          outcome := by
  rw [run_files]
  constructor
  · intro h
    cases hsettled : (settle (tree.files workplace) workplace options).run with
    | error diagnostic =>
      rw [hsettled] at h
      cases h
    | ok settled =>
      rw [hsettled] at h
      exact ⟨_, _, settle_eq_ok_iff.1 hsettled, Except.ok.inj h⟩
  · rintro ⟨config, paths, hsettled, rfl⟩
    rw [settle_eq_ok_iff.2 hsettled]
    rfl

/-! ## What becomes of the files -/

/-- What the readings of some paths come to is what `Checked` says of the paths. The induction is on
the paths, and each reading is a case of its own. -/
theorem checked_readings (paths : List String) :
    Checked tree workplace parser config paths (results config parser (readings tree workplace paths))
      (complaints (readings tree workplace paths)) := by
  induction paths with
  | nil => exact .nil
  | cons path paths ih =>
    cases h : ((tree.files workplace).readText path).run with
    | ok text =>
      rw [readings, List.map_cons, h]
      exact .read (FileTree.readText_eq_ok_iff.1 h) ih
    | error failure =>
      rw [readings, List.map_cons, h]
      exact .missed (FileTree.fails_of_readText h) ih

/-- Some result of checked paths has errors if one of all their issues is an error. -/
theorem Checked.any_hasErrors {paths lines : List String} {results : List LintResult}
    (h : Checked tree workplace parser config paths results lines) :
    results.any LintResult.hasErrors = true ↔
      ∃ result ∈ results, ∃ issue ∈ result.issues, issue.severity = .error := by
  induction h with
  | nil => simp
  | read _ _ ih =>
    rw [List.any_cons, Bool.or_eq_true, ih, List.exists_mem_cons_iff]
    exact or_congr_left (LintResult.hasErrors_ofIssues _ _)
  | missed _ _ ih => exact ih

end Check

namespace Program

variable {tree : FileTree} {workplace : Location}

/-- **What a check reports and how it ends.** With its configuration and its paths settled, a run gives
the results of the readable files among them, in their order, and one line of complaint for each of
the others; it ends with code 1 if some issue in these results is an error, and else with 0, whatever
the form of the report and whatever the parser reads and refuses. A run that cannot settle them ends
with code 2 and reports nothing. The lines of a log, where one is kept, are not among those here. -/
theorem run_check (parser : Sql.Parser) (color : Bool) {arguments : List String}
    {options : CheckOptions} (h : Request.ofArguments arguments = .ok (.check options)) :
    (∀ config paths, Check.Settled tree workplace options config paths →
      ∃ results lines, Check.Checked tree workplace parser config paths results lines
        ∧ (run (tree.files workplace) workplace color arguments parser).run =
          { code := if ∃ result ∈ results, ∃ issue ∈ result.issues, issue.severity = .error
              then 1 else 0
            stdout := Report.render options.format color results
            stderr := String.join lines })
      ∧ ((¬ ∃ config paths, Check.Settled tree workplace options config paths) →
        ∃ complaint, (run (tree.files workplace) workplace color arguments parser).run =
          { code := 2, stderr := complaint }) := by
  have hrun : (run (tree.files workplace) workplace color arguments parser).run =
      Outcome.ofExcept (Check.run (tree.files workplace) parser workplace color options).run := by
    rw [run, h]
    rfl
  constructor
  · intro config paths hsettled
    have hchecked : Check.Checked tree workplace parser config paths _ _ :=
      Check.checked_readings paths
    refine ⟨_, _, hchecked, ?_⟩
    rw [hrun, Check.run_eq_ok_iff.2 ⟨config, paths, hsettled, rfl⟩]
    simp only [Outcome.ofExcept, Check.outcome, hchecked.any_hasErrors]
  · intro hnone
    rw [hrun]
    cases hcheck : (Check.run (tree.files workplace) parser workplace color options).run with
    | ok outcome =>
      obtain ⟨config, paths, hsettled, -⟩ := Check.run_eq_ok_iff.1 hcheck
      exact absurd ⟨config, paths, hsettled⟩ hnone
    | error diagnostic => exact ⟨_, rfl⟩

/-- A directory with a query, a file that is no text, a file to pass over and a configuration; a file
that is named does not exist. Without the configuration that is asked for, nothing is settled. -/
theorem run_check_mixed_files :
    let text := "\x7b\"ignorePatterns\":[\"o*\"],\"rules\":\x7b\"no-select-star\":\"error\"\x7d\x7d"
    let tree : FileTree := .directory [("w", .directory [("a.sql", .file "SELECT * FROM t".toUTF8),
      ("b.sql", .file ⟨#[0xff]⟩), ("old.sql", .file ⟨#[]⟩), (".sqlintrc.json", .file text.toUTF8)])]
    let config : Config :=
      { dialect? := some .postgres, ignorePatterns := ["o*"]
        rules := [("no-select-star", .level "error")] }
    let parser : Sql.Parser := .standard
    (∃ results lines,
      Check.Checked tree ["w"] parser config ["a.sql", "b.sql", "missing.sql"] results lines
      ∧ (run (tree.files ["w"]) ["w"] true
          ["check", "*.sql", "missing.sql", "-d", "PG", "-fjson"] parser).run =
        { code := if ∃ result ∈ results, ∃ issue ∈ result.issues, issue.severity = .error
            then 1 else 0
          stdout := Report.render .json true results
          stderr := String.join lines })
      ∧ ∃ complaint,
        (run (tree.files ["w"]) ["w"] true ["check", "a.sql", "-c", "no.toml"] parser).run =
          { code := 2, stderr := complaint } := by
  intro text tree config parser
  have hsort : (["a.sql", "b.sql", "old.sql", ".sqlintrc.json"].mergeSort fun a b => !(b < a)) =
      [".sqlintrc.json", "a.sql", "b.sql", "old.sql"] := by
    simp only [List.mergeSort, List.length_cons, List.length_nil, Nat.reduceAdd, Nat.reduceDiv,
      List.MergeSort.Internal.splitInTwo_fst, List.take_succ_cons, List.take_zero,
      List.MergeSort.Internal.splitInTwo_snd, List.drop_succ_cons, List.drop_zero,
      List.mergeSort_singleton, String.reduceLT, decide_false, decide_true, Bool.not_false,
      Bool.not_true, Bool.false_eq_true, not_false_eq_true, List.cons_merge_cons_pos,
      List.cons_merge_cons_neg, List.nil_merge, List.merge_right]
  let pattern : Glob.Pattern := [.anyText, .char '.', .char 's', .char 'q', .char 'l']
  have hexpand : Glob.expand (tree.files ["w"]) ⟨".", [pattern], false⟩ =
      (["a.sql", "b.sql", "old.sql"] : Id _) := by
    have hnames : ((tree.files ["w"]).names? ".").run =
        some ["a.sql", "b.sql", "old.sql", ".sqlintrc.json"] := rfl
    refine (Glob.expand_name rfl rfl rfl hnames).trans ?_
    rw [hsort]
    rfl
  have hholds : tree.Holds ["w"] "/w/.sqlintrc.json" text :=
    ⟨text.toUTF8, rfl, by simp [String.fromUTF8?, String.fromUTF8, text.isValidUTF8]⟩
  have hextension : Path.extension "/w/.sqlintrc.json" = "json" := by decide
  have hconfig : Config.parse text "json" = .ok { config with dialect? := none } := by
    simp only [text, config]
    rfl
  rw [← hextension] at hconfig
  have hdialect : Check.Overrides { config with dialect? := none } (some "PG") config :=
    .replaced rfl
  have hignored : List.Forall₂ (fun text pattern => Glob.Pattern.parse text = .ok pattern)
      config.ignorePatterns [[.char 'o', .anyText]] := .cons (by cbv) .nil
  have hpattern : Glob.PathPattern.parse "*.sql" = .ok ⟨".", [pattern], false⟩ := by cbv
  have hwild : Check.Names tree ["w"] "*.sql" ["a.sql", "b.sql", "old.sql"] :=
    hexpand ▸ .wildcards rfl hpattern
  have hfound : List.Forall₂ (Check.Names tree ["w"]) ["*.sql", "missing.sql"]
      [["a.sql", "b.sql", "old.sql"], ["missing.sql"]] := .cons hwild (.cons (.plain rfl) .nil)
  have hloaded : Check.Loads tree ["w"] none { config with dialect? := none } :=
    .nearest rfl hholds hconfig
  let options : CheckOptions := ⟨["*.sql", "missing.sql"], none, some "PG", .json⟩
  have hsettled : Check.Settled tree ["w"] options config ["a.sql", "b.sql", "missing.sql"] :=
    @Check.Settled.intro tree ["w"] options _ config _ _ hloaded hdialect hignored hfound (by decide)
  refine ⟨(run_check parser true rfl).1 config _ hsettled, (run_check parser true rfl).2 ?_⟩
  rintro ⟨_, _, ⟨⟨⟨content, hcontent, -⟩, -⟩, -, -, -, -⟩⟩
  cases hcontent

end Program

end QueryLint
