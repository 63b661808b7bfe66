import QueryLint.CommandLine.Perform
import QueryLint.Proofs.CommandLine.Check
import QueryLint.Proofs.CommandLine.Questions

/-!
# What carrying out a command line comes to

`Program.perform` does on a machine, act by act, what `Program.run` says beforehand (`perform_eq`).
An act that ends by itself has done all that its outcome says, and an act that stops has done nothing
(`ComesTo`): whatever can stop it, a question or a file that cannot be made, comes before the first
thing that it writes.
-/

namespace QueryLint

namespace Machine

/-- A machine after an outcome at a place of it. -/
def after (machine : Machine) (workplace : Location) (outcome : Outcome) : Machine where
  tree := outcome.treeAfter machine.tree workplace
  stdout := machine.stdout ++ outcome.stdout
  stderr := machine.stderr ++ outcome.stderr

/-- A program finds out something on a machine, which stays as it is. -/
def still (machine : Machine) : Agreement (StateM Machine) Id where
  Rel x y := x.run machine = (y.run, machine)
  pure _ := rfl
  bind h hrest := by
    rw [StateT.run_bind, h]
    exact hrest _

variable {machine next : Machine} {workplace : Location} {refusal? : Option Files.Failure}

theorem after_nothing (code : Nat) : machine.after workplace { code } = machine := by
  rw [after, String.append_empty, String.append_empty]
  rfl

/-- What is written after an outcome stands behind what it wrote. -/
theorem after_after (outcome : Outcome) (stdout stderr : String) :
    (machine.after workplace outcome).after workplace { stdout, stderr } =
      machine.after workplace
        { outcome with stdout := outcome.stdout ++ stdout, stderr := outcome.stderr ++ stderr } := by
  rw [after, after, after, String.append_assoc, String.append_assoc]
  rfl

/-! ## Steps -/

section

variable {ε α β : Type} {x : ExceptT ε (StateM Machine) α} {f : α → ExceptT ε (StateM Machine) β}

/-- A step and what comes after it: the second one starts on the machine that the first one left. -/
theorem run_bind {x : StateM Machine α} {f : α → StateM Machine β} {a : α}
    (h : x.run machine = (a, next)) : (x >>= f).run machine = (f a).run next := by
  rw [StateT.run_bind, h]
  rfl

theorem run_bind_ok {a : α} (h : x.run.run machine = (.ok a, next)) :
    (x >>= f).run.run machine = (f a).run.run next := by
  rw [ExceptT.run_bind, run_bind h]

theorem run_bind_error {e : ε} (h : x.run.run machine = (.error e, next)) :
    (x >>= f).run.run machine = (.error e, next) := by
  rw [ExceptT.run_bind, run_bind h]
  rfl

theorem run_lift {x : StateM Machine α} {a : α} (h : x.run machine = (a, next)) :
    (liftM x : ExceptT ε (StateM Machine) α).run.run machine = (.ok a, next) := by
  change (Except.ok <$> x).run machine = _
  rw [StateT.run_map, h]
  rfl

end

/-! ## Single acts -/

/-- Questions on a machine are answered from its files. -/
theorem agree_system :
    (system workplace refusal?).toFiles.Agree machine.still (machine.tree.files workplace) where
  kind? _ := rfl
  names? _ := rfl
  read _ := rfl

theorem run_readText (path : String) :
    ((system workplace refusal?).readText path).run machine =
      (((machine.tree.files workplace).readText path).run, machine) :=
  agree_system.readText path

/-- What is printed stands behind what was printed before. -/
theorem run_print (text : String) :
    ((system workplace refusal?).print text).run machine =
      ((), machine.after workplace { stdout := text }) := by
  rw [after, String.append_empty]
  rfl

theorem run_complain (text : String) :
    ((system workplace refusal?).complain text).run machine =
      ((), machine.after workplace { stderr := text }) := by
  rw [after, String.append_empty]
  rfl

/-- What is written text by text is there in one piece. -/
theorem run_forM_print {α : Type} (f : α → String) (xs : List α) :
    (xs.forM fun x => (system workplace refusal?).print (f x)).run machine =
      ((), machine.after workplace { stdout := String.join (xs.map f) }) := by
  induction xs generalizing machine with
  | nil => exact congrArg _ (after_nothing 0).symm
  | cons x xs ih =>
    rw [List.forM_eq_forM] at ih ⊢
    rw [List.map_cons, String.join_cons, List.forM_cons, run_bind (run_print _), ih, after_after]
    rfl

end Machine

open Machine

/-- An outcome where the file that it makes may be refused: then the run stops. -/
def Outcome.unlessRefused (outcome : Outcome) (refusal? : Option Files.Failure) : Outcome :=
  match outcome.newFile?, refusal? with
  | some _, some failure => ofDiagnostic (.ofFailure failure)
  | _, _ => outcome

/-- An outcome that makes no file is not touched by a refusal. -/
theorem Outcome.unlessRefused_of_none {outcome : Outcome} {refusal? : Option Files.Failure}
    (h : outcome.newFile? = none) : outcome.unlessRefused refusal? = outcome := by
  unfold unlessRefused
  rw [h]

/-- What an act on a machine comes to. One that ends has done all that its outcome says; one that stops
has done nothing. -/
def ComesTo (machine : Machine) (workplace : Location) (x : ExceptT Diagnostic (StateM Machine) Bool) :
    Except Diagnostic Outcome → Prop
  | .ok outcome => ∃ isBad : Bool, outcome.code = (if isBad then 1 else 0)
      ∧ x.run.run machine = (.ok isBad, machine.after workplace outcome)
  | .error diagnostic => x.run.run machine = (.error diagnostic, machine)

variable {machine : Machine} {workplace : Location} {refusal? : Option Files.Failure}
  (parser : Sql.Parser)

/-! ## Checking files -/

namespace Check

/-- One visit after the other, files that can be read are linted and for the others there are
complaints, in the order of the paths. The induction is on the paths: a complaint leaves the files as
they are, so the next visit finds the same. -/
theorem run_visits (refusal? : Option Files.Failure) (config : Config) (paths : List String)
    (machine : Machine) :
    ∃ visited, visited.filterMap id = results config parser (readings machine.tree workplace paths)
      ∧ (paths.mapM (visit (system workplace refusal?) parser config)).run machine =
        (visited, machine.after workplace
          { stderr := String.join (complaints (readings machine.tree workplace paths)) }) := by
  induction paths generalizing machine with
  | nil => exact ⟨[], rfl, congrArg _ (after_nothing 0).symm⟩
  | cons path paths ih =>
    have hread : ((system workplace refusal?).readText path).run machine = _ := run_readText path
    have hreadings : readings machine.tree workplace (path :: paths) =
        (path, ((machine.tree.files workplace).readText path).run) ::
          readings machine.tree workplace paths := rfl
    rw [List.mapM_cons, hreadings]
    cases hanswer : ((machine.tree.files workplace).readText path).run with
    | ok text =>
      obtain ⟨visited, hvisited, hrun⟩ := ih machine
      have hvisit : (visit (system workplace refusal?) parser config path).run machine =
          (some (lint config parser path text), machine) := by
        rw [visit, run_bind hread, hanswer]
        rfl
      refine ⟨some (lint config parser path text) :: visited, congrArg _ hvisited, ?_⟩
      rw [run_bind hvisit, run_bind hrun]
      rfl
    | error failure =>
      obtain ⟨visited, hvisited, hrun⟩ :=
        ih (machine.after workplace { stderr := complaint path failure })
      have hvisit : (visit (system workplace refusal?) parser config path).run machine =
          (none, machine.after workplace { stderr := complaint path failure }) := by
        rw [visit, run_bind hread, hanswer]
        exact run_bind (run_complain _)
      refine ⟨none :: visited, hvisited, ?_⟩
      rw [run_bind hvisit, run_bind hrun, after_after]
      exact congrArg (fun text => (none :: visited, machine.after workplace { stderr := text }))
        String.join_cons.symm

/-- Checking files stops before it has done anything, or complains of the files that cannot be read and
then prints the report. -/
theorem comesTo_perform (color : Bool) (options : CheckOptions) :
    ComesTo machine workplace (perform (system workplace refusal?) parser workplace color options)
      (run (machine.tree.files workplace) parser workplace color options).run := by
  have hsettle : (settle (system workplace refusal?).toFiles workplace options).run.run machine =
      ((settle (machine.tree.files workplace) workplace options).run.run, machine) :=
    agree_settle agree_system workplace options
  rw [run_files]
  cases hsettled : (settle (machine.tree.files workplace) workplace options).run with
  | error diagnostic =>
    rw [hsettled] at hsettle
    exact run_bind_error hsettle
  | ok settled =>
    obtain ⟨config, paths⟩ := settled
    rw [hsettled] at hsettle
    obtain ⟨visited, hvisited, hvisits⟩ := run_visits parser refusal? config paths machine
    refine ⟨_, rfl, ?_⟩
    rw [perform, run_bind_ok hsettle]
    dsimp only
    rw [run_bind_ok (run_lift hvisits), run_bind_ok (run_lift (run_print _)), hvisited, after_after,
      String.empty_append, String.append_empty]
    rfl

end Check

namespace Program

/-! ## The other requests -/

/-- The list of rules is printed line by line, and it is the list that was foretold. -/
theorem comesTo_printRules (color : Bool) :
    ComesTo machine workplace (act (system workplace refusal?) parser workplace color .rules)
      (.ok rules) := by
  refine ⟨false, rfl, ?_⟩
  have hrules : (printRules (system workplace refusal?)).run machine =
      ((), machine.after workplace rules) := by
    rw [printRules, run_bind (run_print _), run_forM_print, after_after]
    rfl
  rw [act, run_bind_ok (run_lift hrules)]
  rfl

/-- Printing the statements of a text, one by one, writes what was foretold, and the code tells whether
the parser took the text. -/
theorem run_printText (file : String) (verbose : Bool) (dialect : Dialect) (text : String) :
    ∃ isBad, (parseText parser file verbose dialect text).code = (if isBad then 1 else 0)
      ∧ (printText (system workplace refusal?) parser file verbose dialect text).run machine =
        (isBad, machine.after workplace (parseText parser file verbose dialect text)) := by
  unfold printText parseText
  cases Sql.Script.parse dialect text parser with
  | ok script =>
    refine ⟨false, rfl, ?_⟩
    dsimp only
    rw [run_bind (run_forM_print _ _)]
    rfl
  | error e =>
    refine ⟨true, rfl, ?_⟩
    dsimp only
    rw [run_bind (run_complain _)]
    rfl

/-- What parsing a file comes to, where the answer to its question is known. -/
theorem parse_files (tree : FileTree) (workplace : Location) (file name : String) (verbose : Bool) :
    (parse (tree.files workplace) parser file name verbose).run =
      (match Dialect.parse name, ((tree.files workplace).readText file).run with
      | .error message, _ => .error { message }
      | .ok dialect, .ok text => .ok (parseText parser file verbose dialect text)
      | .ok _, .error failure => .error (.ofFailure failure) : Except Diagnostic Outcome) := by
  unfold parse
  cases Dialect.parse name with
  | error message => rfl
  | ok dialect =>
    cases hanswer : ((tree.files workplace).readText file).run with
    | error failure =>
      have hpure : (tree.files workplace).readText file = pure (.error failure) := hanswer
      dsimp only
      rw [hpure, liftM_pure, pure_bind]
      rfl
    | ok text =>
      have hpure : (tree.files workplace).readText file = pure (.ok text) := hanswer
      dsimp only
      rw [hpure, liftM_pure, pure_bind]
      rfl

/-- Printing the statements of a file stops before anything is written, or writes it all. -/
theorem comesTo_printFile (file name : String) (verbose : Bool) :
    ComesTo machine workplace (printFile (system workplace refusal?) parser file name verbose)
      (parse (machine.tree.files workplace) parser file name verbose).run := by
  rw [parse_files]
  unfold printFile
  cases Dialect.parse name with
  | error message => rfl
  | ok dialect =>
    have hread : ((system workplace refusal?).readText file).run machine = _ := run_readText file
    cases hanswer : ((machine.tree.files workplace).readText file).run with
    | error failure =>
      rw [hanswer] at hread
      exact run_bind_ok (run_lift hread)
    | ok text =>
      rw [hanswer] at hread
      obtain ⟨isBad, hcode, htext⟩ := run_printText parser file verbose dialect text
      exact ⟨isBad, hcode, (run_bind_ok (run_lift hread)).trans (run_lift htext)⟩

/-- Making a configuration file stops where one is there or where the system refuses it, and else it
makes the file and says so. -/
theorem comesTo_makeConfig (quiet : Bool) :
    ∃ result, ComesTo machine workplace (makeConfig (system workplace refusal?) quiet) result
      ∧ Outcome.ofExcept result = (Outcome.ofExcept (init
        ((machine.tree.files workplace).exists? newConfig.name).run quiet)).unlessRefused refusal? := by
  have hexists : ((system workplace refusal?).exists? newConfig.name).run machine = _ :=
    agree_system.exists? newConfig.name
  cases hanswer : ((machine.tree.files workplace).exists? newConfig.name).run with
  | true =>
    rw [hanswer] at hexists
    exact ⟨.error taken, run_bind_ok (run_lift hexists), rfl⟩
  | false =>
    rw [hanswer] at hexists
    cases refusal? with
    | some failure =>
      exact ⟨.error (.ofFailure failure), run_bind_ok (run_lift hexists), rfl⟩
    | none =>
      refine ⟨.ok _, ⟨false, rfl, ?_⟩, rfl⟩
      have hcreate : ((system workplace none).create newConfig).run machine =
          (none, machine.after workplace { newFile? := some newConfig }) := by
        rw [after, String.append_empty, String.append_empty]
        rfl
      refine (run_bind_ok (run_lift hexists)).trans ?_
      refine (run_bind_ok (run_lift hcreate)).trans ?_
      cases quiet with
      | true => rfl
      | false =>
        refine (run_bind_ok (run_lift (run_print _))).trans ?_
        rw [after_after, String.empty_append, String.append_empty]
        rfl

/-! ## Whole command lines -/

theorem newFile?_parseText (file : String) (verbose : Bool) (dialect : Dialect) (text : String) :
    (parseText parser file verbose dialect text).newFile? = none := by
  unfold parseText
  split <;> rfl

/-- Only a request for a configuration file makes a file. -/
theorem newFile?_answer (tree : FileTree) (workplace : Location) (color : Bool) {request : Request}
    (h : ∀ quiet, request ≠ .init quiet) :
    (Outcome.ofExcept
      (answer (tree.files workplace) parser workplace color request).run).newFile? = none := by
  cases request with
  | check options =>
    rw [answer, Check.run_files]
    cases (Check.settle (tree.files workplace) workplace options).run <;> rfl
  | init quiet => exact absurd rfl (h quiet)
  | rules => rfl
  | parse file dialect verbose =>
    rw [answer, parse_files]
    split
    · rfl
    · exact newFile?_parseText parser file verbose _ _
    · rfl

/-- A request comes on a machine to what its run says beforehand, unless the file that it makes is
refused. -/
theorem exists_comesTo (machine : Machine) (workplace : Location) (refusal? : Option Files.Failure)
    (color : Bool) (request : Request) :
    ∃ result,
      ComesTo machine workplace (act (system workplace refusal?) parser workplace color request) result
      ∧ Outcome.ofExcept result = (Outcome.ofExcept
        (answer (machine.tree.files workplace) parser workplace color request).run).unlessRefused
          refusal? := by
  have hreads := @newFile?_answer parser machine.tree workplace color request
  cases request with
  | init quiet => exact comesTo_makeConfig quiet
  | check options =>
    refine ⟨_, Check.comesTo_perform parser color options, (Outcome.unlessRefused_of_none ?_).symm⟩
    exact hreads fun quiet h => Request.noConfusion h
  | rules =>
    refine ⟨_, comesTo_printRules parser color, (Outcome.unlessRefused_of_none ?_).symm⟩
    exact hreads fun quiet h => Request.noConfusion h
  | parse file name verbose =>
    refine ⟨_, comesTo_printFile parser file name verbose, (Outcome.unlessRefused_of_none ?_).symm⟩
    exact hreads fun quiet h => Request.noConfusion h

variable {parser}

/-- A command line that asks for something does what that comes to. -/
theorem perform_of_comesTo {color : Bool} {arguments : List String} {request : Request}
    {result : Except Diagnostic Outcome} (hrequest : Request.ofArguments arguments = .ok request)
    (h : ComesTo machine workplace (act (system workplace refusal?) parser workplace color request)
      result) :
    (perform (system workplace refusal?) parser workplace color arguments).run machine =
      ((Outcome.ofExcept result).code, machine.after workplace (Outcome.ofExcept result)) := by
  rw [perform, hrequest]
  dsimp only
  cases result with
  | error diagnostic =>
    rw [run_bind h]
    exact run_bind (run_complain _)
  | ok outcome =>
    obtain ⟨isBad, hcode, hrun⟩ := h
    rw [run_bind hrun]
    exact congrArg (·, machine.after workplace outcome) hcode.symm

/-- A command line that is not read to its end only says so. -/
theorem perform_of_stop {color : Bool} {arguments : List String} {stop : Stop}
    (hstop : Request.ofArguments arguments = .error stop) :
    (perform (system workplace refusal?) parser workplace color arguments).run machine =
      ((stopped stop).code, machine.after workplace (stopped stop)) := by
  rw [perform, hstop]
  dsimp only
  rw [run_bind (run_print _), run_bind (run_complain _), after_after, String.empty_append,
    String.append_empty]
  cases stop <;> rfl

/-- Carrying out a command line on a machine does what its run comes to. -/
theorem perform_eq (machine : Machine) (workplace : Location) (refusal? : Option Files.Failure)
    (color : Bool) (arguments : List String) (parser : Sql.Parser) :
    let outcome :=
      (run (machine.tree.files workplace) workplace color arguments parser).run.unlessRefused refusal?
    (perform (system workplace refusal?) parser workplace color arguments).run machine =
      (outcome.code, machine.after workplace outcome) := by
  intro outcome
  cases hread : Request.ofArguments arguments with
  | ok request =>
    obtain ⟨result, hcomes, hresult⟩ := exists_comesTo parser machine workplace refusal? color request
    have houtcome : outcome = Outcome.ofExcept result := by
      rw [hresult]
      simp only [outcome, run, hread]
      rfl
    rw [houtcome]
    exact perform_of_comesTo hread hcomes
  | error stop =>
    have houtcome : outcome = stopped stop := by
      simp only [outcome, run, hread]
      cases stop <;> rfl
    rw [houtcome]
    exact perform_of_stop hread

end Program

end QueryLint
