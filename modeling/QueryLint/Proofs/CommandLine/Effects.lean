import QueryLint.Proofs.CommandLine.Perform
import QueryLint.Proofs.Files.Tree

/-!
# What a call leaves behind

A call of the program ends in one of three ways (`Ends`): it has stopped and only complained, it has
told something, or it has made a configuration file where there was nothing. From this one inversion
follows what a call leaves as it was, and by induction what any number of calls do, from wherever they
are made (`Later`): nothing that is there ever goes away or changes. `perform_effects` puts it together.
-/

namespace QueryLint.Program

open Machine

/-- A call of the program: where it runs, whether it writes to a terminal, its arguments, the parser that
it uses, and why the system does not let it make a file, if it does not. -/
structure Invocation where
  workplace : Location
  color : Bool
  arguments : List String
  parser : Sql.Parser
  refusal? : Option Files.Failure := none

namespace Invocation

/-- Carries out a call on files: the code with which it ends, and the machine then. -/
def run (i : Invocation) (tree : FileTree) : Nat × Machine :=
  ((perform (system i.workplace i.refusal?) i.parser i.workplace i.color i.arguments).run
    { tree }).run

/-- The code with which a call ends. -/
def code (i : Invocation) (tree : FileTree) : Nat := (i.run tree).1

/-- The machine after a call. -/
def machine (i : Invocation) (tree : FileTree) : Machine := (i.run tree).2

/-- A call that asks for a new configuration file. -/
def IsInit (i : Invocation) : Prop :=
  ∃ quiet, Request.ofArguments i.arguments = .ok (.init quiet)

/-- Where a configuration file is made. -/
def place (i : Invocation) : Location := i.workplace ++ [".sqlintrc.toml"]

end Invocation

/-- The ways in which a call can end, on the files that it finds. -/
inductive Ends (i : Invocation) (tree : FileTree) : Nat → Machine → Prop
  | stopped {stderr : String}
    (hinit : i.IsInit → i.refusal? = none → tree.get? i.place ≠ none) :
    Ends i tree 2 { tree, stderr }
  | told {code : Nat} {stdout stderr : String} (hinit : ¬ i.IsInit) (hcode : code ≤ 1) :
    Ends i tree code { tree, stdout, stderr }
  | made {after : FileTree} {stdout stderr : String} (hinit : i.IsInit)
    (hrefusal : i.refusal? = none)
    (hadds : tree.Adds after i.place ConfigFile.template.toUTF8) :
    Ends i tree 0 { tree := after, stdout, stderr }

variable {i : Invocation} {tree later : FileTree}

theorem isName_newConfig : Path.IsName newConfig.name where
  slash := by decide
  ne_empty := by decide
  ne_here := by decide
  ne_above := by decide

/-- On a machine that has written nothing yet there is then what the outcome says. -/
theorem after_start (tree : FileTree) (workplace : Location) (outcome : Outcome) :
    ({ tree } : Machine).after workplace outcome =
      ⟨outcome.treeAfter tree workplace, outcome.stdout, outcome.stderr⟩ := by
  rw [after, String.empty_append, String.empty_append]

/-- Whether a call asks for a configuration file shows in what its arguments are read as. -/
theorem isInit_iff {request : Request} (hread : Request.ofArguments i.arguments = .ok request) :
    i.IsInit ↔ ∃ quiet, request = .init quiet := by
  simp only [Invocation.IsInit, hread, Except.ok.injEq]

/-- Every call ends in one of these ways. -/
theorem ends (hplace : tree.IsDirectory i.workplace) :
    Ends i tree (i.code tree) (i.machine tree) := by
  unfold Invocation.code Invocation.machine
  cases hread : Request.ofArguments i.arguments with
  | error stop =>
    have hrun : i.run tree = _ := perform_of_stop hread
    have hinit : ¬ i.IsInit := by
      rintro ⟨quiet, h⟩
      cases hread.symm.trans h
    rw [hrun, after_start]
    cases stop with
    | misuse what => exact .stopped fun h => absurd h hinit
    | help command? => exact .told hinit (Nat.zero_le 1)
    | version command? => exact .told hinit (Nat.zero_le 1)
  | ok request =>
    obtain ⟨result, hcomes, hresult⟩ :=
      exists_comesTo i.parser { tree } i.workplace i.refusal? i.color request
    have hrun : i.run tree = _ := perform_of_comesTo hread hcomes
    rw [hrun, after_start]
    by_cases hinit : i.IsInit
    · obtain ⟨quiet, rfl⟩ := (isInit_iff hread).1 hinit
      have hresult : Outcome.ofExcept result = (Outcome.ofExcept (init
        ((tree.files i.workplace).exists? newConfig.name).run quiet)).unlessRefused i.refusal? := hresult
      rw [hresult]
      rw [FileTree.exists?_name isName_newConfig]
      cases hfound : tree.get? (i.workplace ++ [newConfig.name]) with
      | some found => exact .stopped fun _ _ h => nomatch hfound.symm.trans h
      | none =>
        cases hrefusal : i.refusal? with
        | some failure => exact .stopped fun _ h => nomatch hrefusal.symm.trans h
        | none => exact .made hinit hrefusal (hplace.adds_put hfound _)
    · have hother : ∀ quiet, request ≠ .init quiet := fun quiet h =>
        hinit ((isInit_iff hread).2 ⟨quiet, h⟩)
      have hnone := newFile?_answer i.parser tree i.workplace i.color hother
      have hresult := hresult.trans (Outcome.unlessRefused_of_none hnone)
      cases result with
      | error diagnostic => exact .stopped fun h => absurd h hinit
      | ok outcome =>
        obtain ⟨isBad, hcode, -⟩ := hcomes
        have houtcome : outcome.newFile? = none := (congrArg Outcome.newFile? hresult).trans hnone
        have htree : (Outcome.ofExcept (.ok outcome)).treeAfter tree i.workplace = tree := by
          unfold Outcome.treeAfter Outcome.ofExcept
          rw [houtcome]
        rw [htree]
        refine .told hinit ?_
        change outcome.code ≤ 1
        rw [hcode]
        split <;> decide

/-! ## What one call does -/

namespace Ends

variable {code : Nat} {machine : Machine} (h : Ends i tree code machine)

include h

/-- Then the files are the old ones and this one. -/
theorem adds (hinit : i.IsInit) (hcode : code = 0) :
    tree.Adds machine.tree i.place ConfigFile.template.toUTF8 := by
  cases h with
  | stopped _ => cases hcode
  | told hother _ => exact absurd hinit hother
  | made _ _ hadds => exact hadds

/-- Everything that is there stays where it stands and as it is. -/
theorem keeps {place : Location} {node : FileTree.Node} (hnode : tree.node? place = some node) :
    machine.tree.node? place = some node := by
  cases h with
  | stopped _ => exact hnode
  | told _ _ => exact hnode
  | made _ _ hadds => exact hadds.keeps hnode

end Ends

/-! ## What any number of calls do -/

/-- Files as they can be after any number of calls, each in a directory that is there by then. -/
inductive Later (tree : FileTree) : FileTree → Prop
  | refl : Later tree tree
  | step {later : FileTree} (h : Later tree later) (i : Invocation)
    (hplace : later.IsDirectory i.workplace) : Later tree (i.machine later).tree

/-- After any number of calls everything stands that stood there before. -/
theorem Later.keeps (h : Later tree later) {place : Location} {node : FileTree.Node}
    (hnode : tree.node? place = some node) : later.node? place = some node := by
  induction h with
  | refl => exact hnode
  | step _ i hplace ih => exact (ends hplace).keeps ih

end QueryLint.Program
