import QueryLint.Files.Tree
import QueryLint.Proofs.Entries
import QueryLint.Proofs.Path

/-!
# Places of a file tree

What stands at a place of a tree is a file with its bytes or a directory (`node?`), which says of each
place by itself what the tree says of all of them together. A file that is put under a name which a
directory does not have is one place more, and all other places are as they were (`adds_put`).
-/

namespace QueryLint.FileTree

open Entries

/-- What stands at one place: a directory counts without what is in it. -/
inductive Node
  | file (content : ByteArray)
  | directory

/-- What a tree is at its root. -/
def root : FileTree → Node
  | .file content => .file content
  | .directory _ => .directory

/-- What stands at a place in a tree. -/
def node? (tree : FileTree) (place : Location) : Option Node :=
  (tree.get? place).map root

/-- There is a directory at a place. -/
def IsDirectory (tree : FileTree) (place : Location) : Prop :=
  tree.node? place = some .directory

/-- The second tree is the first with one file more, at a place where nothing was. -/
structure Adds (before after : FileTree) (place : Location) (content : ByteArray) : Prop where
  fresh : before.get? place = none
  node? : ∀ other, after.node? other =
    if other = place then some (.file content) else before.node? other

variable {tree : FileTree} {entries : List (String × FileTree)} {name : String}

theorem get?_nil (tree : FileTree) : tree.get? [] = some tree := by
  cases tree <;> rfl

theorem get?_cons (tree : FileTree) (name : String) (rest : Location) :
    tree.get? (name :: rest) = (tree.child? name).bind (·.get? rest) := by
  cases tree <;> rfl

theorem get?_append (tree : FileTree) (place rest : Location) :
    tree.get? (place ++ rest) = (tree.get? place).bind (·.get? rest) := by
  induction place generalizing tree with
  | nil => rw [List.nil_append, get?_nil, Option.bind_some]
  | cons name place ih =>
    rw [List.cons_append, get?_cons, get?_cons, Option.bind_assoc]
    exact congrArg _ (funext ih)

/-- What stands under a name in a directory. -/
theorem get?_concat {place : Location} (h : tree.get? place = some (.directory entries)) :
    tree.get? (place ++ [name]) = entries.lookup name := by
  rw [get?_append, h, Option.bind_some, get?_cons]
  exact (congrArg _ (funext get?_nil)).trans (Option.bind_fun_some _)

theorem node?_cons (tree : FileTree) (name : String) (rest : Location) :
    tree.node? (name :: rest) = (tree.child? name).bind (·.node? rest) := by
  rw [node?, get?_cons, Option.map_bind]
  rfl

/-- There is nothing below a file. -/
theorem node?_file (content : ByteArray) (place : Location) :
    (FileTree.file content).node? place = if place = [] then some (.file content) else none := by
  cases place with
  | nil => rfl
  | cons name rest => rfl

/-- What was put under a name is found there, and nothing else changes. -/
theorem lookup_replace (new : FileTree) (entries : List (String × FileTree)) (other : String) :
    (replace name new entries).lookup other =
      if other = name then some new else entries.lookup other := by
  induction entries with
  | nil => exact lookup_cons _ _ _
  | cons entry entries ih =>
    obtain ⟨first, present⟩ := entry
    rw [replace]
    by_cases hfirst : first = name
    · rw [if_pos hfirst, lookup_cons, lookup_cons, hfirst]
      split <;> rfl
    · rw [if_neg hfirst, lookup_cons, lookup_cons, ih]
      by_cases h : other = first
      · rw [if_pos h, if_neg (fun heq => hfirst (h.symm.trans heq)), if_pos h]
      · rw [if_neg h, if_neg h]

/-- A file that is put under a fresh name in a directory stands there, and everything else where it
stood. The induction follows the way to the directory; off that way the trees are the same. -/
theorem node?_put (content : ByteArray) {place : Location}
    (hplace : tree.get? place = some (.directory entries)) (hfresh : entries.lookup name = none)
    (other : Location) : (tree.put (place ++ [name]) (.file content)).node? other =
      if other = place ++ [name] then some (.file content) else tree.node? other := by
  induction place generalizing tree other with
  | nil =>
    rw [get?_nil] at hplace
    obtain rfl := Option.some.inj hplace
    rw [List.nil_append, put]
    cases other with
    | nil => rfl
    | cons first rest =>
      rw [node?_cons, node?_cons, child?, child?, lookup_replace]
      by_cases hname : first = name
      · subst hname
        rw [if_pos rfl, hfresh, Option.bind_some, Option.bind_none, put, node?_file]
        simp
      · rw [if_neg hname, if_neg (by simp [hname])]
  | cons step place ih =>
    rw [get?_cons] at hplace
    obtain ⟨sub, hsub, hthere⟩ := Option.bind_eq_some_iff.1 hplace
    cases tree with
    | file content => cases hsub
    | directory siblings =>
      rw [child?] at hsub
      rw [List.cons_append, put]
      cases other with
      | nil => rfl
      | cons first rest =>
        rw [node?_cons, node?_cons, child?, child?, lookup_replace]
        by_cases hname : first = step
        · subst hname
          rw [if_pos rfl, hsub, Option.getD_some, Option.bind_some, Option.bind_some, ih hthere rest]
          simp
        · rw [if_neg hname, if_neg (by simp [hname])]

/-- One file more leaves everything where it stood. -/
theorem Adds.keeps {after : FileTree} {place : Location} {content : ByteArray}
    (h : tree.Adds after place content) {other : Location} {node : Node}
    (hnode : tree.node? other = some node) : after.node? other = some node := by
  rw [h.node? other, if_neg, hnode]
  rintro rfl
  rw [FileTree.node?, h.fresh] at hnode
  cases hnode

/-! ## Directories -/

theorem IsDirectory.exists_entries {place : Location} (h : tree.IsDirectory place) :
    ∃ entries, tree.get? place = some (.directory entries) := by
  obtain ⟨found, hfound, hroot⟩ := Option.map_eq_some_iff.1 h
  cases found with
  | file content => cases hroot
  | directory entries => exact ⟨entries, hfound⟩

/-- A file that is put under a fresh name in a directory is one place more. -/
theorem IsDirectory.adds_put {place : Location} (h : tree.IsDirectory place)
    (hfresh : tree.get? (place ++ [name]) = none) (content : ByteArray) :
    tree.Adds (tree.put (place ++ [name]) (.file content)) (place ++ [name]) content := by
  obtain ⟨entries, hentries⟩ := h.exists_entries
  exact ⟨hfresh, node?_put content hentries ((get?_concat hentries).symm.trans hfresh)⟩

/-- Names that are no detours lead from a place to what stands below it, if there is such a thing. The
induction follows the way: a name that is taken leads to where its directory has it. -/
theorem walk_names {names : List String} (hnames : ∀ name ∈ names, Path.IsName name)
    (here : Location) :
    (tree.walk here names).toOption.bind tree.get? = tree.get? (here ++ names) := by
  induction names generalizing here with
  | nil =>
    rw [walk, List.append_nil]
    rfl
  | cons name rest ih =>
    have hname : Path.IsName name := hnames name List.mem_cons_self
    have hrest : ∀ other ∈ rest, Path.IsName other := fun other hmem =>
      hnames other (List.mem_cons_of_mem _ hmem)
    rw [walk, get?_append]
    cases hhere : tree.get? here with
    | none => rfl
    | some found =>
      rw [Option.bind_some, get?_cons]
      cases found with
      | file content => rfl
      | directory entries =>
        simp only [hname.ne_empty, hname.ne_here, hname.ne_above, decide_false, Bool.or_self,
          Bool.false_eq_true, if_false, child?]
        cases hfound : entries.lookup name with
        | none => rfl
        | some found =>
          rw [Option.isSome_some, if_pos rfl, ih hrest, get?_append, get?_concat hhere, hfound]

/-- What a path leads to is what stands at the place it leads to. -/
theorem resolve_eq_get? {workplace : Location} {path : String} (hpath : path ≠ "") :
    (tree.resolve workplace path).toOption =
      (tree.walk (if Path.isAbsolute path then [] else workplace)
        (Path.names path)).toOption.bind tree.get? := by
  rw [resolve, if_neg hpath]
  simp only [bind, Except.bind, pure, Except.pure]
  cases tree.walk (if Path.isAbsolute path then [] else workplace) (Path.names path) with
  | error failure => rfl
  | ok place =>
    dsimp only [Except.toOption, Option.bind]
    cases tree.get? place <;> rfl

/-- A name leads to what stands under it in the directory where the program runs. -/
theorem resolve_name (hname : Path.IsName name) (workplace : Location) :
    (tree.resolve workplace name).toOption = tree.get? (workplace ++ [name]) := by
  rw [resolve_eq_get? hname.ne_empty, hname.relative, hname.names, if_neg Bool.false_ne_true]
  exact walk_names (by simpa using hname) workplace

/-- The path of a place leads to what stands there, wherever the program runs. -/
theorem resolve_absolute {place : Location} (hne : place ≠ [])
    (hplace : ∀ name ∈ place, Path.IsName name) (workplace : Location) :
    (tree.resolve workplace (Path.absolute place)).toOption = tree.get? place := by
  rw [resolve_eq_get? (Path.absolute_ne_empty place), Path.isAbsolute_absolute, if_pos rfl,
    Path.names_absolute hne hplace, walk_names hplace, List.nil_append]

/-- A name is there, for one who runs in a directory, if it is in the tree. -/
theorem exists?_name (hname : Path.IsName name) (workplace : Location) :
    ((tree.files workplace).exists? name).run = (tree.get? (workplace ++ [name])).isSome := by
  change ((tree.resolve workplace name).toOption.map kind).isSome = _
  rw [resolve_name hname workplace, Option.isSome_map]

end QueryLint.FileTree
