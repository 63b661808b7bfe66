import QueryLint.CommandLine.Check

/-!
# The same answers, the same course

What a program finds out depends only on the answers it gets, whatever monad it asks its questions
in. A relation between two monads that holds for the same result and for steps one after the other
(`Agreement`) holds for the program in both as soon as it holds for the answers; nothing but these two
rules is needed, so it is enough to go through the program function by function. Programs that may
stop are covered by such a relation too (`Agreement.orStop`).
-/

namespace QueryLint

/-- A relation between programs in two monads that their steps keep. -/
structure Agreement (m n : Type → Type) [Monad m] [Monad n] where
  Rel {α : Type} : m α → n α → Prop
  pure {α : Type} (a : α) : Rel (pure a) (pure a)
  bind {α β : Type} {x : m α} {y : n α} {f : α → m β} {g : α → n β} :
    Rel x y → (∀ a, Rel (f a) (g a)) → Rel (x >>= f) (y >>= g)

variable {m n : Type → Type} [Monad m] [Monad n] {α β ε : Type}

namespace Agreement

variable (R : Agreement m n)

theorem ite {c : Prop} [Decidable c] {x x' : m α} {y y' : n α} (h : R.Rel x y) (h' : R.Rel x' y') :
    R.Rel (if c then x else x') (if c then y else y') := by
  split
  · exact h
  · exact h'

/-- The relation between programs that may also stop. -/
def orStop (ε : Type) : Agreement (ExceptT ε m) (ExceptT ε n) where
  Rel x y := R.Rel x.run y.run
  pure a := R.pure (Except.ok a)
  bind h hrest := R.bind h fun answer =>
    match answer with
    | Except.ok a => hrest a
    | Except.error e => R.pure (Except.error e)

/-- To give an answer that is there already, or to stop with it, takes no question. -/
theorem orStop_mk (answer : Except ε α) :
    (R.orStop ε).Rel (ExceptT.mk (Pure.pure answer)) (ExceptT.mk (Pure.pure answer)) :=
  R.pure answer

variable [LawfulMonad m] [LawfulMonad n]

theorem map (f : α → β) {x : m α} {y : n α} (h : R.Rel x y) : R.Rel (f <$> x) (f <$> y) := by
  rw [← bind_pure_comp, ← bind_pure_comp]
  exact R.bind h fun a => R.pure (f a)

/-- Programs that agree on each of some values agree on all of them in a row. -/
theorem mapM {f : β → m α} {g : β → n α} (h : ∀ b, R.Rel (f b) (g b)) (bs : List β) :
    R.Rel (bs.mapM f) (bs.mapM g) := by
  induction bs with
  | nil =>
    rw [List.mapM_nil, List.mapM_nil]
    exact R.pure []
  | cons b bs ih =>
    rw [List.mapM_cons, List.mapM_cons]
    exact R.bind (h b) fun a => R.bind ih fun rest => R.pure (a :: rest)

/-- Programs that cannot stop agree as such that can. -/
theorem orStop_lift {x : m α} {y : n α} (h : R.Rel x y) :
    (R.orStop ε).Rel (liftM x : ExceptT ε m α) (liftM y : ExceptT ε n α) :=
  R.map Except.ok h

end Agreement

/-- Questions that are answered alike. -/
structure Files.Agree (R : Agreement m n) (files : Files m) (files' : Files n) : Prop where
  kind? (path : String) : R.Rel (files.kind? path) (files'.kind? path)
  names? (path : String) : R.Rel (files.names? path) (files'.names? path)
  read (path : String) : R.Rel (files.read path) (files'.read path)

variable {R : Agreement m n} {files : Files m} {files' : Files n}

/-! ## Single files -/

namespace Files.Agree

variable (h : Agree R files files')

include h

theorem exists? (path : String) : R.Rel (files.exists? path) (files'.exists? path) :=
  R.bind (h.kind? path) fun _ => R.pure _

theorem isDirectory (path : String) : R.Rel (files.isDirectory path) (files'.isDirectory path) :=
  R.bind (h.kind? path) fun _ => R.pure _

theorem isRegular (path : String) : R.Rel (files.isRegular path) (files'.isRegular path) :=
  R.bind (h.kind? path) fun _ => R.pure _

theorem readText (path : String) : R.Rel (files.readText path) (files'.readText path) :=
  R.bind (h.read path) fun _ => R.pure _

end Files.Agree

/-! ## Patterns -/

namespace Glob

variable (h : Files.Agree R files files') {onlyDirectories : Bool}
  {down : List Pattern → String → m (List String)}
  {down' : List Pattern → String → n (List String)}

include h

theorem agree_deliver (path : String) :
    R.Rel (deliver files onlyDirectories path) (deliver files' onlyDirectories path) :=
  R.bind (h.isDirectory path) fun _ => R.ite (R.pure _) (R.pure _)

/-- Comparing a name with a pattern asks nothing itself; what goes on below does. -/
theorem agree_compare (hdown : ∀ patterns path, R.Rel (down patterns path) (down' patterns path))
    (name path : String) (patterns : List Pattern) :
    R.Rel (compare files onlyDirectories down name path patterns)
      (compare files' onlyDirectories down' name path patterns) := by
  cases patterns with
  | nil => exact R.pure []
  | cons pattern more =>
    unfold compare
    exact R.ite (R.ite (agree_deliver h path) (hdown more path)) (R.pure [])

/-- An entry of a directory is compared, and looked into where the pattern reaches through directories. -/
theorem agree_visit (hdown : ∀ patterns path, R.Rel (down patterns path) (down' patterns path))
    (pattern : Pattern) (more : List Pattern) (name path : String) :
    R.Rel (visit files onlyDirectories down pattern more name path)
      (visit files' onlyDirectories down' pattern more name path) := by
  unfold visit
  split
  · refine R.bind (h.isDirectory path) fun isDirectory => ?_
    dsimp only
    refine R.ite (R.ite (R.bind (R.pure [path]) ?_) (R.bind ?_ ?_)) ?_
    · exact fun found => R.bind (hdown _ path) fun deeper => R.pure (found ++ deeper)
    · exact agree_compare h hdown name path _
    · exact fun found => R.bind (hdown _ path) fun deeper => R.pure (found ++ deeper)
    · exact agree_compare h hdown name path _
  · exact agree_compare h hdown name path _

variable [LawfulMonad m] [LawfulMonad n]

/-- Going down a directory. The induction is on the depth that is left. -/
theorem agree_below (depth : Nat) (patterns : List Pattern) (path : String) :
    R.Rel (below files onlyDirectories depth patterns path)
      (below files' onlyDirectories depth patterns path) := by
  induction depth generalizing patterns path with
  | zero => exact R.pure []
  | succ depth ih =>
    cases patterns with
    | nil => exact R.pure []
    | cons pattern more =>
      have harrive : ∀ next, R.Rel
          (if more.isEmpty then deliver files onlyDirectories next
            else below files onlyDirectories depth more next)
          (if more.isEmpty then deliver files' onlyDirectories next
            else below files' onlyDirectories depth more next) :=
        fun next => R.ite (agree_deliver h next) (ih more next)
      rw [below, below]
      cases pattern.literal? with
      | some name =>
        dsimp only
        refine R.ite ?_ ?_
        · exact R.bind (h.isDirectory path) fun found => R.ite (harrive _) (R.pure [])
        · exact R.bind (h.exists? _) fun found => R.ite (harrive _) (R.pure [])
      | none =>
        refine R.bind (h.names? path) fun names? => ?_
        cases names? with
        | none => exact R.pure []
        | some names =>
          refine R.bind (R.mapM (fun name => harrive _) _) fun special => ?_
          refine R.bind (R.mapM (fun name => ?_) _) fun children => R.pure _
          exact agree_visit h ih pattern more name _

theorem agree_expand (pattern : PathPattern) :
    R.Rel (expand files pattern) (expand files' pattern) :=
  agree_below h _ _ _

end Glob

/-! ## Configuration files -/

namespace ConfigFile

variable (h : Files.Agree R files files')

include h

theorem agree_firstRegular? (paths : List String) :
    R.Rel (firstRegular? files paths) (firstRegular? files' paths) := by
  induction paths with
  | nil => exact R.pure none
  | cons path more ih => exact R.bind (h.isRegular path) fun _ => R.ite (R.pure _) ih

variable [LawfulMonad m] [LawfulMonad n]

theorem agree_load (path : String) :
    (R.orStop Diagnostic).Rel (load files path) (load files' path) := by
  unfold load
  refine (R.orStop _).bind (R.orStop_lift (h.readText path)) fun answer => ?_
  cases answer with
  | ok text => exact R.orStop_mk _
  | error failure => exact R.orStop_mk _

theorem agree_findAndLoad (workplace : Location) :
    (R.orStop Diagnostic).Rel (findAndLoad files workplace) (findAndLoad files' workplace) := by
  unfold findAndLoad
  refine (R.orStop _).bind (R.orStop_lift (agree_firstRegular? h _)) fun found => ?_
  cases found with
  | some path => exact (R.orStop _).map some (agree_load h path)
  | none => exact (R.orStop _).pure none

end ConfigFile

/-! ## What a check settles -/

namespace Check

variable [LawfulMonad m] [LawfulMonad n]
variable (h : Files.Agree R files files') (workplace : Location) (options : CheckOptions)

include h

theorem agree_configuration :
    (R.orStop Diagnostic).Rel (configuration files workplace options)
      (configuration files' workplace options) := by
  unfold configuration
  cases options.config? with
  | some path => exact (R.orStop _).bind (ConfigFile.agree_load h path) fun _ => R.orStop_mk _
  | none =>
    have hfound := ConfigFile.agree_findAndLoad h workplace
    exact (R.orStop _).bind ((R.orStop _).map _ hfound) fun _ => R.orStop_mk _

theorem agree_paths (argument : String) :
    (R.orStop Diagnostic).Rel (paths files argument) (paths files' argument) := by
  unfold paths
  refine (R.orStop _).ite ?_ ((R.orStop _).pure _)
  cases Glob.PathPattern.parse argument with
  | ok pattern => exact R.orStop_lift (Glob.agree_expand h pattern)
  | error failure => exact R.orStop_mk _

/-- Settling what can stop a run: all that a check asks before it reads the files it is about. -/
theorem agree_settle :
    (R.orStop Diagnostic).Rel (settle files workplace options)
      (settle files' workplace options) := by
  unfold settle
  refine (R.orStop _).bind (agree_configuration h workplace options) fun config => ?_
  refine (R.orStop _).bind (R.orStop_mk _) fun patterns => ?_
  refine (R.orStop _).bind ((R.orStop _).mapM (agree_paths h) _) fun found => ?_
  dsimp only
  refine (R.orStop _).ite ?_ ((R.orStop _).pure _)
  exact (R.orStop _).bind (R.orStop_mk _) fun _ => (R.orStop _).pure _

end Check

end QueryLint
