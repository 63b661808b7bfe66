import QueryLint.Proofs.Json.Value
import QueryLint.Toml.Document

/-!
# Documents that grow

Entries are added to a table that a path of names leads to, and the tables above it stay as they are:
they are a `Context` of that table. A header or a line changes one table in its context
(`enter_table`, `enter_first`, `enter_next`, `assign_push`). A table that is not there yet is reached
as well, as one that its name implies (`Reaches.implied`); its context then has a key in it that is
only known by its name.
-/

namespace QueryLint.Toml

/-! ## Members of entries -/

theorem entriesToJson_append (before after : List Entry) :
    entriesToJson (before ++ after) = entriesToJson before ++ entriesToJson after := by
  induction before with
  | nil => rfl
  | cons entry before ih =>
    obtain ⟨key, item⟩ := entry
    rw [List.cons_append, entriesToJson, entriesToJson, ih, List.cons_append]

theorem map_fst_entriesToJson (entries : List Entry) :
    (entriesToJson entries).map Prod.fst = entries.map fun e => e.key.name := by
  induction entries with
  | nil => rfl
  | cons entry rest ih =>
    obtain ⟨key, item⟩ := entry
    rw [entriesToJson, List.map_cons, ih, List.map_cons]

namespace Table

/-! ## Names -/

/-- The names that a table knows, in order. -/
def names (t : Table) : List String :=
  t.entries.map fun e => e.key.name

theorem find?_eq_none_iff {t : Table} {name : String} : t.find? name = none ↔ name ∉ t.names := by
  rw [find?, Option.map_eq_none_iff, List.find?_eq_none, names, List.mem_map, not_exists]
  simp only [beq_iff_eq, not_and]

/-- A name that comes after those of a table, with none twice, is new to the table. -/
theorem not_mem_names_of_nodup {t : Table} {name : String} {more : List String}
    (h : (t.names ++ name :: more).Nodup) : name ∉ t.names := by
  intro hmem
  exact (List.nodup_append.1 h).2.2 name hmem name List.mem_cons_self rfl

theorem names_push (t : Table) (key : Key) (item : Item) :
    (t.push key item).names = t.names ++ [key.name] :=
  List.map_append

theorem find?_push {t : Table} {key : Key} (h : key.name ∉ t.names) (item : Item) :
    (t.push key item).find? key.name = some item := by
  rw [find?, push, List.find?_append, Option.map_eq_none_iff.1 (find?_eq_none_iff.2 h),
    Option.none_or, List.find?_singleton, if_pos (beq_self_eq_true key.name)]
  rfl

/-- To replace the item of an entry that was just added is to add it with the other item. -/
theorem replace_push {t : Table} {key : Key} (h : key.name ∉ t.names) (old item : Item) :
    (t.push key old).replace key.name item = t.push key item := by
  -- No entry before the last one has its name, so only that one is replaced.
  have hsame : t.entries.map (fun e => if e.key.name == key.name then { e with item } else e) =
      t.entries := by
    refine (List.map_congr_left fun e he => ?_).trans (List.map_id' _)
    refine if_neg fun heq => h ?_
    exact beq_iff_eq.1 heq ▸ List.mem_map_of_mem he
  rw [replace, push, push, List.map_append, hsame, List.map_singleton,
    if_pos (beq_self_eq_true key.name)]

/-! ## Contexts -/

/-- What stands around the table at a path: whatever is made of the table stands there then. -/
def Context (path : List String) (fill : Table → Table) : Prop :=
  ∀ keys : List Key, keys.map Key.name = path → ∀ change passed t,
    modify false false change passed keys (fill t) = (change t).map fill

/-- A path that goes on leads on from where it leads to first. -/
theorem modify_append (change : Table → Except Clash Table) (passed : List String)
    (keys more : List Key) (t : Table) :
    modify false false change passed (keys ++ more) t =
      modify false false (modify false false change (passed ++ keys.map Key.name) more) passed keys
        t := by
  induction keys generalizing passed t with
  | nil => rw [List.map_nil, List.append_nil]; rfl
  | cons key keys ih =>
    rw [List.cons_append, modify, modify]
    simp only [ih, List.map_cons, List.append_assoc, List.singleton_append]

theorem Context.root : Context [] id := by
  intro keys hkeys change passed t
  obtain rfl := List.map_eq_nil_iff.1 hkeys
  rw [modify, id]
  cases change t <;> rfl

/-- A context goes on through the last entry of its table. -/
theorem Context.push {path : List String} {fill : Table → Table} (hfill : Context path fill)
    {node : Table → Node} (hof : ∀ u, ofNode? false (node u) = some u)
    (hwithin : ∀ u v, within (node u) v = node v) {t : Table} {key : Key} (hkey : key.name ∉ t.names) :
    Context (path ++ [key.name]) fun u => fill (t.push key ⟨node u, none⟩) := by
  intro keys hkeys change passed u
  obtain ⟨keys, last, rfl, hpath, hlast⟩ := List.map_eq_append_iff.1 hkeys
  obtain ⟨last, rfl, hname⟩ := List.map_eq_singleton_iff.1 hlast
  -- The path up to its last name leads into the context, and the last name to the pushed entry.
  rw [modify_append, hfill keys hpath, modify, hname, find?_push hkey]
  simp only [hof, Bool.false_and, Bool.false_eq_true, if_false, modify, hwithin]
  cases change u with
  | error clash => rfl
  | ok v =>
    change Except.ok (fill ((t.push key _).replace key.name _)) = _
    rw [replace_push hkey]
    rfl

/-- A place in a table can be filled in, and so can a place in a new table in it. -/
theorem Context.table {path : List String} {fill : Table → Table} (hfill : Context path fill)
    {t : Table} {key : Key} (hkey : key.name ∉ t.names) :
    Context (path ++ [key.name]) fun u => fill (t.push key ⟨.table u, none⟩) :=
  hfill.push (fun _ => rfl) (fun _ _ => rfl) hkey

/-- Of the tables that share a header, the last one is reached. -/
theorem Context.tables {path : List String} {fill : Table → Table} (hfill : Context path fill)
    (before : List Table) {t : Table} {key : Key} (hkey : key.name ∉ t.names) :
    Context (path ++ [key.name]) fun u => fill (t.push key ⟨.tables (before ++ [u]), none⟩) := by
  have hof : ∀ u, ofNode? false (.tables (before ++ [u])) = some u := fun _ => List.getLast?_concat
  have hwithin : ∀ u v, within (.tables (before ++ [u])) v = .tables (before ++ [v]) := fun u v => by
    rw [within, List.dropLast_concat]
  exact hfill.push hof hwithin hkey

/-- A path leads to a table, be it only implied; what becomes of the table stands in some context
then. -/
def Reaches (path : List String) (root t : Table) (around : (Table → Table) → Prop) : Prop :=
  ∀ keys : List Key, keys.map Key.name = path → ∃ fill, around fill ∧ Context path fill
    ∧ ∀ change, modify false false change [] keys root = (change t).map fill

/-- A table in its context is reached. -/
theorem Context.reaches {path : List String} {fill : Table → Table} (hfill : Context path fill)
    (t : Table) : Reaches path (fill t) t (· = fill) :=
  fun keys hkeys => ⟨fill, rfl, hfill, fun change => hfill keys hkeys change [] t⟩

/-- Under a name that a table does not know, another one is reached that is only implied. -/
theorem Reaches.implied {path : List String} {root t : Table} {around : (Table → Table) → Prop}
    (h : Reaches path root t around) {name : String} (hname : name ∉ t.names) :
    Reaches (path ++ [name]) root (implied false) fun inner =>
      ∃ fill, ∃ key : Key, around fill ∧ Context path fill ∧ key.name = name
        ∧ inner = fun u => fill (t.push key ⟨.table u, none⟩) := by
  intro keys hkeys
  obtain ⟨keys, last, rfl, hpath, hlast⟩ := List.map_eq_append_iff.1 hkeys
  obtain ⟨key, rfl, rfl⟩ := List.map_eq_singleton_iff.1 hlast
  obtain ⟨fill, haround, hfill, hmodify⟩ := h keys hpath
  refine ⟨_, ⟨fill, key, haround, hfill, rfl, rfl⟩, hfill.table hname, fun change => ?_⟩
  rw [modify_append, hmodify, modify]
  simp only [find?_eq_none_iff.2 hname, modify]
  cases change (Table.implied false) <;> rfl

/-! ## Tables that go on -/

/-- A table goes on with some members. -/
structure Grows (t u : Table) (members : Json.Members) : Prop where
  isDotted : u.isDotted = t.isDotted
  entries : ∃ more, u.entries = t.entries ++ more ∧ entriesToJson more = members

theorem Grows.refl (t : Table) : t.Grows t [] :=
  ⟨rfl, [], (List.append_nil _).symm, rfl⟩

theorem Grows.trans {t u v : Table} {before after : Json.Members} (h : t.Grows u before)
    (hmore : u.Grows v after) : t.Grows v (before ++ after) := by
  obtain ⟨hdotted, first, hfirst, rfl⟩ := h
  obtain ⟨hdotted', second, hsecond, rfl⟩ := hmore
  refine ⟨hdotted'.trans hdotted, first ++ second, ?_, entriesToJson_append first second⟩
  rw [hsecond, hfirst, List.append_assoc]

theorem grows_push (t : Table) (key : Key) (item : Item) :
    t.Grows (t.push key item) [(key.name, item.toJson)] :=
  ⟨rfl, [⟨key, item⟩], rfl, rfl⟩

theorem Grows.names {t u : Table} {members : Json.Members} (h : t.Grows u members) :
    u.names = t.names ++ members.map Prod.fst := by
  obtain ⟨-, more, hmore, rfl⟩ := h
  rw [Table.names, hmore, List.map_append, map_fst_entriesToJson, Table.names]

/-- A table that was only just begun. -/
structure IsFresh (t : Table) : Prop where
  isDotted : t.isDotted = false
  entries : t.entries = []

theorem IsFresh.names {t : Table} (h : t.IsFresh) : t.names = [] := by
  rw [Table.names, h.entries, List.map_nil]

/-- What a table has grown to from its beginnings are its members. -/
theorem Grows.members {t u : Table} {members : Json.Members} (h : t.Grows u members)
    (hfresh : t.IsFresh) : entriesToJson u.entries = members := by
  obtain ⟨-, more, hmore, rfl⟩ := h
  rw [hmore, hfresh.entries, List.nil_append]

/-- A table whose members are those of an object, in some order, is that object. -/
theorem toJson_of_perm {t : Table} {members : Json.Members}
    (hperm : (entriesToJson t.entries).Perm members)
    (hordered : (members.map Prod.fst).Pairwise (· < ·)) : t.toJson = .object members := by
  obtain ⟨isImplicit, isDotted, stretch?, entries⟩ := t
  rw [Table.toJson, Json.ofMembers_eq_of_perm hperm hordered]

end Table

/-! ## Steps of a draft -/

namespace Draft

open Table

/-- A line adds an entry to the table of the last header. -/
theorem assign_push {draft : Draft} {fill : Table → Table} {t : Table}
    (hfill : Context draft.names fill) (hroot : draft.root = fill t) (hdotted : t.isDotted = false)
    {key : Key} (hkey : key.name ∉ t.names) (item : Item) :
    ∃ u, t.Grows u [(key.name, item.toJson)]
      ∧ draft.assign [] key item = .ok ⟨fill u, draft.path⟩ := by
  -- The stretch of the table moves along with its last line, which its members do not tell.
  have hextended : ∀ stop, t.Grows (t.extended stop) [] :=
    fun stop => ⟨rfl, [], (List.append_nil _).symm, rfl⟩
  have hadd : ∀ names stop, Table.assign false names [] key item (t.extended stop) =
      .ok ((t.extended stop).push key item) := by
    intro names stop
    rw [Table.assign]
    change (if (t.isDotted == true) = true then _
      else if (t.find? key.name).isSome = true then _ else _) = _
    rw [hdotted, find?_eq_none_iff.2 hkey]
    rfl
  refine ⟨_, (hextended ((item.stretch?.map Stretch.stop).getD 0)).trans (grows_push _ key item), ?_⟩
  rw [assign, hroot, hfill draft.path rfl, hadd]
  rfl

section Enter

variable {draft : Draft} {path : List String} {t : Table} {around : (Table → Table) → Prop}
  {keys : List Key} {key : Key}

/-- A header begins a table without entries. -/
theorem enter_table (h : Reaches path draft.root t around) (hkeys : keys.map Key.name = path)
    (hkey : key.name ∉ t.names) (stretch : Stretch) :
    ∃ fill fresh, around fill ∧ Context path fill ∧ fresh.IsFresh
      ∧ draft.enter false keys key stretch =
        .ok ⟨fill (t.push key ⟨.table fresh, none⟩), keys ++ [key]⟩ := by
  obtain ⟨fill, haround, hfill, hmodify⟩ := h keys hkeys
  refine ⟨fill, ⟨false, false, some stretch, []⟩, haround, hfill, ⟨rfl, rfl⟩, ?_⟩
  rw [enter, if_neg Bool.false_ne_true, hmodify, open_, find?_eq_none_iff.2 hkey]
  rfl

/-- So does the first of several headers that say the same. -/
theorem enter_first (h : Reaches path draft.root t around) (hkeys : keys.map Key.name = path)
    (hkey : key.name ∉ t.names) (stretch : Stretch) :
    ∃ fill fresh, around fill ∧ Context path fill ∧ fresh.IsFresh
      ∧ draft.enter true keys key stretch =
        .ok ⟨fill (t.push key ⟨.tables [fresh], none⟩), keys ++ [key]⟩ := by
  obtain ⟨fill, haround, hfill, hmodify⟩ := h keys hkeys
  refine ⟨fill, ⟨false, false, some stretch, []⟩, haround, hfill, ⟨rfl, rfl⟩, ?_⟩
  rw [enter, if_pos rfl, hmodify, append, find?_eq_none_iff.2 hkey]
  rfl

/-- Each further one begins a table next to the others. -/
theorem enter_next {fill : Table → Table} (hfill : Context path fill) {first : Key}
    {before : List Table} (hroot : draft.root = fill (t.push first ⟨.tables before, none⟩))
    (hkeys : keys.map Key.name = path) (hfirst : first.name ∉ t.names)
    (hkey : key.name = first.name) (stretch : Stretch) :
    ∃ fresh, fresh.IsFresh
      ∧ draft.enter true keys key stretch =
        .ok ⟨fill (t.push first ⟨.tables (before ++ [fresh]), none⟩), keys ++ [key]⟩ := by
  refine ⟨⟨false, false, some stretch, []⟩, ⟨rfl, rfl⟩, ?_⟩
  rw [enter, if_pos rfl, hroot, hfill keys hkeys, append, hkey, find?_push hfirst]
  simp only [replace_push hfirst]
  rfl

end Enter

end Draft

end QueryLint.Toml
