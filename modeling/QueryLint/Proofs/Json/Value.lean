import Mathlib.Data.List.Pairwise
import QueryLint.Json.Basic

/-!
# What stands in a value

`Occurs` says that one value stands in another one, however deep, and `depth` counts how many
containers are open at most at one place. A value that was read `FitsWords`, as its whole numbers have
64 bits, and `IsOrdered`, as its objects know every name once and in order. `sorted` is what becomes
of a value whose objects were written in another order, when they are read; it changes no value that
is ordered (`sorted_eq`).
-/

namespace QueryLint.Json

/-- An induction over values: scalars, arrays of what is known, objects of what is known. -/
@[elab_as_elim]
theorem containers {motive : Json → Prop} (null : motive .null) (bool : ∀ b, motive (.bool b))
    (integer : ∀ i, motive (.integer i)) (float : ∀ x, motive (.float x))
    (string : ∀ s, motive (.string s))
    (array : ∀ items, (∀ item ∈ items, motive item) → motive (.array items))
    (object : ∀ members : Members, (∀ member ∈ members, motive member.2) →
      motive (.object members)) : ∀ value, motive value
  | .null => null
  | .bool b => bool b
  | .integer i => integer i
  | .float x => float x
  | .string s => string s
  | .array items => array items fun item _ =>
    containers null bool integer float string array object item
  | .object members => object members fun member _ =>
    containers null bool integer float string array object member.2
termination_by value => sizeOf value
decreasing_by
  · have := List.sizeOf_lt_of_mem ‹item ∈ items›
    simp only [Json.array.sizeOf_spec]
    omega
  · have := List.sizeOf_lt_of_mem ‹member ∈ members›
    obtain ⟨name, value⟩ := member
    simp only [Json.object.sizeOf_spec, Prod.mk.sizeOf_spec] at *
    omega

/-! ## Values inside of values -/

/-- A value is another one or stands in it, at any depth. -/
inductive Occurs (value : Json) : Json → Prop
  | here : Occurs value value
  | item {items : List Json} {item : Json} (hmem : item ∈ items) (h : Occurs value item) :
    Occurs value (.array items)
  | member {members : Members} {name : String} {inner : Json} (hmem : (name, inner) ∈ members)
    (h : Occurs value inner) : Occurs value (.object members)

mutual

/-- How many containers are open at most at one place of a value. -/
def depth : Json → Nat
  | .array items => depthOfItems items + 1
  | .object members => depthOfMembers members + 1
  | _ => 0

/-- The depth of the deepest of some items. -/
def depthOfItems : List Json → Nat
  | [] => 0
  | item :: rest => max (depth item) (depthOfItems rest)

/-- The depth of the deepest value of some members. -/
def depthOfMembers : List (String × Json) → Nat
  | [] => 0
  | (_, value) :: rest => max (depth value) (depthOfMembers rest)

end

/-- No item is deeper than all of them. -/
theorem depth_le_depthOfItems {item : Json} {items : List Json} (h : item ∈ items) :
    item.depth ≤ depthOfItems items := by
  induction items with
  | nil => cases h
  | cons first rest ih =>
    rw [depthOfItems]
    rcases List.mem_cons.1 h with rfl | hrest
    · exact Nat.le_max_left _ _
    · exact Nat.le_trans (ih hrest) (Nat.le_max_right _ _)

theorem depth_le_depthOfMembers {name : String} {value : Json} {members : Members}
    (h : (name, value) ∈ members) : value.depth ≤ depthOfMembers members := by
  induction members with
  | nil => cases h
  | cons first rest ih =>
    rw [depthOfMembers]
    rcases List.mem_cons.1 h with rfl | hrest
    · exact Nat.le_max_left _ _
    · exact Nat.le_trans (ih hrest) (Nat.le_max_right _ _)

/-- An item leaves one level less. -/
theorem depth_item_le {item : Json} {items : List Json} {depth : Nat} (hmem : item ∈ items)
    (h : (array items).depth ≤ depth + 1) : item.depth ≤ depth := by
  rw [Json.depth] at h
  have := depth_le_depthOfItems hmem
  omega

/-- The value of a member leaves one level less. -/
theorem depth_member_le {name : String} {value : Json} {members : Members} {depth : Nat}
    (hmem : (name, value) ∈ members) (h : (object members).depth ≤ depth + 1) :
    value.depth ≤ depth := by
  rw [Json.depth] at h
  have := depth_le_depthOfMembers hmem
  omega

/-- An array is one level deeper than its items. -/
theorem depth_array_le {items : List Json} {depth : Nat} (h : ∀ item ∈ items, item.depth ≤ depth) :
    (array items).depth ≤ depth + 1 := by
  rw [Json.depth, Nat.add_le_add_iff_right]
  induction items with
  | nil => exact Nat.zero_le depth
  | cons item rest ih =>
    rw [depthOfItems]
    exact Nat.max_le.2 ⟨h item List.mem_cons_self,
      ih fun item hmem => h item (List.mem_cons_of_mem _ hmem)⟩

/-- An object is one level deeper than the values of its members. -/
theorem depth_object_le {members : Members} {depth : Nat}
    (h : ∀ name value, (name, value) ∈ members → value.depth ≤ depth) :
    (object members).depth ≤ depth + 1 := by
  rw [Json.depth, Nat.add_le_add_iff_right]
  induction members with
  | nil => exact Nat.zero_le depth
  | cons member rest ih =>
    rw [depthOfMembers]
    exact Nat.max_le.2 ⟨h member.1 member.2 List.mem_cons_self,
      ih fun name value hmem => h name value (List.mem_cons_of_mem _ hmem)⟩

/-! ## Values whose parts have something in common -/

/-- Something holds of a value and of all that stands in it. -/
def Everywhere (p : Json → Prop) (value : Json) : Prop :=
  ∀ inner, Occurs inner value → p inner

section Everywhere

variable {p : Json → Prop}

theorem Everywhere.item {item : Json} {items : List Json} (h : (array items).Everywhere p)
    (hmem : item ∈ items) : item.Everywhere p :=
  fun inner hinner => h inner (.item hmem hinner)

theorem Everywhere.member {name : String} {value : Json} {members : Members}
    (h : (object members).Everywhere p) (hmem : (name, value) ∈ members) : value.Everywhere p :=
  fun inner hinner => h inner (.member hmem hinner)

/-- What holds of a list and everywhere in its items holds everywhere in it. -/
theorem Everywhere.array {items : List Json} (hself : p (.array items))
    (h : ∀ item ∈ items, item.Everywhere p) : (Json.array items).Everywhere p := by
  intro inner hinner
  cases hinner with
  | here => exact hself
  | item hmem hinner => exact h _ hmem inner hinner

/-- What holds of an object and everywhere in its members holds everywhere in it. -/
theorem Everywhere.object {members : Members} (hself : p (.object members))
    (h : ∀ name value, (name, value) ∈ members → value.Everywhere p) :
    (Json.object members).Everywhere p := by
  intro inner hinner
  cases hinner with
  | here => exact hself
  | member hmem hinner => exact h _ _ hmem inner hinner

@[simp] theorem everywhere_array {items : List Json} :
    (Json.array items).Everywhere p ↔
      p (.array items) ∧ ∀ item ∈ items, item.Everywhere p :=
  ⟨fun h => ⟨h _ .here, fun _ hmem => h.item hmem⟩, fun h => .array h.1 h.2⟩

@[simp] theorem everywhere_object {members : Members} :
    (Json.object members).Everywhere p ↔
      p (.object members) ∧ ∀ member ∈ members, member.2.Everywhere p :=
  ⟨fun h => ⟨h _ .here, fun _ hmem => h.member hmem⟩,
    fun h => .object h.1 fun _ _ hmem => h.2 _ hmem⟩

/-- Nothing stands in a value that holds no others. -/
@[simp] theorem everywhere_scalar {value : Json} (harray : ∀ items, value ≠ .array items)
    (hobject : ∀ members, value ≠ .object members) : value.Everywhere p ↔ p value := by
  refine ⟨fun h => h _ .here, fun hself inner hinner => ?_⟩
  cases hinner with
  | here => exact hself
  | item => exact absurd rfl (harray _)
  | member => exact absurd rfl (hobject _)

theorem Everywhere.string {s : String} (hself : p (.string s)) : (Json.string s).Everywhere p :=
  (everywhere_scalar (fun _ => Json.noConfusion) fun _ => Json.noConfusion).2 hself

theorem Everywhere.integer {i : Int} (hself : p (.integer i)) :
    (Json.integer i).Everywhere p :=
  (everywhere_scalar (fun _ => Json.noConfusion) fun _ => Json.noConfusion).2 hself

end Everywhere

/-- No number of a value is a floating-point number. -/
def IsExact (value : Json) : Prop :=
  value.Everywhere fun inner => ∀ x, inner ≠ .float x

/-- The whole numbers of a value have 64 bits, with a sign or without one. -/
def FitsWords (value : Json) : Prop :=
  value.Everywhere fun inner =>
    ∀ i, inner = .integer i → -0x8000000000000000 ≤ i ∧ i < 0x10000000000000000

/-- The objects of a value know every name once, and the names are in order. -/
def IsOrdered (value : Json) : Prop :=
  value.Everywhere fun inner =>
    ∀ members : Members, inner = .object members → (members.map Prod.fst).Pairwise (· < ·)

/-! ## Objects in order -/

mutual

/-- A value with the members of all its objects in order, of each name the last one. -/
def sorted : Json → Json
  | .array items => .array (sortedItems items)
  | .object members => .object (ofMembers (sortedMembers members))
  | scalar => scalar

/-- Items with the members of all their objects in order. -/
def sortedItems : List Json → List Json
  | [] => []
  | item :: rest => sorted item :: sortedItems rest

/-- Members whose values have the members of all their objects in order. -/
def sortedMembers : List (String × Json) → List (String × Json)
  | [] => []
  | (name, value) :: rest => (name, sorted value) :: sortedMembers rest

end

/-- The items of a list are sorted one by one. -/
theorem sortedItems_eq_map (items : List Json) : sortedItems items = items.map sorted := by
  induction items with
  | nil => rfl
  | cons item rest ih => rw [sortedItems, List.map_cons, ih]

theorem sortedMembers_eq_map (members : Members) :
    sortedMembers members = members.map fun member => (member.1, member.2.sorted) := by
  induction members with
  | nil => rfl
  | cons member rest ih => rw [sortedMembers, List.map_cons, ih]

/-- Names in order are all different. -/
theorem nodup_of_ordered {names : List String} (h : names.Pairwise (· < ·)) : names.Nodup := by
  refine h.imp ?_
  rintro name _ hlt rfl
  exact String.lt_irrefl name hlt

/-- A name that is not there yet makes an object longer by one member. -/
theorem perm_insertMember {name : String} {members : Members} (h : name ∉ members.map Prod.fst)
    (value : Json) : (insertMember name value members).Perm ((name, value) :: members) := by
  induction members with
  | nil => exact .refl _
  | cons member rest ih =>
    rw [List.map_cons, List.mem_cons, not_or] at h
    rw [insertMember]
    split
    · exact .refl _
    · rw [if_neg h.1]
      exact ((ih h.2).cons member).trans (.swap _ _ rest)

/-- Members that are in order stay so when a new one is put in its place. -/
theorem pairwise_insertMember {name : String} {members : Members}
    (hname : name ∉ members.map Prod.fst) (h : (members.map Prod.fst).Pairwise (· < ·))
    (value : Json) : ((insertMember name value members).map Prod.fst).Pairwise (· < ·) := by
  induction members with
  | nil => exact List.pairwise_singleton _ _
  | cons member rest ih =>
    rw [List.map_cons, List.mem_cons, not_or] at hname
    obtain ⟨hfirst, hrest⟩ := List.pairwise_cons.1 h
    rw [insertMember]
    split
    next hlt =>
      refine List.pairwise_cons.2 ⟨fun other hother => ?_, h⟩
      rcases List.mem_cons.1 hother with rfl | hother
      · exact hlt
      · exact String.lt_trans hlt (hfirst other hother)
    next hge =>
      rw [if_neg hname.1]
      refine List.pairwise_cons.2 ⟨fun other hother => ?_, ih hname.2 hrest⟩
      have hmem := ((perm_insertMember hname.2 value).map Prod.fst).mem_iff.1 hother
      rcases List.mem_cons.1 hmem with rfl | hother
      · exact Std.lt_of_le_of_ne (String.not_lt.1 hge) (Ne.symm hname.1)
      · exact hfirst other hother

/-- Members with names of their own are put in order one after the other. -/
theorem foldl_insertMember {before members : Members}
    (hbefore : (before.map Prod.fst).Pairwise (· < ·))
    (h : ((before ++ members).map Prod.fst).Nodup) :
    ∃ ordered, members.foldl (fun sorted (name, value) => insertMember name value sorted) before =
        ordered
      ∧ (ordered.map Prod.fst).Pairwise (· < ·) ∧ ordered.Perm (before ++ members) := by
  induction members generalizing before with
  | nil => exact ⟨before, rfl, hbefore, by rw [List.append_nil]⟩
  | cons member rest ih =>
    have hmiddle : (before ++ member :: rest).Perm (member :: before ++ rest) := List.perm_middle
    have hname : member.1 ∉ before.map Prod.fst := by
      have hnodup := (hmiddle.map Prod.fst).nodup_iff.1 h
      rw [List.cons_append, List.map_cons, List.nodup_cons, List.map_append, List.mem_append] at hnodup
      exact fun hmem => hnodup.1 (.inl hmem)
    have hinserted := ((perm_insertMember hname member.2).append_right rest).trans hmiddle.symm
    obtain ⟨ordered, heq, hordered, hall⟩ :=
      ih (pairwise_insertMember hname hbefore member.2) ((hinserted.map Prod.fst).nodup_iff.2 h)
    exact ⟨ordered, heq, hordered, hall.trans hinserted⟩

/-- Members with names of their own, in whatever order, make up the object that has them in order. -/
theorem ofMembers_eq_of_perm {members ordered : Members} (hperm : members.Perm ordered)
    (h : (ordered.map Prod.fst).Pairwise (· < ·)) : ofMembers members = ordered := by
  have hnone : (([] : Members).map Prod.fst).Pairwise (· < ·) := .nil
  obtain ⟨sorted, heq, hsorted, hall⟩ :=
    foldl_insertMember hnone ((hperm.map Prod.fst).nodup_iff.2 (nodup_of_ordered h))
  have hasymm : ∀ a b : String × Json, a ∈ sorted → b ∈ ordered → a.1 < b.1 → b.1 < a.1 → a = b :=
    fun a b _ _ hab hba => absurd hab (String.lt_asymm hba)
  rw [ofMembers, heq]
  exact (hall.trans hperm).eq_of_pairwise hasymm (List.pairwise_map.1 hsorted) (List.pairwise_map.1 h)

/-- Members in order are the members of their object. -/
theorem ofMembers_eq {members : Members} (h : (members.map Prod.fst).Pairwise (· < ·)) :
    ofMembers members = members :=
  ofMembers_eq_of_perm (.refl members) h

/-- A value whose objects are in order stays as it is. -/
theorem sorted_eq {value : Json} (h : value.IsOrdered) : value.sorted = value := by
  induction value using containers with
  | null | bool | integer | float | string => rfl
  | array items ih =>
    rw [sorted, sortedItems_eq_map, List.map_congr_left fun item hmem => ih item hmem (h.item hmem),
      List.map_id']
  | object members ih =>
    have hvalues : sortedMembers members = members := by
      rw [sortedMembers_eq_map]
      refine (List.map_congr_left fun member hmem => ?_).trans (List.map_id' members)
      rw [ih member hmem (h.member hmem)]
    rw [sorted, hvalues, ofMembers_eq (h _ .here members rfl)]

end QueryLint.Json
