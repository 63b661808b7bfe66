import QueryLint.Proofs.Json.Value
import QueryLint.Toml.Writer

/-!
# What cannot be written

Members are refused as a document for one of two reasons, wherever it is found in them: a value is
missing, or a whole number has more than 63 bits. `unwritable?_eq_none_iff` says that there is no
third one.
-/

namespace QueryLint.Toml

/-- Nothing in a value is missing, and no whole number in it has more than 63 bits. -/
def Writable (value : Json) : Prop :=
  value.Everywhere fun inner => inner ≠ .null ∧ ∀ i, inner = .integer i → i < 0x8000000000000000

/-- Nothing stands in the way of a list if nothing does of its items. -/
theorem unwritableItem?_eq_none_iff {items : List Json} :
    unwritableItem? items = none ↔ ∀ item ∈ items, unwritable? item = none := by
  induction items with
  | nil => exact iff_of_true rfl fun _ => nofun
  | cons item rest ih =>
    rw [unwritableItem?, Option.or_eq_none_iff, ih, List.forall_mem_cons]

theorem unwritableMember?_eq_none_iff {members : Json.Members} :
    unwritableMember? members = none ↔ ∀ member ∈ members, unwritable? member.2 = none := by
  induction members with
  | nil => exact iff_of_true rfl fun _ => nofun
  | cons member rest ih =>
    rw [unwritableMember?, Option.or_eq_none_iff, ih, List.forall_mem_cons]

/-- Nothing in a value is refused if nothing in it is missing or too large, and not otherwise. -/
theorem unwritable?_eq_none_iff {value : Json} : unwritable? value = none ↔ Writable value := by
  induction value using Json.containers with
  | null => exact iff_of_false nofun fun h => (h _ .here).1 rfl
  | bool | float | string =>
    refine iff_of_true rfl
      ((Json.everywhere_scalar (fun _ => Json.noConfusion) fun _ => Json.noConfusion).2 ?_)
    exact ⟨nofun, fun _ => nofun⟩
  | integer i =>
    rw [Writable, Json.everywhere_scalar (fun _ => Json.noConfusion) fun _ => Json.noConfusion,
      unwritable?]
    constructor
    · intro h
      refine ⟨nofun, ?_⟩
      rintro _ ⟨⟩
      exact Decidable.of_not_not fun hlarge => by rw [if_neg hlarge] at h; cases h
    · exact fun h => if_pos (h.2 i rfl)
  | array items ih =>
    rw [unwritable?, unwritableItem?_eq_none_iff, Writable, Json.everywhere_array,
      and_iff_right ⟨nofun, fun _ => nofun⟩]
    exact forall₂_congr ih
  | object members ih =>
    rw [unwritable?, unwritableMember?_eq_none_iff, Writable, Json.everywhere_object,
      and_iff_right ⟨nofun, fun _ => nofun⟩]
    exact forall₂_congr ih

/-- **A document is written** if nothing in its members is missing or too large, and not otherwise. -/
theorem write_eq_ok_iff {members : Json.Members} {text : String} :
    write members = .ok text ↔
      (∀ member ∈ members, Writable member.2) ∧ text = String.ofList (writeDocument members) := by
  simp only [← unwritable?_eq_none_iff, ← unwritableMember?_eq_none_iff, write]
  cases unwritableMember? members with
  | none => exact ⟨fun h => ⟨rfl, (Except.ok.inj h).symm⟩, fun h => congrArg Except.ok h.2.symm⟩
  | some reason => exact iff_of_false nofun fun h => nomatch h.1

end QueryLint.Toml
