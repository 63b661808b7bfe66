import Mathlib.Logic.Function.Iterate
import QueryLint.Proofs.Sql.Selects

/-!
# Searching a body turn by turn

`Body.selects` follows the set operators of a body by recursion. A search follows them with a stack of
bodies (`Search.step`): a turn takes the topmost body off, keeps it if it is a selection, and puts the
two sides of a set operator on the stack, the right one first and the left one on top of it. From the
top down the stack is the list that `selectsOf` works through, a call for a turn (`selectsOf_cons`).

A turn may leave more bodies on the stack than there were. What gets less is `Search.awaiting`, the
branches of the bodies on the stack from the top down: a turn looks at the first of them and leaves the
others (`awaiting_of_next?`). What stays the same is `Search.outcome`, what has been found together with
what `selectsOf` finds in the bodies on the stack (`outcome_step`). Along a run the former says that a
search goes through the branches of a body from left to right, each of them once, and then ends; the
latter says what it ends with:

> `selects_iterate_start`: the search of a body comes upon the selections of the body, in their order.
-/

namespace QueryLint.Sql

/-! ## A body and its sides -/

/-- The selection that a body is by itself, without those on its sides. -/
def Body.own : Body → List Select
  | .select s => [s]
  | _ => []

/-- The bodies on the two sides of a set operator. -/
def Body.sides : Body → List Body
  | .setOperation left _ _ right => [left, right]
  | _ => []

/-- A body and all that set operators put it together from: each body before those on its sides, and
the left side before the right one. -/
def Body.branches : Body → List Body
  | .setOperation left op quantifier right =>
    .setOperation left op quantifier right :: (left.branches ++ right.branches)
  | b => [b]

namespace Body

/-- The selections of a body are its own and then those of its sides. -/
theorem selects_eq_append (b : Body) : b.selects = b.own ++ b.sides.flatMap selects := by
  cases b with
  | setOperation left op quantifier right =>
    show left.selects ++ right.selects = [] ++ [left, right].flatMap selects
    rw [List.flatMap_cons, List.flatMap_singleton, List.nil_append]
  | _ => rfl

theorem branches_eq_cons (b : Body) : b.branches = b :: b.sides.flatMap branches := by
  cases b with
  | setOperation left op quantifier right =>
    rw [branches, sides, List.flatMap_cons, List.flatMap_singleton]
  | _ => rfl

end Body

/-- Looking at a body finds what the body is by itself, and its sides take its place. -/
theorem selectsOf_cons (b : Body) (rest : List Body) :
    selectsOf (b :: rest) = b.own ++ selectsOf (b.sides ++ rest) := by
  rw [selectsOf_eq_flatMap, selectsOf_eq_flatMap, List.flatMap_cons, List.flatMap_append,
    b.selects_eq_append, List.append_assoc]

/-! ## One turn -/

/-- A search under way. -/
structure Search where
  /-- The selections that have been found. -/
  found : List Select
  /-- The bodies that are still to be looked at, as a stack with its top at the end. -/
  pending : List Body

namespace Search

variable {s : Search} {b : Body}

/-- The search of a body before anything has been looked at. -/
def start (b : Body) : Search := ⟨[], [b]⟩

/-- The body that is looked at next, unless the search has ended. -/
def next? (s : Search) : Option Body := s.pending.getLast?

/-- One turn of a search. One that has ended stays as it is. -/
def step (s : Search) : Search :=
  match s.next? with
  | none => s
  | some (.select x) => ⟨s.found ++ [x], s.pending.dropLast⟩
  | some (.setOperation left _ _ right) => ⟨s.found, s.pending.dropLast ++ [right] ++ [left]⟩
  | some _ => ⟨s.found, s.pending.dropLast⟩

/-- The branches that a search has still to look at, the next one first. -/
def awaiting (s : Search) : List Body := s.pending.reverse.flatMap Body.branches

/-- What a search comes to: what it has found, and what is found in the bodies on its stack. -/
def outcome (s : Search) : List Select := s.found ++ selectsOf s.pending.reverse

/-- A turn adds what the body that comes next has of its own. -/
theorem found_step (h : s.next? = some b) : s.step.found = s.found ++ b.own := by
  rw [step, h]
  cases b <;> simp [Body.own]

/-- The stack from the top down: the body that is looked at next, and the bodies below it. -/
theorem reverse_pending (h : s.next? = some b) :
    s.pending.reverse = b :: s.pending.dropLast.reverse := by
  have htop : s.pending.dropLast ++ [b] = s.pending := List.dropLast_append_getLast? b h
  calc s.pending.reverse = (s.pending.dropLast ++ [b]).reverse := by rw [htop]
    _ = b :: s.pending.dropLast.reverse := List.reverse_concat

/-- A turn puts the sides of a body in its place, the left one on top. -/
theorem reverse_pending_step (h : s.next? = some b) :
    s.step.pending.reverse = b.sides ++ s.pending.dropLast.reverse := by
  rw [step, h]
  cases b <;> simp [Body.sides]

/-- A turn looks at the first of the branches that are awaited and leaves the others. -/
theorem awaiting_of_next? (h : s.next? = some b) : s.awaiting = b :: s.step.awaiting := by
  unfold awaiting
  rw [reverse_pending h, reverse_pending_step h, List.flatMap_cons, List.flatMap_append,
    b.branches_eq_cons, List.cons_append]

/-! A search without a next body has ended: nothing is awaited, and it has found what it comes to. -/

theorem pending_of_ended (h : s.next? = none) : s.pending = [] :=
  List.getLast?_eq_none_iff.1 h

theorem step_of_ended (h : s.next? = none) : s.step = s := by
  rw [step, h]

theorem awaiting_of_ended (h : s.next? = none) : s.awaiting = [] := by
  rw [awaiting, pending_of_ended h]
  rfl

theorem eq_of_ended (h : s.next? = none) : s = ⟨s.outcome, []⟩ := by
  have hpending := pending_of_ended h
  have hfound : s.outcome = s.found := by
    rw [outcome, hpending, selectsOf_eq_flatMap]
    exact List.append_nil _
  rw [hfound, ← hpending]

/-! Whether it has ended or not, the branches that a search awaits tell which body comes next. -/

/-- The body that comes next is the first of those that await their turn. -/
theorem next?_eq_head? (s : Search) : s.next? = s.awaiting.head? := by
  cases h : s.next? with
  | none => rw [awaiting_of_ended h, List.head?_nil]
  | some b => rw [awaiting_of_next? h, List.head?_cons]

/-- A turn takes one body off those that await theirs: the sides of a set operator were awaited behind
it already. -/
theorem awaiting_step (s : Search) : s.step.awaiting = s.awaiting.tail := by
  cases h : s.next? with
  | none => rw [step_of_ended h, awaiting_of_ended h, List.tail_nil]
  | some b => rw [awaiting_of_next? h, List.tail_cons]

/-- A turn does not change what a search comes to. -/
theorem outcome_step (s : Search) : s.step.outcome = s.outcome := by
  cases h : s.next? with
  | none => rw [step_of_ended h]
  | some b =>
    unfold outcome
    rw [found_step h, reverse_pending h, reverse_pending_step h, selectsOf_cons, List.append_assoc]

/-! ## A run -/

/-- So many turns take so many bodies off. -/
theorem awaiting_iterate (s : Search) (n : Nat) : (step^[n] s).awaiting = s.awaiting.drop n := by
  induction n generalizing s with
  | zero => rfl
  | succ n ih => rw [Function.iterate_succ_apply, ih, awaiting_step, List.drop_tail]

/-- What is found in some turns is what the branches looked at are by themselves. -/
theorem found_iterate (s : Search) (n : Nat) :
    (step^[n] s).found = s.found ++ (s.awaiting.take n).flatMap Body.own := by
  induction n generalizing s with
  | zero => exact (List.append_nil _).symm
  | succ n ih =>
    rw [Function.iterate_succ_apply, ih]
    cases h : s.next? with
    | none => rw [step_of_ended h, awaiting_of_ended h, List.take_nil, List.take_nil]
    | some b =>
      rw [found_step h, awaiting_of_next? h, List.take_succ_cons, List.flatMap_cons,
        List.append_assoc]

/-- What a search will have found is settled at every turn, and stays the same. -/
theorem outcome_iterate (s : Search) (n : Nat) : (step^[n] s).outcome = s.outcome := by
  induction n generalizing s with
  | zero => rfl
  | succ n ih => rw [Function.iterate_succ_apply, ih, outcome_step]

theorem awaiting_start (b : Body) : (start b).awaiting = b.branches :=
  List.flatMap_singleton Body.branches b

theorem outcome_start (b : Body) : (start b).outcome = b.selects := by
  show [] ++ selectsOf [b] = b.selects
  rw [List.nil_append, selectsOf_eq_flatMap, List.flatMap_singleton]

/-- **The search of a body.** Whatever set operators a body is put together with, the selections that
are found in it are those of the recursion: a selection is found itself, the sides of a set operator
give what is found on the left and then what is found on the right, and nothing else gives any.

With a stack, turn `n` looks at branch `n` of the body as long as there is one, so that the search
ends and every branch has one turn. Until then the selections among the branches looked at have been
found, in that order, and the bodies on the stack, from its top down, hold those that are missing. -/
theorem selects_iterate_start (b : Body) :
    selectsOf [b] = b.selects
    ∧ (∀ n, (step^[n] (start b)).next? = b.branches[n]?)
    ∧ (∀ n, (step^[n] (start b)).found = (b.branches.take n).flatMap Body.own)
    ∧ (∀ n, (step^[n] (start b)).found ++ selectsOf (step^[n] (start b)).pending.reverse = b.selects)
    ∧ step^[b.branches.length] (start b) = ⟨b.selects, []⟩ := by
  have hnext (n : Nat) : (step^[n] (start b)).next? = b.branches[n]? := by
    rw [next?_eq_head?, awaiting_iterate, awaiting_start, List.head?_drop]
  have hfound (n : Nat) : (step^[n] (start b)).found = (b.branches.take n).flatMap Body.own := by
    rw [found_iterate, awaiting_start]
    rfl
  have houtcome (n : Nat) : (step^[n] (start b)).outcome = b.selects := by
    rw [outcome_iterate, outcome_start]
  -- After as many turns as there are branches none is left to be looked at.
  have hended : (step^[b.branches.length] (start b)).next? = none := by
    rw [hnext, List.getElem?_length]
  refine ⟨outcome_start b, hnext, hfound, houtcome, ?_⟩
  rw [eq_of_ended hended, houtcome]

/-- Three selections, with a set operator on the left side of another. -/
example (x y z : Select) :
    step^[5] (start (.setOperation (.setOperation (.select x) .union "" (.select y)) .except ""
      (.select z))) = ⟨[x, y, z], []⟩ := rfl

end Search

end QueryLint.Sql
