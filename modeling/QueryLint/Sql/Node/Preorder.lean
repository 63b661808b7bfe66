import QueryLint.Sql.Node.Size

/-!
# Going through a statement

`preorder` lists a node with all that is below it, each node before what it holds. A query, a
selection or a removal of rows anywhere in a statement is one of the nodes of that list.
-/

namespace QueryLint.Sql

namespace Node

/-- A node with all that is below it, each node before what it holds. -/
def preorder (n : Node) : List Node :=
  n :: n.children.attach.flatMap fun ⟨c, _⟩ => preorder c
termination_by sizeOf n
decreasing_by
  rename_i h
  exact sizeOf_lt_of_mem_children h

/-- A node comes before all that it holds. -/
theorem preorder_eq (n : Node) : n.preorder = n :: n.children.flatMap preorder := by
  rw [preorder]
  simp

end Node

/-- All nodes of a statement. -/
def Statement.nodes (s : Statement) : List Node := (Node.statement s).preorder

end QueryLint.Sql
