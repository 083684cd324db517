/-!
Cycles in a delegation graph. A depth-first walk keeps the path that it is on; to come back to a node of that path is a
cycle, and the path shows it.
-/

namespace Stencil.Delegation

variable {α : Type} [DecidableEq α]

mutual

/-- Visits a node and all that it delegates to. `fresh` holds the nodes that are not on the path, `done` those that
need no second visit. The answer is the new `done`, or a path whose last node occurs before. -/
def visit (next : α → List α) (fresh path done : List α) (node : α) : Except (List α) (List α) :=
  if node ∈ done then .ok done
  else if h : node ∈ fresh then
    have := List.length_erase_of_mem h
    have := List.length_pos_of_mem h
    match visitAll next (fresh.erase node) (path ++ [node]) done (next node) with
    | .ok done => .ok (node :: done)
    | .error chain => .error chain
  else .error (path ++ [node])
termination_by (fresh.length, 0)
decreasing_by
  apply Prod.Lex.left
  omega

def visitAll (next : α → List α) (fresh path done : List α) : List α → Except (List α) (List α)
  | [] => .ok done
  | node :: rest =>
    match visit next fresh path done node with
    | .ok done => visitAll next fresh path done rest
    | .error chain => .error chain
termination_by nodes => (fresh.length, nodes.length + 1)

end

/-- The chain of a cycle that `start` reaches, where there is one; `nodes` holds every node of the graph. -/
def cycle? (next : α → List α) (nodes : List α) (start : α) : Option (List α) :=
  match visit next nodes [] [] start with
  | .ok _ => none
  | .error chain => some chain

end Stencil.Delegation
