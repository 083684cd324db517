/-!
Associations in the order in which their keys were first set. Main statements: a key that was set is found with its
latest value, and setting it changes no other.
-/

namespace Stencil.Assoc

variable {α β : Type} [DecidableEq α]

/-- Sets the value under a key, in its old place where there is one. -/
def put (key : α) (value : β) : List (α × β) → List (α × β)
  | [] => [(key, value)]
  | (other, old) :: rest => if other = key then (other, value) :: rest else (other, old) :: put key value rest

def ofList (entries : List (α × β)) : List (α × β) :=
  entries.foldl (fun known (key, value) => put key value known) []

theorem lookup_put_self (key : α) (value : β) (entries : List (α × β)) :
    (put key value entries).lookup key = some value := by
  induction entries with
  | nil => simp [put]
  | cons e rest ih =>
    obtain ⟨other, old⟩ := e
    by_cases h : other = key
    · simp [put, h]
    · have : (key == other) = false := beq_eq_false_iff_ne.2 (Ne.symm h)
      simp [put, h, List.lookup_cons, this, ih]

theorem lookup_put_of_ne {key name : α} (h : name ≠ key) (value : β) (entries : List (α × β)) :
    (put key value entries).lookup name = entries.lookup name := by
  induction entries with
  | nil => simp [put, h]
  | cons e rest ih =>
    obtain ⟨other, old⟩ := e
    by_cases hk : other = key
    · subst hk
      have : (name == other) = false := beq_eq_false_iff_ne.2 h
      simp [put, List.lookup_cons, this]
    · simp [put, hk, List.lookup_cons, ih]

end Stencil.Assoc
