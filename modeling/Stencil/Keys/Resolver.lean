import Stencil.Keys.Basic

/-!
Resolvers find the handler that is bound to a key: first among their own bindings, then in each resolver that they
delegate to, in order. Every resolver has an identity, which tells it from others that are bound alike.
-/

namespace Stencil

inductive Resolver where
  | bound (id : Nat) (bindings : Bindings) (delegates : List Resolver) (defaultNamespace : Value)
  /-- A resolver of the embedding program's own, which finds handlers its own way. -/
  | foreign (id : Nat) (label : String) (find : Key → Option Handler) (defaultNamespace : Value)

namespace Resolver

def id : Resolver → Nat
  | .bound id .. => id
  | .foreign id .. => id

def bindings : Resolver → Bindings
  | .bound _ bindings .. => bindings
  | .foreign .. => []

def delegates : Resolver → List Resolver
  | .bound _ _ delegates _ => delegates
  | .foreign .. => []

def defaultNamespace : Resolver → Value
  | .bound _ _ _ ns => ns
  | .foreign _ _ _ ns => ns

mutual

def resolve : Resolver → Key → Option Handler
  | .bound _ bindings delegates _, key =>
    match bindings.local? key with
    | some h => some h
    | none => resolveFirst delegates key
  | .foreign _ _ find _, key => find key

def resolveFirst : List Resolver → Key → Option Handler
  | [], _ => none
  | r :: rs, key =>
    match resolve r key with
    | some h => some h
    | none => resolveFirst rs key

end

theorem resolve_bound (id : Nat) (bindings : Bindings) (delegates : List Resolver) (ns : Value) (key : Key) :
    (bound id bindings delegates ns).resolve key = (bindings.local? key).or (resolveFirst delegates key) := by
  rw [resolve]
  cases bindings.local? key <;> rfl

theorem resolveFirst_cons (r : Resolver) (rs : List Resolver) (key : Key) :
    resolveFirst (r :: rs) key = (r.resolve key).or (resolveFirst rs key) := by
  rw [resolveFirst]
  cases r.resolve key <;> rfl

theorem resolveFirst_append (rs others : List Resolver) (key : Key) :
    resolveFirst (rs ++ others) key = (resolveFirst rs key).or (resolveFirst others key) := by
  induction rs with
  | nil => rw [List.nil_append, resolveFirst, Option.none_or]
  | cons r rs ih => rw [List.cons_append, resolveFirst_cons, resolveFirst_cons, ih, Option.or_assoc]

def withKey (r : Resolver) (newId : Nat) (key : Key) (h : Handler) : Resolver :=
  .bound newId (Assoc.put key h r.bindings) r.delegates r.defaultNamespace

def withDelegate (r : Resolver) (newId : Nat) (other : Resolver) : Resolver :=
  .bound newId r.bindings (r.delegates ++ [other]) r.defaultNamespace

theorem resolve_withDelegate (id newId : Nat) (bound : Bindings) (others : List Resolver) (ns : Value) (other : Resolver)
    (key : Key) :
    ((Resolver.bound id bound others ns).withDelegate newId other).resolve key =
      ((Resolver.bound id bound others ns).resolve key).or (other.resolve key) := by
  rw [withDelegate, resolve_bound, resolve_bound, bindings, delegates, resolveFirst_append, resolveFirst_cons,
    resolveFirst, Option.or_none, Option.or_assoc]

def describe : Resolver → String
  | .bound _ bindings delegates _ =>
    "BasicKeyResolver(" ++ toString bindings.length ++ " keys, " ++ toString delegates.length ++ " delegates)"
  | .foreign _ label .. => label

def circleRatio : Float := 3.141592653589793

def logarithmBase : Float := 2.718281828459045

def numbers : Resolver :=
  .bound 0 [(.ofText "Math" "PI", .const (.float circleRatio)), (.ofText "Math" "E", .const (.float logarithmBase))] []
    (.text Key.defaultNamespace)

/-- Names without a namespace are read from the context. -/
def fromContext : Resolver :=
  .bound 1 [((Key.ofText Key.defaultNamespace "*"), .path)] [] (.text Key.defaultNamespace)

theorem resolve_fromContext (key : Key) :
    fromContext.resolve key = if key.ns = .text Key.defaultNamespace then some .path else none := by
  obtain ⟨ns, name⟩ := key
  rw [fromContext, resolve, Bindings.local?]
  simp only [Key.wildcard, List.lookup_cons, List.lookup_nil]
  by_cases hns : ns = .text Key.defaultNamespace
  · subst hns
    cases Key.mk (.text Key.defaultNamespace) name == Key.ofText Key.defaultNamespace "*" <;> rfl
  · have hne (label : Label) : (Key.mk ns label == Key.ofText Key.defaultNamespace "*") = false :=
      beq_eq_false_iff_ne.2 fun he => hns (congrArg Key.ns he)
    simp only [hne, if_neg hns]
    rfl

end Resolver

end Stencil
