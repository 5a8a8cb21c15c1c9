/-!
# Linearization of ancestors

A class looks up members along one list of its ancestors. The list merges the lists of the
bases, and the bases themselves, so that each class precedes its own ancestors and bases keep
their order. `merge` builds it from the front: it takes the first head that no other list has
further back. Where there is no such head, there is no merge, and the heads that block each other
are what is wrong.
-/

namespace Conformance

namespace Linearization

variable {α : Type} [DecidableEq α]

/-- No list has `x` behind its head. -/
def isFree (x : α) (lists : List (List α)) : Bool := lists.all fun l => !l.tail.contains x

/-- The first head that no list has further back. -/
def nextHead? (lists : List (List α)) : Option α :=
  (lists.filterMap List.head?).find? fun x => isFree x lists

/-- The lists without the head `x`. -/
def dropHead (x : α) (lists : List (List α)) : List (List α) :=
  lists.map fun l => if l.head? = some x then l.tail else l

/-- The heads that block each other. -/
def blocked (lists : List (List α)) : List α := (lists.filterMap List.head?).eraseDups

/-- Merges lists, taking at most `steps` heads. -/
def mergeWithin : (steps : Nat) → List (List α) → Except (List α) (List α)
  | 0, lists => if lists.all List.isEmpty then .ok [] else .error (blocked lists)
  | steps + 1, lists =>
    if lists.all List.isEmpty then .ok []
    else
      match nextHead? lists with
      | some x => (mergeWithin steps (dropHead x lists)).map (x :: ·)
      | none => .error (blocked lists)

/-- Merges lists into one that has the elements of all and keeps the order of each, if the
lists agree. -/
def merge (lists : List (List α)) : Except (List α) (List α) :=
  mergeWithin lists.flatten.length lists

end Linearization

end Conformance
