/-!
# Sets of names

Names are compared character by character, which is the same as byte by byte in
UTF-8. A set of names is written as the strictly increasing list of its members;
`sortedSet` brings any list of names into that form.
-/

namespace LogForwarding

/-- Puts a name into a strictly increasing list, which stays strictly increasing. -/
def insertName (name : String) : List String → List String
  | [] => [name]
  | other :: rest =>
    if name < other then name :: other :: rest
    else if name = other then other :: rest
    else other :: insertName name rest

/-- The distinct names of a list in increasing order. -/
def sortedSet (names : List String) : List String :=
  names.foldr insertName []

theorem mem_insertName {x name : String} {names : List String} :
    x ∈ insertName name names ↔ x = name ∨ x ∈ names := by
  induction names with
  | nil => simp [insertName]
  | cons other rest ih =>
    simp only [insertName]
    split
    · simp
    · split
      · rename_i h
        subst h
        simp
      · simp only [List.mem_cons, ih]
        grind

@[simp] theorem mem_sortedSet {x : String} {names : List String} :
    x ∈ sortedSet names ↔ x ∈ names := by
  unfold sortedSet
  induction names with
  | nil => simp
  | cons name rest ih => simp [mem_insertName, ih]

end LogForwarding
