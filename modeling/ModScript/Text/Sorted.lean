/-!
# Names in order

Names are compared character by character, by code point. A sorted list of names has each name once.
-/

namespace ModScript

/-- The names of a list in ascending order, each once. -/
def sortedNames (names : List String) : List String :=
  names.eraseDups.mergeSort fun a b => decide (a ≤ b)

theorem mem_sortedNames {names : List String} {name : String} :
    name ∈ sortedNames names ↔ name ∈ names := by
  simp [sortedNames, List.mem_mergeSort, List.mem_eraseDups]

end ModScript
