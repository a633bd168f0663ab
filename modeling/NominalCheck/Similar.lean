import NominalCheck.Ordered
import NominalCheck.Text.EditDistance

/-!
# Similar names

When a name is not declared, the message lists up to three declared names that are close to it in
edit distance, nearest first and in alphabetical order among equally near ones. How far a name may
be off grows with its length: a third of its characters, but always one edit.

The result depends only on **which** names are in reach, not on their order or on repetitions.
-/

namespace NominalCheck

/-- The number of edits up to which a name counts as close to `name`. -/
def maxDistance (name : String) : Nat := max 1 (name.toList.length / 3)

/-- Nearer names first, equally near ones by their characters. -/
def compareRanked (a b : Nat × String) : Ordering := (compare a.1 b.1).then (compare a.2 b.2)

/-- The candidates close to `name` but different from it, with their distances, in ranking order. -/
def rankedNames (name : String) (candidates : List String) : List (Nat × String) :=
  let scored := candidates.map fun c ↦ (editDistance name c, c)
  orderedDistinct compareRanked <|
    scored.filter fun s ↦ s.2 ≠ name ∧ s.1 ≤ maxDistance name

/-- Up to three of the candidates that are closest to `name`. -/
def similarNames (name : String) (candidates : List String) : List String :=
  ((rankedNames name candidates).take 3).map Prod.snd

end NominalCheck
