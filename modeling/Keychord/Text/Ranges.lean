/-!
# Sets of characters given by ranges

A character property is a list of closed ranges of code points. Membership walks the list;
nothing here depends on the order of the ranges or on their being disjoint.
-/
namespace Keychord.Text

/-- Closed ranges of code points. -/
abbrev Ranges := List (Nat × Nat)

/-- Some range holds the character. -/
def Ranges.has (ranges : Ranges) (c : Char) : Bool :=
  ranges.any fun r => r.1 ≤ c.toNat && c.toNat ≤ r.2

theorem Ranges.has_iff (ranges : Ranges) (c : Char) :
    ranges.has c = true ↔ ∃ r ∈ ranges, r.1 ≤ c.toNat ∧ c.toNat ≤ r.2 := by
  simp [Ranges.has]

end Keychord.Text
