/-!
# Tables of code points

- `RangeTable`: a set of characters, written as inclusive ranges of code points.
- `RangeTable.contains t c`: whether some range of `t` holds `c`.
-/

namespace CommandFront

/-- A set of characters as inclusive ranges of code points. -/
abbrev RangeTable := List (Nat × Nat)

namespace RangeTable

/-- Whether some range of the table holds the character. -/
def contains (t : RangeTable) (c : Char) : Bool :=
  t.any fun range => range.1 ≤ c.toNat && c.toNat ≤ range.2

@[simp] theorem contains_iff {t : RangeTable} {c : Char} :
    t.contains c = true ↔ ∃ r ∈ t, r.1 ≤ c.toNat ∧ c.toNat ≤ r.2 := by
  simp [contains]

end RangeTable

end CommandFront
