/-!
# Ranges of code points

A class of characters is given as a table of ranges of code points.
-/

namespace LspGateway.Text

/-- Whether a code point lies in one of the ranges of a table. -/
def inRanges (table : List (Nat × Nat)) (code : Nat) : Bool :=
  table.any fun (low, high) => low ≤ code && code ≤ high

/-- A code point between the ends of a range of the table lies in the table. -/
theorem inRanges_of_mem {table : List (Nat × Nat)} {low high code : Nat}
    (h : (low, high) ∈ table) (above : low ≤ code) (below : code ≤ high) :
    inRanges table code = true :=
  List.any_eq_true.2 ⟨(low, high), h, by simp [above, below]⟩

end LspGateway.Text
