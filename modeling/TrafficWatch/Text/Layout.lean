/-!
Cells of a fixed width, counted in characters.
-/

namespace TrafficWatch.Text

def blanks (n : Nat) : String := String.ofList (List.replicate n ' ')

/-- Text on the left, blanks up to the width. -/
def padRight (width : Nat) (s : String) : String := s ++ blanks (width - s.length)

/-- Text on the right. -/
def padLeft (width : Nat) (s : String) : String := blanks (width - s.length) ++ s

/-- A text that is too long loses its tail and ends in an ellipsis. -/
def truncate (width : Nat) (s : String) : String :=
  if s.length ≤ width then s
  else String.ofList (s.toList.take (width - 1)) ++ "…"

theorem length_blanks (n : Nat) : (blanks n).length = n := by simp [blanks]

theorem length_padRight (width : Nat) (s : String) :
    (padRight width s).length = max width s.length := by
  simp [padRight, length_blanks]; omega

theorem length_padLeft (width : Nat) (s : String) :
    (padLeft width s).length = max width s.length := by
  simp [padLeft, length_blanks]; omega

theorem length_truncate_le (width : Nat) (s : String) (h : 0 < width) :
    (truncate width s).length ≤ width := by
  unfold truncate
  split
  · assumption
  · have one : "…".length = 1 := by decide
    simp [String.length_append, one]; omega

end TrafficWatch.Text
