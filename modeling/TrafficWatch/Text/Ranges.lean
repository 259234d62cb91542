/-!
Sets of code points, kept as sorted ranges and written compactly as text.
-/

namespace TrafficWatch.Text

def hexDigitValue (c : Char) : Nat :=
  if c.isDigit then c.toNat - 48
  else if 'a' ≤ c ∧ c ≤ 'f' then c.toNat - 87
  else if 'A' ≤ c ∧ c ≤ 'F' then c.toNat - 55
  else 0

def hexValue (cs : List Char) : Nat := cs.foldl (fun n c => 16 * n + hexDigitValue c) 0

/-- The words of a text, cut at single blanks. -/
def words (s : String) : List (List Char) := s.toList.splitOn ' '

/-- A range is written `first-last`, a single code point alone. -/
def rangeOfWord (w : List Char) : Nat × Nat :=
  let first := w.takeWhile (· != '-')
  let last := (w.dropWhile (· != '-')).drop 1
  (hexValue first, if last.isEmpty then hexValue first else hexValue last)

structure Ranges where
  all : Array (Nat × Nat)

namespace Ranges

def ofLines (lines : List String) : Ranges :=
  ⟨((lines.flatMap words).filter (! ·.isEmpty)).map rangeOfWord |>.toArray⟩

def contains (r : Ranges) (n : Nat) : Bool := r.all.any fun p => p.1 ≤ n && n ≤ p.2

end Ranges

end TrafficWatch.Text
