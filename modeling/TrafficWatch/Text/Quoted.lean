import TrafficWatch.Text.Invisible

/-!
Text between double quotes, with escapes for all that does not show.
-/

namespace TrafficWatch.Text

def hexText (n : Nat) : String := String.ofList (Nat.toDigits 16 n)

def escapeQuoted (c : Char) : String :=
  if c = '"' then "\\\""
  else if c = '\\' then "\\\\"
  else if c = '\n' then "\\n"
  else if c = '\r' then "\\r"
  else if c = '\t' then "\\t"
  else if c.toNat = 0 then "\\0"
  else if isInvisible c then "\\u\x7b" ++ hexText c.toNat ++ "\x7d"
  else c.toString

def quoted (s : String) : String :=
  "\"" ++ String.join (s.toList.map escapeQuoted) ++ "\""

end TrafficWatch.Text
