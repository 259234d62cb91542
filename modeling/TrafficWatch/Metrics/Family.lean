import TrafficWatch.Decimal.Shortest

/-!
Gauges as text for a collector to read: for each family its help, its type, and a line per sample.
-/

namespace TrafficWatch.Metrics

structure Sample where
  labels : List (String × String) := []
  value : Float

structure Family where
  name : String
  help : String
  samples : List Sample

/-- A value between quotation marks. -/
def escapeLabel (c : Char) : String :=
  if c = '\\' then "\\\\"
  else if c = '"' then "\\\""
  else if c = '\n' then "\\n"
  else c.toString

def labelText (l : String × String) : String :=
  l.1 ++ "=\"" ++ String.join (l.2.toList.map escapeLabel) ++ "\""

def labelsText (ls : List (String × String)) : String :=
  if ls.isEmpty then "" else "\x7b" ++ ",".intercalate (ls.map labelText) ++ "\x7d"

namespace Family

def single (name help : String) (value : Float) : Family := ⟨name, help, [{ value }]⟩

/-- One sample for each value of a label. -/
def byLabel (name help label : String) (values : List (String × Float)) : Family :=
  ⟨name, help, values.map fun (l, value) => { labels := [(label, l)], value }⟩

def sampleLine (f : Family) (s : Sample) : String :=
  f.name ++ labelsText s.labels ++ " " ++ Decimal.positional s.value ++ "\n"

def text (f : Family) : String :=
  "# HELP " ++ f.name ++ " " ++ f.help ++ "\n" ++ "# TYPE " ++ f.name ++ " gauge\n" ++
    String.join (f.samples.map f.sampleLine)

end Family

/-- A family without samples is left out. -/
def text (fs : List Family) : String :=
  String.join ((fs.filter fun f => ! f.samples.isEmpty).map Family.text)

end TrafficWatch.Metrics
