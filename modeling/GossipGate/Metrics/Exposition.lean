import GossipGate.Decimal.Shortest
import GossipGate.Json.Writer
import GossipGate.Metrics

namespace GossipGate

namespace Metrics

/-- Whether a list of texts comes before another or is the same. -/
def textsLe : List String → List String → Bool
  | [], _ => true
  | _ :: _, [] => false
  | a :: as, b :: bs => a < b || (a == b && textsLe as bs)

/-- The labels of a series with their values, in the order of their names. -/
def sortedLabels (metric : Metric) (values : List String) : List (String × String) :=
  (metric.labels.zip values).mergeSort fun a b => a.1 ≤ b.1

/-- In a label value, backslash, line feed and quote are escaped. -/
def escapeLabel (s : String) : String :=
  String.join (s.toList.map fun c =>
    if c = '\x5c' then "\\\\"
    else if c = '\n' then "\\n"
    else if c = '\x22' then "\\\""
    else c.toString)

def labelsText (labels : List (String × String)) : String :=
  String.intercalate "," (labels.map fun p => p.1 ++ "=\"" ++ escapeLabel p.2 ++ "\"")

def seriesOf (m : Metrics Float) (metric : Metric) : List (List (String × String) × Float) :=
  (m.series.entries.filter fun p => p.1.1 = metric).map fun p =>
    (sortedLabels metric p.2.labels, p.2.value)

def seriesLine (metric : Metric) (series : List (String × String) × Float) : String :=
  metric.name ++ "\x7b" ++ labelsText series.1 ++ "\x7d " ++ shortestText series.2 ++ "\n"

/-- The lines of one metric, its series in the order of their label values. Without series there
are none. -/
def familyText (m : Metrics Float) (metric : Metric) : String :=
  let series := (m.seriesOf metric).mergeSort fun a b =>
    textsLe (a.1.map Prod.snd) (b.1.map Prod.snd)
  if series.isEmpty then ""
  else
    "# HELP " ++ metric.name ++ " " ++ metric.help ++ "\n" ++
      "# TYPE " ++ metric.name ++ " " ++ (if metric.isGauge then "gauge" else "counter") ++ "\n" ++
      String.join (series.map (seriesLine metric))

/-- The text exposition of all metrics in the order of their names. -/
def text (m : Metrics Float) : String := String.join (Metric.all.map m.familyText)

def labelsJson (labels : List (String × String)) : Json :=
  .object (labels.map fun p => (p.1, .text p.2))

/-- All series with name, labels and value, in the order of the names and, within a name, of the
compact JSON text of the labels. -/
def listing (m : Metrics Float) : List (String × List (String × String) × Float) :=
  Metric.all.flatMap fun metric =>
    ((m.seriesOf metric).mergeSort fun a b =>
      (labelsJson a.1).toText ≤ (labelsJson b.1).toText).map fun series => (metric.name, series)

end Metrics

end GossipGate
