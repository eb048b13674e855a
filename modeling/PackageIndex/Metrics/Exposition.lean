import PackageIndex.Decimal.Shortest
import PackageIndex.Metrics
/-!
The text in which measurements are served: families in the order of their names, each
with two comment lines and one line for each of its children in the order of their
labels. A family without children is left out.
-/
namespace PackageIndex.Metrics

open PackageIndex.Text

/-- What every family's name begins with. -/
def namespaceText : String := "docindex"

def familyName (name : String) : String := namespaceText ++ "_" ++ name

/-- Backslashes, quotes and line feeds of a label are escaped. -/
def labelChar (c : Char) : List Char :=
  if c = '\\' then ['\\', '\\'] else if c = '"' then ['\\', '"']
  else if c = '\n' then ['\\', 'n'] else [c]

def labelText (label : String × String) : String :=
  label.1 ++ "=\"" ++ String.ofList (label.2.toList.flatMap labelChar) ++ "\""

def sample (name : String) (labels : List (String × String)) (value : String) : String :=
  let shown := if labels = [] then ""
    else "\x7b" ++ String.intercalate "," (labels.map labelText) ++ "\x7d"
  familyName name ++ shown ++ " " ++ value

structure Family where
  name : String
  help : String
  kind : String
  /-- The lines of the children, without the comment lines. -/
  samples : List String
  /-- The family is shown even without lines of its own. -/
  always : Bool := false

def Family.lines (f : Family) : List String :=
  if f.samples = [] ∧ !f.always then []
  else
    ("# HELP " ++ familyName f.name ++ " " ++ f.help)
      :: ("# TYPE " ++ familyName f.name ++ " " ++ f.kind) :: f.samples

def counters (name label : String) (t : Table String Nat) : List String :=
  t.rows.map fun (value, n) => sample name [(label, value)] (decimal n)

def counters₂ (name outer inner : String) (t : Table String (Table String Nat)) : List String :=
  t.rows.flatMap fun (first, t) =>
    t.rows.map fun (second, n) => sample name [(outer, first), (inner, second)] (decimal n)

def histogramLines (name : String) (label : String × String) (h : Histogram) : List String :=
  let bucket (bound : String) (n : Nat) :=
    sample (name ++ "_bucket") [label, ("le", bound)] (decimal n)
  (List.zipWith (fun bound n => bucket (Decimal.text bound) n) Histogram.bounds
      (Histogram.cumulative 0 h.counts))
    ++ [ bucket "+Inf" h.count
       , sample (name ++ "_sum") [label] (Decimal.text h.sum)
       , sample (name ++ "_count") [label] (decimal h.count) ]

/-- The families in the order of their names. The memory of the process is given from
outside. -/
def families (m : Metrics) (memory? : Option Nat) : List Family :=
  [ { name := "crawl_outcomes_total", help := "Crawl attempts by outcome", kind := "counter"
      samples := counters₂ "crawl_outcomes_total" "kind" "outcome" m.crawls }
  , { name := "feed_changes_total", help := "Changed projects received from the update feed"
      kind := "counter"
      samples := [sample "feed_changes_total" [] (Decimal.text m.feedChanges)] }
  , { name := "job_duration_seconds", help := "Background job run duration in seconds"
      kind := "histogram"
      samples := m.durations.rows.flatMap fun (jobId, h) =>
        histogramLines "job_duration_seconds" ("job_id", jobId) h }
  , { name := "job_running", help := "Whether a background job is running", kind := "gauge"
      samples := m.running.rows.map fun (jobId, running) =>
        sample "job_running" [("job_id", jobId)] (if running then "1" else "0") }
  , { name := "job_runs_total", help := "Total background job runs", kind := "counter"
      samples := counters₂ "job_runs_total" "job_id" "status" m.jobRuns }
  , { name := "process_memory_bytes", help := "Process memory usage in bytes", kind := "gauge"
      samples := memory?.toList.map fun n => sample "process_memory_bytes" [] (decimal n)
      always := true }
  , { name := "suppression_verdicts_total", help := "Suppression scoring results"
      kind := "counter"
      samples := counters "suppression_verdicts_total" "verdict" m.verdicts } ]

def lines (m : Metrics) (memory? : Option Nat) : List String :=
  (m.families memory?).flatMap Family.lines

/-- The answer of the service to a request for a path: a status and a body. -/
def answer (m : Metrics) (memory? : Option Nat) (path : String) : Nat × String :=
  if path = "/metrics" then (200, String.join ((m.lines memory?).map (· ++ "\n")))
  else if path = "/health" then (200, "ok")
  else (404, "")

end PackageIndex.Metrics
