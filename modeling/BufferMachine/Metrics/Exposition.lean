import BufferMachine.Metrics.Store

/-!
# The exposition of metrics

The text in which metrics are handed to a collector: for every family a line of help, a line with
its type, and a line for every sample.  Families come in the order of their names, and a family
without series is left out.
-/

namespace BufferMachine.Metrics

abbrev Label := Bytes × Bytes

/-- A byte of a label's value: the backslash, the quotation mark and the line feed are escaped. -/
def escapeLabelByte (b : UInt8) : Bytes :=
  if b = byte '\\' then bytes "\\\\"
  else if b = byte '"' then bytes "\\\""
  else if b = newline then bytes "\\n"
  else [b]

def labelText (l : Label) : Bytes :=
  l.1 ++ bytes "=\"" ++ l.2.flatMap escapeLabelByte ++ bytes "\""

def labelsText (labels : List Label) : Bytes :=
  if labels.isEmpty then []
  else bytes "\x7b" ++ List.intercalate (bytes ",") (labels.map labelText) ++ bytes "\x7d"

def sample (name : Bytes) (labels : List Label) (value : Int) : Bytes :=
  name ++ labelsText labels ++ bytes " " ++ Double.text value ++ [newline]

def heading (name help kind : Bytes) : Bytes :=
  bytes "# HELP " ++ name ++ bytes " " ++ help ++ bytes "\n# TYPE " ++ name ++ bytes " " ++
    kind ++ [newline]

/-- The samples of a histogram: the buckets, the bucket without bound, the sum and the count. -/
def histogramSamples (name : Bytes) (labels : List Label) (h : Histogram) : Bytes :=
  let bucket (bound : Bytes) (total : Nat) :=
    sample (name ++ bytes "_bucket") (labels ++ [(bytes "le", bound)]) total
  (h.cumulative.flatMap fun (bound, total) => bucket (Double.text bound) total) ++
    bucket (bytes "+Inf") h.count ++
    sample (name ++ bytes "_sum") labels h.sum ++
    sample (name ++ bytes "_count") labels h.count

namespace Store

def compilationsName : Bytes := bytes "bufc_compilations"

def stagesName : Bytes := bytes "bufc_stage_ns"

def statementsName : Bytes := bytes "bufc_statements"

def tokensName : Bytes := bytes "bufc_tokens"

def compilationsText (s : Store) : Bytes :=
  heading compilationsName (bytes "The total number of compilation runs, by result")
    (bytes "counter") ++
    s.compilations.flatMap fun (outcome, n) => sample compilationsName [(bytes "result", outcome)] n

def stagesText (s : Store) : Bytes :=
  heading stagesName (bytes "Time spent in each pipeline stage") (bytes "histogram") ++
    s.stages.flatMap fun (stage, h) => histogramSamples stagesName [(bytes "stage", stage)] h

def statementsText (s : Store) : Bytes :=
  heading statementsName (bytes "Number of statements parsed per compilation")
    (bytes "histogram") ++ histogramSamples statementsName [] s.statements

def tokensText (s : Store) : Bytes :=
  heading tokensName (bytes "Number of tokens produced per compilation") (bytes "histogram") ++
    histogramSamples tokensName [] s.tokens

/-- The families with at least one series, by name, each with its text. -/
def families (s : Store) : List (Bytes × Bytes) :=
  (if s.compilations.isEmpty then [] else [(compilationsName, s.compilationsText)]) ++
    (if s.stages.isEmpty then [] else [(stagesName, s.stagesText)]) ++
    [(statementsName, s.statementsText), (tokensName, s.tokensText)]

def exposition (s : Store) : Bytes := s.families.flatMap Prod.snd

end Store

end BufferMachine.Metrics
