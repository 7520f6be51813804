import RequestKeys.Number.Written

/-!
# The latency histogram

How many observations were at most each of some bounds, their sum and their count, and the text in
which a scraper reads them.
-/

namespace RequestKeys.Metrics

/-- The upper bounds of the buckets, in seconds. -/
def bounds : List Float :=
  [0.00001, 0.000025, 0.00005, 0.0001, 0.00025, 0.0005, 0.001, 0.0025, 0.005, 0.01, 0.025, 0.05,
    0.1]

/-- A histogram: for every bound the number of observations up to it, the sum in the order of
observation, and the count. -/
structure Histogram where
  buckets : List (Float × Nat)
  sum : Float
  count : Nat

namespace Histogram

/-- No observations. -/
def empty : Histogram := ⟨bounds.map fun b => (b, 0), 0.0, 0⟩

/-- One more observation. -/
def observe (h : Histogram) (x : Float) : Histogram :=
  { buckets := h.buckets.map fun (b, n) => (b, if x ≤ b then n + 1 else n)
    sum := h.sum + x
    count := h.count + 1 }

/-- The name of the metric. -/
def metricName : String := "slokey_normalization_duration_seconds"

/-- A double in positional form. -/
def showFloat (x : Float) : String := String.ofList (Number.plain x)

/-- The line of a bucket. -/
def bucketLine (bound : String) (n : Nat) : String :=
  metricName ++ "_bucket\x7ble=\"" ++ bound ++ "\"\x7d " ++ toString n ++ "\n"

/-- The text of a histogram. -/
def exposition (h : Histogram) : String :=
  "# TYPE " ++ metricName ++ " histogram\n" ++
    String.join (h.buckets.map fun (b, n) => bucketLine (showFloat b) n) ++
    bucketLine "+Inf" h.count ++
    metricName ++ "_sum " ++ showFloat h.sum ++ "\n" ++
    metricName ++ "_count " ++ toString h.count ++ "\n\n"

end Histogram

end RequestKeys.Metrics
