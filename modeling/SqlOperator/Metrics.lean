import SqlOperator.Reconcile

/-!
# Metrics

The requeue counters in the text format of monitoring systems: for each counter
a line with its description, one with its type, and one with its value.
-/

namespace SqlOperator.Metrics

/-- The name of the counter for one kind of sources. -/
def counterName : Source → String
  | .certificate => "sqlsslcert_requeues"
  | .sqlInstance => "sqlinstance_requeues"
  | .user => "sqluser_requeues"

/-- The lines of one counter. -/
def counterLines (s : Source) (value : Nat) : List String :=
  let name := counterName s
  ["# HELP " ++ name ++ " Number of requeues for " ++ s.kind.name,
    "# TYPE " ++ name ++ " counter", name ++ " " ++ toString value]

/-- The lines of all counters in ascending order. -/
def sortedLines (q : Requeues) : List String :=
  (Source.all.flatMap fun s => counterLines s (q.get s)).mergeSort fun a b =>
    (compare a b).isLE

end SqlOperator.Metrics
