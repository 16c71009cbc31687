import SparkOperator.MetricLabels

namespace SparkOperator

/-!
# Exporting metrics

`exportMetrics(oldApp, newApp)` compares two snapshots of one application and
turns what changed into calls on the metric vectors of `sparkAppMetrics`.  The
model records those calls in the order the code makes them.  A counter or a
summary is reached through `GetMetricWith`, whose error is only logged, so its
call is made only when the label map fits the vector.  What a metric does with
a call belongs to the metric library, so a result about the calls holds for
whatever semantics the library has.

The main result of this module: a step whose two snapshots agree on the
application state and on every executor's state makes no call, so inserting it
anywhere in a run changes no metric.
-/

/-- The metric vectors that `exportMetrics` writes to. -/
inductive MetricVector where
  | sparkAppSubmitCount
  | sparkAppSuccessCount
  | sparkAppFailureCount
  | sparkAppFailedSubmissionCount
  | sparkAppRunningCount
  | sparkAppSuccessExecutionTime
  | sparkAppFailureExecutionTime
  | sparkAppExecutorRunningCount
  | sparkAppExecutorFailureCount
  | sparkAppExecutorSuccessCount
  deriving Repr, DecidableEq

/-- One call on a metric vector, with the label values it passes. -/
inductive MetricCall where
  /-- `Inc()` on the metric `GetMetricWith(labels)` returned, or `Inc(labels)` on a `PositiveGauge`. -/
  | inc (vector : MetricVector) (labels : GoMap String String)
  /-- `Dec(labels)` on a `PositiveGauge`. -/
  | dec (vector : MetricVector) (labels : GoMap String String)
  /-- `Observe(value)` on the metric `GetMetricWith(labels)` returned, the value in microseconds. -/
  | observe (vector : MetricVector) (labels : GoMap String String) (value : Int)
  deriving DecidableEq

/--
Modelled from client_golang, outside src/: `GetMetricWith(labels)` on a vector
whose variable labels are `labelNames` fails unless the map has one entry per
name, under each of the names.  Its check that every value is valid UTF-8
passes on every Lean string.
-/
def getMetricWith (labelNames : List String) (labels : GoMap String String) : Bool :=
  labels.keys.length == labelNames.length && labelNames.all fun name => name ∈ labels.keys

/--
`if m, err := vec.GetMetricWith(metricLabels); err != nil { logger.Error(...) } else { ... }`:
the call on `m` is made only when `GetMetricWith` succeeds.
-/
def withMetric (labelNames : List String) (metricLabels : GoMap String String)
    (call : MetricCall) : List MetricCall :=
  if getMetricWith labelNames metricLabels then [call] else []

variable (util : Util)

/--
The execution-time observation of the `SucceedingState` and `FailingState`
cases, in whole microseconds; the code converts them to a `float64`, which
rounds counts above 2^53, and no result here reads the observed value.
-/
def executionTimeCalls
    (labelNames : List String) (summary : MetricVector) (metricLabels : GoMap String String)
    (newApp : SparkApplication) : List MetricCall :=
  if !newApp.status.lastSubmissionAttemptTime.isZero &&
      !newApp.status.terminationTime.isZero then
    withMetric labelNames metricLabels (.observe summary metricLabels
      ((newApp.status.terminationTime.sub
        newApp.status.lastSubmissionAttemptTime).tdiv 1000))
  else
    []

/-- The `SucceedingState` and `FailingState` cases; they differ only in the vectors they write. -/
def terminatingCalls
    (labelNames : List String) (summary counter : MetricVector)
    (metricLabels : GoMap String String) (newApp : SparkApplication) : List MetricCall :=
  executionTimeCalls labelNames summary metricLabels newApp ++
    .dec .sparkAppRunningCount metricLabels ::
      withMetric labelNames metricLabels (.inc counter metricLabels)

/-- The switch on the new application state in `exportMetrics`. -/
def appStateCalls
    (labelNames : List String) (metricLabels : GoMap String String)
    (oldApp newApp : SparkApplication) : List MetricCall :=
  if newApp.status.appState.state ≠ oldApp.status.appState.state then
    match newApp.status.appState.state with
    | .submittedState =>
        withMetric labelNames metricLabels (.inc .sparkAppSubmitCount metricLabels)
    | .runningState =>
        [.inc .sparkAppRunningCount metricLabels]
    | .succeedingState =>
        terminatingCalls labelNames .sparkAppSuccessExecutionTime .sparkAppSuccessCount
          metricLabels newApp
    | .failingState =>
        terminatingCalls labelNames .sparkAppFailureExecutionTime .sparkAppFailureCount
          metricLabels newApp
    | .failedSubmissionState =>
        withMetric labelNames metricLabels (.inc .sparkAppFailedSubmissionCount metricLabels)
    | _ =>
        []
  else
    []

/-- The `ExecutorCompletedState` and `ExecutorFailedState` cases; they differ only in their counter. -/
def terminatedExecutorCalls
    (labelNames : List String) (counter : MetricVector) (metricLabels : GoMap String String) :
    List MetricCall :=
  .dec .sparkAppExecutorRunningCount metricLabels ::
    withMetric labelNames metricLabels (.inc counter metricLabels)

/-- One iteration of the executor loop of `exportMetrics`. -/
def executorStateCalls
    (labelNames : List String) (metricLabels : GoMap String String) (oldApp : SparkApplication)
    (entry : String × ExecutorState) : List MetricCall :=
  match entry.2 with
  | .executorRunningState =>
      if oldApp.status.executorState.get? entry.1 ≠ some entry.2 then
        [.inc .sparkAppExecutorRunningCount metricLabels]
      else
        []
  | .executorCompletedState =>
      if oldApp.status.executorState.get? entry.1 ≠ some entry.2 then
        terminatedExecutorCalls labelNames .sparkAppExecutorSuccessCount metricLabels
      else
        []
  | .executorFailedState =>
      if oldApp.status.executorState.get? entry.1 ≠ some entry.2 then
        terminatedExecutorCalls labelNames .sparkAppExecutorFailureCount metricLabels
      else
        []
  | _ =>
      []

/-- `sm.exportMetrics(oldApp, newApp)`: its metric calls, in order. -/
def exportMetrics
    (sm : SparkAppMetrics) (oldApp newApp : SparkApplication) : List MetricCall :=
  appStateCalls sm.labels (fetchMetricLabels util newApp.labels sm.labels) oldApp newApp ++
    newApp.status.executorState.entries.flatMap
      (executorStateCalls sm.labels (fetchMetricLabels util newApp.labels sm.labels) oldApp)

/--
`GetMetricWith` accepts the label map of `fetchMetricLabels` exactly when the
vector's label names are distinct: repeated names leave the map short.
-/
theorem getMetricWith_fetchMetricLabels (specLabels : GoMap String String) (labels : List String) :
    getMetricWith labels (fetchMetricLabels util specLabels labels) = decide labels.Nodup := by
  have keys := keys_fetchMetricLabels_perm util specLabels labels
  have keyed : (labels.all fun name => name ∈ (fetchMetricLabels util specLabels labels).keys) =
      true := by
    simp [keys.mem_iff]
  rw [getMetricWith, keyed, Bool.and_true, keys.length_eq, beq_eq_decide,
    decide_eq_decide.mpr ((List.dedup_sublist labels).length_eq.trans List.dedup_eq_self)]

/-- The calls of a run of `exportMetrics`, one step per pair of snapshots. -/
def runCalls
    (sm : SparkAppMetrics) (run : List (SparkApplication × SparkApplication)) :
    List MetricCall :=
  run.flatMap fun step => exportMetrics util sm step.1 step.2

/-- An unchanged application state makes no call. -/
theorem appStateCalls_of_state_eq
    {labelNames : List String} {metricLabels : GoMap String String}
    {oldApp newApp : SparkApplication}
    (sameState : oldApp.status.appState.state = newApp.status.appState.state) :
    appStateCalls labelNames metricLabels oldApp newApp = [] := by
  simp [appStateCalls, sameState]

/-- An executor whose state was already observed makes no call. -/
theorem executorStateCalls_of_get?_eq
    {labelNames : List String} {metricLabels : GoMap String String} {oldApp : SparkApplication}
    {entry : String × ExecutorState}
    (seen : oldApp.status.executorState.get? entry.1 = some entry.2) :
    executorStateCalls labelNames metricLabels oldApp entry = [] := by
  unfold executorStateCalls
  split <;> simp [seen]

/-- A step whose snapshots agree on every state the code compares makes no call. -/
theorem exportMetrics_of_unchanged
    (sm : SparkAppMetrics) {oldApp newApp : SparkApplication}
    (sameState : oldApp.status.appState.state = newApp.status.appState.state)
    (sameExecutors : ∀ executor,
      oldApp.status.executorState.get? executor =
        newApp.status.executorState.get? executor) :
    exportMetrics util sm oldApp newApp = [] := by
  simp only [exportMetrics, appStateCalls_of_state_eq sameState, List.nil_append,
    List.flatMap_eq_nil_iff]
  intro entry member
  refine executorStateCalls_of_get?_eq ?_
  rw [sameExecutors]
  exact (GoMap.lookup_eq_some_iff_mem newApp.status.executorState.nodupKeys).mpr member

/-- Inserting a step that makes no call leaves the calls of a run as they were. -/
theorem runCalls_insert_of_exportMetrics_eq_nil
    (sm : SparkAppMetrics) (before after : List (SparkApplication × SparkApplication))
    {step : SparkApplication × SparkApplication}
    (silent : exportMetrics util sm step.1 step.2 = []) :
    runCalls util sm (before ++ step :: after) = runCalls util sm (before ++ after) := by
  simp [runCalls, List.flatMap_append, silent]

/--
Re-delivering a snapshot whose application state and executor states are
unchanged is a no-op: inserted anywhere in a run, the step leaves the final
state of every metric as it was, whatever the metric library does with a
call.  Every call a step makes therefore answers an observed change.
-/
theorem exportMetrics_redelivery_no_op
    (sm : SparkAppMetrics)
    (before after : List (SparkApplication × SparkApplication))
    (oldApp newApp : SparkApplication)
    (sameState : oldApp.status.appState.state = newApp.status.appState.state)
    (sameExecutors : ∀ executor,
      oldApp.status.executorState.get? executor =
        newApp.status.executorState.get? executor)
    {Metrics : Type} (record : Metrics → MetricCall → Metrics) (metrics : Metrics) :
    (runCalls util sm (before ++ (oldApp, newApp) :: after)).foldl record metrics =
        (runCalls util sm (before ++ after)).foldl record metrics ∧
      ∀ previous next : SparkApplication,
        exportMetrics util sm previous next ≠ [] →
          previous.status.appState.state ≠ next.status.appState.state ∨
            ∃ executor, previous.status.executorState.get? executor ≠
              next.status.executorState.get? executor := by
  refine ⟨by rw [runCalls_insert_of_exportMetrics_eq_nil util sm before after
    (exportMetrics_of_unchanged util sm sameState sameExecutors)], ?_⟩
  intro previous next calls
  by_contra unchanged
  simp only [not_or, not_exists, not_not] at unchanged
  exact calls (exportMetrics_of_unchanged util sm unchanged.1 unchanged.2)

/--
A running application with a running executor, re-delivered between its
submission and its success: the run makes the same calls, in the same order,
with or without the re-delivery.
-/
theorem exportMetrics_redelivery_no_op_running_executor :
    let submitted : SparkApplication :=
      { (default : SparkApplication) with
        status := { (default : SparkApplicationStatus) with appState := ⟨.submittedState⟩ } }
    let running : SparkApplication :=
      { (default : SparkApplication) with
        status := { (default : SparkApplicationStatus) with
          appState := ⟨.runningState⟩
          executorState := ⟨[("spark-pi-exec-1", .executorRunningState)], by decide⟩ } }
    let succeeding : SparkApplication :=
      { (default : SparkApplication) with
        status := { (default : SparkApplicationStatus) with
          appState := ⟨.succeedingState⟩
          executorState := ⟨[("spark-pi-exec-1", .executorCompletedState)], by decide⟩ } }
    let before := [(default, submitted), (submitted, running)]
    let after := [(running, succeeding)]
    running.status.appState.state = running.status.appState.state ∧
      (∀ executor, running.status.executorState.get? executor =
        running.status.executorState.get? executor) ∧
      ((runCalls default ⟨[]⟩ (before ++ (running, running) :: after)).foldl
            (fun calls call => calls ++ [call]) [] =
          (runCalls default ⟨[]⟩ (before ++ after)).foldl (fun calls call => calls ++ [call]) [] ∧
        ∀ previous next : SparkApplication,
          exportMetrics default ⟨[]⟩ previous next ≠ [] →
            previous.status.appState.state ≠ next.status.appState.state ∨
              ∃ executor, previous.status.executorState.get? executor ≠
                next.status.executorState.get? executor) := by
  intro submitted running succeeding before after
  exact ⟨rfl, fun _ => rfl, exportMetrics_redelivery_no_op default ⟨[]⟩ before after running
    running rfl (fun _ => rfl) (fun calls call => calls ++ [call]) []⟩

end SparkOperator
