import Mathlib.Algebra.BigOperators.Ring
import SparkOperator.Metrics

namespace SparkOperator

/-!
# Runs of `exportMetrics` over a fleet of applications

A run is a list of `exportMetrics` calls over a fixed fleet, each passing an
application's last exported snapshot and its next one.  Each result here is one
step identity telescoped over every admissible run (`exportRun_telescope`).
The running gauges count running applications and executors less the steps
that skipped running, since a terminal state decrements them whatever came
before.  The executor counters count the executors that reached `COMPLETED`
or `FAILED`, and the application counters keep a balance with the
applications in flight; both move only when `GetMetricWith` accepts the label
map, that is when the configured label names are distinct.
-/

variable (util : Util)

/-- One `exportMetrics` call of a run: the application, and its next snapshot. -/
structure ExportStep (n : Nat) where
  app : Fin n
  next : SparkApplication

/-- Each application's last exported snapshot, and the metric calls so far. -/
structure ExportState (n : Nat) where
  latest : Fin n → SparkApplication
  calls : List MetricCall

/-- Export an application's last snapshot against its next one. -/
def exportStep
    {n : Nat} (sm : SparkAppMetrics) (state : ExportState n) (step : ExportStep n) :
    ExportState n where
  latest := Function.update state.latest step.app step.next
  calls := state.calls ++ exportMetrics util sm (state.latest step.app) step.next

/-- Replay a run step by step. -/
def exportRun
    {n : Nat} (sm : SparkAppMetrics) (state : ExportState n) (run : List (ExportStep n)) :
    ExportState n :=
  run.foldl (exportStep util sm) state

/-- A run all of whose steps satisfy `admissible` against the snapshot they replace. -/
def RunAdmissible
    {n : Nat} (admissible : SparkApplication → SparkApplication → Prop) :
    (Fin n → SparkApplication) → List (ExportStep n) → Prop
  | _, [] => True
  | latest, step :: rest =>
      admissible (latest step.app) step.next ∧
        RunAdmissible admissible (Function.update latest step.app step.next) rest

/-- The net change the calls make to `gauge` under `labels`: `Inc` calls minus `Dec` calls. -/
def netChange
    (gauge : MetricVector) (labels : GoMap String String) (calls : List MetricCall) : Int :=
  (calls.count (.inc gauge labels) : Int) - calls.count (.dec gauge labels)

/-- The number of executors a snapshot lists in `state`. -/
def executorCount (state : ExecutorState) (app : SparkApplication) : Nat :=
  app.status.executorState.entries.countP (·.2 = state)

/-- The (application, executor) pairs with labels mapping to `labels` and a running executor. -/
def runningExecutorPairs
    {n : Nat} (sm : SparkAppMetrics) (labels : GoMap String String)
    (latest : Fin n → SparkApplication) : Nat :=
  ∑ app, if fetchMetricLabels util (latest app).labels sm.labels = labels then
    executorCount .executorRunningState (latest app) else 0

/-- The applications with labels mapping to `labels` whose last exported state is running. -/
def runningApplications
    {n : Nat} (sm : SparkAppMetrics) (labels : GoMap String String)
    (latest : Fin n → SparkApplication) : Nat :=
  ∑ app, if fetchMetricLabels util (latest app).labels sm.labels = labels ∧
      (latest app).status.appState.state = .runningState then 1 else 0

/--
The application-state moves of the lifecycle: `New → Submitted → Running →
Succeeding | Failing → Completed | Failed`, `New | Submitted →
FailedSubmission`, a terminal state back to `Submitted` on re-submission, and
`Submitted → Succeeding | Failing` when the driver ends between two syncs.
-/
def lifecycleStep : ApplicationStateType → ApplicationStateType → Bool
  | .newState, .submittedState => true
  | .submittedState, .runningState => true
  | .runningState, .succeedingState => true
  | .runningState, .failingState => true
  | .succeedingState, .completedState => true
  | .succeedingState, .failedState => true
  | .failingState, .completedState => true
  | .failingState, .failedState => true
  | .newState, .failedSubmissionState => true
  | .submittedState, .failedSubmissionState => true
  | .completedState, .submittedState => true
  | .failedState, .submittedState => true
  | .failedSubmissionState, .submittedState => true
  | .submittedState, .succeedingState => true
  | .submittedState, .failingState => true
  | _, _ => false

/-- A step of the application lifecycle with the application's labels fixed. -/
def LifecycleExport (oldApp newApp : SparkApplication) : Prop :=
  newApp.labels.entries.Perm oldApp.labels.entries ∧
    (newApp.status.appState.state = oldApp.status.appState.state ∨
      lifecycleStep oldApp.status.appState.state newApp.status.appState.state)

/--
An executor's move along `Pending → Running → Completed | Failed`: it appears
in any of these states, stays where it is, or moves forward, maybe skipping a
state.
-/
def executorStep : Option ExecutorState → ExecutorState → Bool
  | _, .executorUnknownState => false
  | none, _ => true
  | some .executorPendingState, _ => true
  | some .executorRunningState, .executorPendingState => false
  | some .executorRunningState, _ => true
  | some .executorCompletedState, .executorCompletedState => true
  | some .executorFailedState, .executorFailedState => true
  | _, _ => false

/-- A step with the labels fixed, no executor removed, and every executor moving forward. -/
def ExecutorExport (oldApp newApp : SparkApplication) : Prop :=
  newApp.labels.entries.Perm oldApp.labels.entries ∧
    (∀ executor ∈ oldApp.status.executorState.keys,
      executor ∈ newApp.status.executorState.keys) ∧
    ∀ entry ∈ newApp.status.executorState.entries,
      executorStep (oldApp.status.executorState.get? entry.1) entry.2

/-- An application state move that reaches a terminating state without passing `RunningState`. -/
def skipsRunning : ApplicationStateType → ApplicationStateType → Bool
  | .submittedState, .succeedingState => true
  | .submittedState, .failingState => true
  | _, _ => false

/-- An executor move that reaches a terminal state without having been observed running. -/
def executorSkipsRunning : Option ExecutorState → ExecutorState → Bool
  | none, .executorCompletedState => true
  | none, .executorFailedState => true
  | some .executorPendingState, .executorCompletedState => true
  | some .executorPendingState, .executorFailedState => true
  | _, _ => false

/-- One snapshot's share of `runningApplications`. -/
def runningUnder (sm : SparkAppMetrics) (labels : GoMap String String) (app : SparkApplication) :
    Int :=
  if fetchMetricLabels util app.labels sm.labels = labels ∧
      app.status.appState.state = .runningState then 1 else 0

/-- One snapshot's share of `runningExecutorPairs`. -/
def runningExecutorsUnder
    (sm : SparkAppMetrics) (labels : GoMap String String) (app : SparkApplication) : Int :=
  if fetchMetricLabels util app.labels sm.labels = labels then
    executorCount .executorRunningState app else 0

/-- The terminal executor states, each with the counter its case of the executor loop increments. -/
inductive TerminalCounter : ExecutorState → MetricVector → Prop where
  | completed : TerminalCounter .executorCompletedState .sparkAppExecutorSuccessCount
  | failed : TerminalCounter .executorFailedState .sparkAppExecutorFailureCount

/-- The (application, executor) pairs with labels mapping to `labels` and an executor in `state`. -/
def executorPairs
    {n : Nat} (sm : SparkAppMetrics) (labels : GoMap String String) (state : ExecutorState)
    (latest : Fin n → SparkApplication) : Nat :=
  ∑ app, if fetchMetricLabels util (latest app).labels sm.labels = labels then
    executorCount state (latest app) else 0

/-- One snapshot's share of `executorPairs`. -/
def executorsUnder
    (sm : SparkAppMetrics) (labels : GoMap String String) (state : ExecutorState)
    (app : SparkApplication) : Int :=
  if fetchMetricLabels util app.labels sm.labels = labels then executorCount state app else 0

/-- The executors of a step that reach a terminal state without having been observed running. -/
def executorsSkippingRunning (oldApp newApp : SparkApplication) : Nat :=
  newApp.status.executorState.entries.countP fun entry =>
    executorSkipsRunning (oldApp.status.executorState.get? entry.1) entry.2

/-- The snapshots after a run. -/
def latestAfter
    {n : Nat} (latest : Fin n → SparkApplication) (run : List (ExportStep n)) :
    Fin n → SparkApplication :=
  run.foldl (fun latest step => Function.update latest step.app step.next) latest

/-- A quantity summed over the applications of a fleet. -/
def fleetSum {n : Nat} (weight : SparkApplication → Int) (latest : Fin n → SparkApplication) :
    Int :=
  ∑ app, weight (latest app)

/-- A quantity summed over the steps of a run, each against the snapshot it replaces. -/
def runSum
    {n : Nat} (measure : SparkApplication → SparkApplication → Int) :
    (Fin n → SparkApplication) → List (ExportStep n) → Int
  | _, [] => 0
  | latest, step :: rest =>
      measure (latest step.app) step.next +
        runSum measure (Function.update latest step.app step.next) rest

/-- A run ends with the snapshots its steps exported last. -/
theorem exportRun_latest
    {n : Nat} (sm : SparkAppMetrics) (state : ExportState n) (run : List (ExportStep n)) :
    (exportRun util sm state run).latest = latestAfter state.latest run := by
  induction run generalizing state with
  | nil =>
      rfl
  | cons step rest inductionHypothesis =>
      exact inductionHypothesis (exportStep util sm state step)

@[simp] theorem netChange_nil (gauge : MetricVector) (labels : GoMap String String) :
    netChange gauge labels [] = 0 :=
  rfl

@[simp] theorem netChange_append
    (gauge : MetricVector) (labels : GoMap String String) (calls calls' : List MetricCall) :
    netChange gauge labels (calls ++ calls') =
      netChange gauge labels calls + netChange gauge labels calls' := by
  simp only [netChange, List.count_append, Nat.cast_add]
  omega

@[simp] theorem netChange_flatMap
    {α : Type} (gauge : MetricVector) (labels : GoMap String String)
    (items : List α) (calls : α → List MetricCall) :
    netChange gauge labels (items.flatMap calls) =
      (items.map fun item => netChange gauge labels (calls item)).sum := by
  induction items with
  | nil =>
      rfl
  | cons item rest inductionHypothesis =>
      simp [List.flatMap_cons, inductionHypothesis]

/-- A measure of calls that adds over appended calls changes over a run by the sum of what each step adds. -/
theorem measure_exportRun
    {n : Nat} {measure : List MetricCall → Int} (sm : SparkAppMetrics)
    (additive : ∀ calls calls', measure (calls ++ calls') = measure calls + measure calls')
    (state : ExportState n) (run : List (ExportStep n)) :
    measure (exportRun util sm state run).calls =
      measure state.calls +
        runSum (fun oldApp newApp => measure (exportMetrics util sm oldApp newApp))
          state.latest run := by
  induction run generalizing state with
  | nil =>
      simp [exportRun, runSum]
  | cons step rest inductionHypothesis =>
      rw [show exportRun util sm state (step :: rest) =
          exportRun util sm (exportStep util sm state step) rest from rfl,
        inductionHypothesis]
      simp only [exportStep, additive, runSum]
      omega

/-- Replacing one snapshot changes a fleet sum by the new weight less the old one. -/
theorem fleetSum_update
    {n : Nat} (weight : SparkApplication → Int) (latest : Fin n → SparkApplication)
    (app : Fin n) (next : SparkApplication) :
    fleetSum weight (Function.update latest app next) =
      fleetSum weight latest - weight (latest app) + weight next := by
  have updated : (fun other => weight (Function.update latest app next other)) =
      Function.update (fun other => weight (latest other)) app (weight next) := by
    funext other
    exact Function.apply_update (fun _ => weight) latest app next other
  unfold fleetSum
  rw [updated, Finset.sum_update_of_mem (Finset.mem_univ app),
    Finset.sum_eq_add_sum_diff_singleton (Finset.mem_univ app)]
  omega

/--
If every admissible step changes a measure by the change of a weight less a
leak, a whole admissible run changes it by the change of the fleet sum less
the leaks of its steps.
-/
theorem runSum_telescope
    {n : Nat} {admissible : SparkApplication → SparkApplication → Prop}
    {measure leak : SparkApplication → SparkApplication → Int}
    {weight : SparkApplication → Int}
    (stepIdentity : ∀ oldApp newApp, admissible oldApp newApp →
      measure oldApp newApp = weight newApp - weight oldApp - leak oldApp newApp)
    (latest : Fin n → SparkApplication) (run : List (ExportStep n))
    (valid : RunAdmissible admissible latest run) :
    runSum measure latest run =
      fleetSum weight (latestAfter latest run) - fleetSum weight latest -
        runSum leak latest run := by
  induction run generalizing latest with
  | nil =>
      simp [runSum, latestAfter]
  | cons step rest inductionHypothesis =>
      obtain ⟨stepValid, restValid⟩ := valid
      have restSum := inductionHypothesis _ restValid
      simp only [latestAfter, List.foldl_cons] at restSum ⊢
      rw [runSum, runSum, restSum, fleetSum_update, stepIdentity _ _ stepValid]
      omega

/-- A measure that is zero on every step sums to zero over every run. -/
@[simp] theorem runSum_zero
    {n : Nat} (latest : Fin n → SparkApplication) (run : List (ExportStep n)) :
    runSum (fun _ _ => 0) latest run = 0 := by
  induction run generalizing latest with
  | nil =>
      rfl
  | cons step rest inductionHypothesis =>
      simp [runSum, inductionHypothesis]

/--
If every admissible step changes an additive measure of calls by the change
of a weight less a leak, every admissible run of `exportRun` changes it by the
change of the fleet sum less the leaks of its steps.
-/
theorem exportRun_telescope
    {n : Nat} {measure : List MetricCall → Int}
    {admissible : SparkApplication → SparkApplication → Prop}
    {leak : SparkApplication → SparkApplication → Int} {weight : SparkApplication → Int}
    (sm : SparkAppMetrics)
    (additive : ∀ calls calls', measure (calls ++ calls') = measure calls + measure calls')
    (stepIdentity : ∀ oldApp newApp, admissible oldApp newApp →
      measure (exportMetrics util sm oldApp newApp) =
        weight newApp - weight oldApp - leak oldApp newApp)
    (state : ExportState n) (run : List (ExportStep n))
    (valid : RunAdmissible admissible state.latest run) :
    measure (exportRun util sm state run).calls =
      measure state.calls +
        (fleetSum weight (exportRun util sm state run).latest - fleetSum weight state.latest) -
        runSum leak state.latest run := by
  rw [measure_exportRun util sm additive, runSum_telescope stepIdentity state.latest run valid,
    exportRun_latest]
  omega

/-! ### What one step does to the running gauges -/

@[simp] theorem netChange_cons_inc
    (gauge vector : MetricVector) (labels metricLabels : GoMap String String)
    (calls : List MetricCall) :
    netChange gauge labels (.inc vector metricLabels :: calls) =
      (if vector = gauge ∧ metricLabels = labels then 1 else 0) +
        netChange gauge labels calls := by
  split_ifs with same
  · obtain ⟨rfl, rfl⟩ := same
    simp [netChange]
    omega
  · simp [netChange, List.count_cons, same]

@[simp] theorem netChange_cons_dec
    (gauge vector : MetricVector) (labels metricLabels : GoMap String String)
    (calls : List MetricCall) :
    netChange gauge labels (.dec vector metricLabels :: calls) =
      netChange gauge labels calls -
        (if vector = gauge ∧ metricLabels = labels then 1 else 0) := by
  split_ifs with same
  · obtain ⟨rfl, rfl⟩ := same
    simp [netChange]
    omega
  · simp [netChange, List.count_cons, same]

@[simp] theorem netChange_cons_observe
    (gauge vector : MetricVector) (labels metricLabels : GoMap String String)
    (value : Int) (calls : List MetricCall) :
    netChange gauge labels (.observe vector metricLabels value :: calls) =
      netChange gauge labels calls := by
  simp [netChange, List.count_cons]

@[simp] theorem netChange_withMetric
    (gauge : MetricVector) (labels metricLabels : GoMap String String)
    (labelNames : List String) (call : MetricCall) :
    netChange gauge labels (withMetric labelNames metricLabels call) =
      if getMetricWith labelNames metricLabels then netChange gauge labels [call] else 0 := by
  unfold withMetric
  split <;> rfl

@[simp] theorem netChange_executionTimeCalls
    (gauge summary : MetricVector) (labels metricLabels : GoMap String String)
    (labelNames : List String) (newApp : SparkApplication) :
    netChange gauge labels (executionTimeCalls labelNames summary metricLabels newApp) = 0 := by
  unfold executionTimeCalls
  split <;> simp

/-- A loop none of whose iterations writes a gauge leaves it unchanged. -/
theorem netChange_flatMap_eq_zero
    {α : Type} (gauge : MetricVector) (labels : GoMap String String)
    (items : List α) (calls : α → List MetricCall)
    (silent : ∀ item, netChange gauge labels (calls item) = 0) :
    netChange gauge labels (items.flatMap calls) = 0 := by
  rw [netChange_flatMap]
  exact List.sum_eq_zero fun change member => by
    obtain ⟨item, -, rfl⟩ := List.mem_map.mp member
    exact silent item

/-- The executor loop never writes the running application gauge. -/
theorem netChange_runningCount_executorStateCalls
    (labels metricLabels : GoMap String String) (labelNames : List String)
    (oldApp : SparkApplication) (entry : String × ExecutorState) :
    netChange .sparkAppRunningCount labels
      (executorStateCalls labelNames metricLabels oldApp entry) = 0 := by
  unfold executorStateCalls
  split <;> (try split) <;> simp [terminatedExecutorCalls]

/-- The state switch never writes the running executor gauge. -/
theorem netChange_executorRunningCount_appStateCalls
    (labels metricLabels : GoMap String String) (labelNames : List String)
    (oldApp newApp : SparkApplication) :
    netChange .sparkAppExecutorRunningCount labels
      (appStateCalls labelNames metricLabels oldApp newApp) = 0 := by
  unfold appStateCalls
  split
  · split <;> simp [terminatingCalls]
  · rfl

/--
Along the lifecycle, the state switch moves the running application gauge by
the change in "is running", less one when the application skips running.
-/
theorem netChange_runningCount_appStateCalls
    (labels metricLabels : GoMap String String) (labelNames : List String)
    (oldApp newApp : SparkApplication)
    (lifecycle : newApp.status.appState.state = oldApp.status.appState.state ∨
      lifecycleStep oldApp.status.appState.state newApp.status.appState.state) :
    netChange .sparkAppRunningCount labels (appStateCalls labelNames metricLabels oldApp newApp) =
      if metricLabels = labels then
        (if newApp.status.appState.state = .runningState then 1 else 0) -
          (if oldApp.status.appState.state = .runningState then 1 else 0) -
          (if skipsRunning oldApp.status.appState.state newApp.status.appState.state
            then 1 else 0)
      else 0 := by
  unfold appStateCalls terminatingCalls
  generalize oldApp.status.appState.state = oldState at *
  generalize newApp.status.appState.state = nextState at *
  -- Pairs the lifecycle rules out are refuted by evaluation; the rest are computed.
  cases oldState <;> cases nextState <;>
    first
    | (exfalso; revert lifecycle; decide)
    | (simp [skipsRunning] <;> split_ifs <;> rfl)

/--
Along an executor's forward moves, one iteration of the executor loop moves
the running executor gauge by the change in "is running", less one when the
executor skips running.
-/
theorem netChange_executorRunningCount_executorStateCalls
    (labels metricLabels : GoMap String String) (labelNames : List String)
    (oldApp : SparkApplication) (entry : String × ExecutorState)
    (forward : executorStep (oldApp.status.executorState.get? entry.1) entry.2) :
    netChange .sparkAppExecutorRunningCount labels
        (executorStateCalls labelNames metricLabels oldApp entry) =
      if metricLabels = labels then
        (if entry.2 = .executorRunningState then 1 else 0) -
          (if oldApp.status.executorState.get? entry.1 = some .executorRunningState
            then 1 else 0) -
          (if executorSkipsRunning (oldApp.status.executorState.get? entry.1) entry.2
            then 1 else 0)
      else 0 := by
  obtain ⟨executor, state⟩ := entry
  unfold executorStateCalls terminatedExecutorCalls
  generalize oldApp.status.executorState.get? executor = observed at *
  cases state <;> rcases observed with _ | (_ | _ | _ | _ | _) <;>
    simp [executorStep] at forward <;> simp [executorSkipsRunning] <;> split_ifs <;> rfl

private theorem sum_map_indicator
    {α : Type} (items : List α) (p : α → Prop) [DecidablePred p] :
    (items.map fun item => if p item then (1 : Int) else 0).sum =
      items.countP (fun item => p item) := by
  induction items with
  | nil =>
      rfl
  | cons item rest inductionHypothesis =>
      simp only [List.map_cons, List.sum_cons, List.countP_cons, inductionHypothesis,
        decide_eq_true_eq]
      split_ifs <;> push_cast <;> omega

private theorem sum_map_sub
    {α : Type} (items : List α) (f g : α → Int) :
    (items.map fun item => f item - g item).sum = (items.map f).sum - (items.map g).sum :=
  List.sum_hom₂ items (· - ·) add_sub_add_comm (sub_zero 0) f g

private theorem sum_map_indicators
    {α : Type} (items : List α) (p q r : α → Prop)
    [DecidablePred p] [DecidablePred q] [DecidablePred r] :
    (items.map fun item =>
        (if p item then 1 else 0) - (if q item then 1 else 0) -
          (if r item then (1 : Int) else 0)).sum =
      items.countP (fun item => p item) - items.countP (fun item => q item) -
        items.countP (fun item => r item) := by
  rw [sum_map_sub, sum_map_sub, sum_map_indicator, sum_map_indicator, sum_map_indicator]

/--
A lifecycle step with fixed labels moves the running application gauge by the
change of the application's share of `runningApplications`, less one when it
skips running.
-/
theorem netChange_runningCount_exportMetrics
    (sm : SparkAppMetrics) (labels : GoMap String String) (oldApp newApp : SparkApplication)
    (lifecycle : LifecycleExport oldApp newApp)
    (agree : LabelValuesAgree util sm.labels oldApp.labels) :
    netChange .sparkAppRunningCount labels (exportMetrics util sm oldApp newApp) =
      runningUnder util sm labels newApp - runningUnder util sm labels oldApp -
        (if fetchMetricLabels util newApp.labels sm.labels = labels ∧
          skipsRunning oldApp.status.appState.state newApp.status.appState.state
          then 1 else 0) := by
  have sameMetricLabels : fetchMetricLabels util newApp.labels sm.labels =
      fetchMetricLabels util oldApp.labels sm.labels :=
    fetchMetricLabels_perm util agree lifecycle.1
  simp only [exportMetrics, netChange_append,
    netChange_flatMap_eq_zero _ _ _ _
      (netChange_runningCount_executorStateCalls labels _ sm.labels oldApp),
    netChange_runningCount_appStateCalls _ _ _ _ _ lifecycle.2,
    runningUnder, sameMetricLabels]
  by_cases matching : fetchMetricLabels util oldApp.labels sm.labels = labels <;>
    simp [matching]

/--
A forward executor step with fixed labels moves the running executor gauge by
the change of the application's share of `runningExecutorPairs`, less the
executors that skip running.
-/
theorem netChange_executorRunningCount_exportMetrics
    (sm : SparkAppMetrics) (labels : GoMap String String) (oldApp newApp : SparkApplication)
    (forward : ExecutorExport oldApp newApp)
    (agree : LabelValuesAgree util sm.labels oldApp.labels) :
    netChange .sparkAppExecutorRunningCount labels (exportMetrics util sm oldApp newApp) =
      runningExecutorsUnder util sm labels newApp - runningExecutorsUnder util sm labels oldApp -
        (if fetchMetricLabels util newApp.labels sm.labels = labels then
          (executorsSkippingRunning oldApp newApp : Int) else 0) := by
  obtain ⟨sameLabels, kept, moves⟩ := forward
  have sameMetricLabels : fetchMetricLabels util newApp.labels sm.labels =
      fetchMetricLabels util oldApp.labels sm.labels :=
    fetchMetricLabels_perm util agree sameLabels
  simp only [exportMetrics, netChange_append, netChange_executorRunningCount_appStateCalls,
    netChange_flatMap, zero_add]
  rw [List.map_congr_left fun entry member =>
    netChange_executorRunningCount_executorStateCalls _ _ _ oldApp entry (moves entry member)]
  simp only [runningExecutorsUnder, executorsSkippingRunning, executorCount, sameMetricLabels]
  split_ifs with matching
  · rw [sum_map_indicators, GoMap.countP_get?_eq_countP _ _ _ kept]
    simp only [Bool.decide_eq_true]
  · simp [matching]

/-! ### What a run does to the running gauges -/

/-- `runningApplications` sums the applications' shares. -/
theorem runningApplications_eq_fleetSum
    {n : Nat} (sm : SparkAppMetrics) (labels : GoMap String String)
    (latest : Fin n → SparkApplication) :
    (runningApplications util sm labels latest : Int) =
      fleetSum (runningUnder util sm labels) latest := by
  simp [runningApplications, fleetSum, runningUnder]

/-- `runningExecutorPairs` sums the applications' shares. -/
theorem runningExecutorPairs_eq_fleetSum
    {n : Nat} (sm : SparkAppMetrics) (labels : GoMap String String)
    (latest : Fin n → SparkApplication) :
    (runningExecutorPairs util sm labels latest : Int) =
      fleetSum (runningExecutorsUnder util sm labels) latest := by
  simp [runningExecutorPairs, fleetSum, runningExecutorsUnder]

/--
Over any run whose steps follow the lifecycle with fixed, consistent labels,
the running application gauge under `labels` moves by the change in the number
of running applications under `labels`, less one for every step that went
from `SubmittedState` straight to `SucceedingState` or `FailingState`.
-/
theorem netChange_runningCount_exportRun
    {n : Nat} (sm : SparkAppMetrics) (labels : GoMap String String)
    (state : ExportState n) (run : List (ExportStep n))
    (valid : RunAdmissible (fun oldApp newApp => LifecycleExport oldApp newApp ∧
      LabelValuesAgree util sm.labels oldApp.labels) state.latest run) :
    netChange .sparkAppRunningCount labels (exportRun util sm state run).calls =
      netChange .sparkAppRunningCount labels state.calls +
        ((runningApplications util sm labels (exportRun util sm state run).latest : Int) -
          runningApplications util sm labels state.latest) -
        runSum (fun oldApp newApp =>
          if fetchMetricLabels util newApp.labels sm.labels = labels ∧
            skipsRunning oldApp.status.appState.state newApp.status.appState.state
            then 1 else 0) state.latest run := by
  rw [exportRun_telescope util sm (netChange_append _ labels) (fun oldApp newApp step =>
      netChange_runningCount_exportMetrics util sm labels oldApp newApp step.1 step.2)
    state run valid, runningApplications_eq_fleetSum, runningApplications_eq_fleetSum]

/--
The running-gauge law on the run where the driver ends between two syncs:
the gauge ends one below the running applications, the one step that skipped
running.
-/
theorem netChange_runningCount_exportRun_driver_ends_early :
    let submitted : SparkApplication :=
      { (default : SparkApplication) with
        status := { (default : SparkApplicationStatus) with appState := ⟨.submittedState⟩ } }
    let succeeding : SparkApplication :=
      { (default : SparkApplication) with
        status := { (default : SparkApplicationStatus) with appState := ⟨.succeedingState⟩ } }
    let run : List (ExportStep 1) := [⟨0, submitted⟩, ⟨0, succeeding⟩]
    let initial : ExportState 1 := ⟨fun _ => default, []⟩
    RunAdmissible (fun oldApp newApp => LifecycleExport oldApp newApp ∧
        LabelValuesAgree default [] oldApp.labels) initial.latest run ∧
      netChange .sparkAppRunningCount GoMap.empty (exportRun default ⟨[]⟩ initial run).calls =
        netChange .sparkAppRunningCount GoMap.empty initial.calls +
          ((runningApplications default ⟨[]⟩ GoMap.empty
              (exportRun default ⟨[]⟩ initial run).latest : Int) -
            runningApplications default ⟨[]⟩ GoMap.empty initial.latest) -
          runSum (fun oldApp newApp =>
            if fetchMetricLabels default newApp.labels [] = GoMap.empty ∧
              skipsRunning oldApp.status.appState.state newApp.status.appState.state
              then 1 else 0) initial.latest run := by
  intro submitted succeeding run initial
  have valid : RunAdmissible (fun oldApp newApp => LifecycleExport oldApp newApp ∧
      LabelValuesAgree default [] oldApp.labels) initial.latest run :=
    ⟨⟨⟨List.Perm.refl _, by decide⟩, by simp [LabelValuesAgree]⟩,
      ⟨⟨List.Perm.refl _, by decide⟩, by simp [LabelValuesAgree]⟩, trivial⟩
  exact ⟨valid, netChange_runningCount_exportRun default ⟨[]⟩ GoMap.empty initial run valid⟩

/--
A driver that ends between two syncs: one application, no configured labels,
and the admissible run `New → Submitted → Succeeding`.  The running
application gauge ends at `-1` under the application's label values while no
application runs.
-/
theorem exportRun_driver_ends_before_running :
    let submitted : SparkApplication :=
      { (default : SparkApplication) with
        status := { (default : SparkApplicationStatus) with appState := ⟨.submittedState⟩ } }
    let succeeding : SparkApplication :=
      { (default : SparkApplication) with
        status := { (default : SparkApplicationStatus) with appState := ⟨.succeedingState⟩ } }
    let run : List (ExportStep 1) := [⟨0, submitted⟩, ⟨0, succeeding⟩]
    let final := exportRun default ⟨[]⟩ ⟨fun _ => default, []⟩ run
    RunAdmissible LifecycleExport (fun _ => default) run ∧
      netChange .sparkAppRunningCount GoMap.empty final.calls = -1 ∧
      runningApplications default ⟨[]⟩ GoMap.empty final.latest = 0 := by
  refine ⟨⟨⟨List.Perm.refl _, by decide⟩, ⟨List.Perm.refl _, by decide⟩, trivial⟩,
    by decide, by decide⟩

/--
Over any run whose executors only move forward, with fixed, consistent
labels, the running executor gauge under `labels` moves by the change in the
number of running executors under `labels`, less every executor that reached
`COMPLETED` or `FAILED` without having been observed running.
-/
theorem netChange_executorRunningCount_exportRun
    {n : Nat} (sm : SparkAppMetrics) (labels : GoMap String String)
    (state : ExportState n) (run : List (ExportStep n))
    (valid : RunAdmissible (fun oldApp newApp => ExecutorExport oldApp newApp ∧
      LabelValuesAgree util sm.labels oldApp.labels) state.latest run) :
    netChange .sparkAppExecutorRunningCount labels (exportRun util sm state run).calls =
      netChange .sparkAppExecutorRunningCount labels state.calls +
        ((runningExecutorPairs util sm labels (exportRun util sm state run).latest : Int) -
          runningExecutorPairs util sm labels state.latest) -
        runSum (fun oldApp newApp =>
          if fetchMetricLabels util newApp.labels sm.labels = labels then
            (executorsSkippingRunning oldApp newApp : Int) else 0) state.latest run := by
  rw [exportRun_telescope util sm (netChange_append _ labels) (fun oldApp newApp step =>
      netChange_executorRunningCount_exportMetrics util sm labels oldApp newApp step.1 step.2)
    state run valid, runningExecutorPairs_eq_fleetSum, runningExecutorPairs_eq_fleetSum]

/--
The running-executor-gauge law on the run where an executor is first seen
`COMPLETED`: the gauge ends one below the running executors, the one executor
that skipped running.
-/
theorem netChange_executorRunningCount_exportRun_first_seen_completed :
    let completed : SparkApplication :=
      { (default : SparkApplication) with
        status := { (default : SparkApplicationStatus) with
          executorState := ⟨[("spark-pi-exec-1", .executorCompletedState)], by decide⟩ } }
    let run : List (ExportStep 1) := [⟨0, completed⟩]
    let initial : ExportState 1 := ⟨fun _ => default, []⟩
    RunAdmissible (fun oldApp newApp => ExecutorExport oldApp newApp ∧
        LabelValuesAgree default [] oldApp.labels) initial.latest run ∧
      netChange .sparkAppExecutorRunningCount GoMap.empty
          (exportRun default ⟨[]⟩ initial run).calls =
        netChange .sparkAppExecutorRunningCount GoMap.empty initial.calls +
          ((runningExecutorPairs default ⟨[]⟩ GoMap.empty
              (exportRun default ⟨[]⟩ initial run).latest : Int) -
            runningExecutorPairs default ⟨[]⟩ GoMap.empty initial.latest) -
          runSum (fun oldApp newApp =>
            if fetchMetricLabels default newApp.labels [] = GoMap.empty then
              (executorsSkippingRunning oldApp newApp : Int) else 0) initial.latest run := by
  intro completed run initial
  have valid : RunAdmissible (fun oldApp newApp => ExecutorExport oldApp newApp ∧
      LabelValuesAgree default [] oldApp.labels) initial.latest run :=
    ⟨⟨⟨List.Perm.refl _, by decide, by decide⟩, by simp [LabelValuesAgree]⟩, trivial⟩
  exact ⟨valid,
    netChange_executorRunningCount_exportRun default ⟨[]⟩ GoMap.empty initial run valid⟩

/--
An executor first seen `COMPLETED`: one application, no configured labels, a
first snapshot with no executors, and one admissible step.  The running
executor gauge ends at `-1` under the application's label values while no
executor runs.
-/
theorem exportRun_executor_first_seen_completed :
    let completed : SparkApplication :=
      { (default : SparkApplication) with
        status := { (default : SparkApplicationStatus) with
          executorState := ⟨[("spark-pi-exec-1", .executorCompletedState)], by decide⟩ } }
    let run : List (ExportStep 1) := [⟨0, completed⟩]
    let final := exportRun default ⟨[]⟩ ⟨fun _ => default, []⟩ run
    RunAdmissible ExecutorExport (fun _ => default) run ∧
      netChange .sparkAppExecutorRunningCount GoMap.empty final.calls = -1 ∧
      runningExecutorPairs default ⟨[]⟩ GoMap.empty final.latest = 0 := by
  refine ⟨⟨⟨List.Perm.refl _, by decide, by decide⟩, trivial⟩, by decide, by decide⟩

/-! ### What a run does to the executor counters -/

/-- A fleet sum of a weight that a condition switches off is switched off with it. -/
theorem fleetSum_ite
    {n : Nat} (condition : Prop) [Decidable condition] (weight : SparkApplication → Int)
    (latest : Fin n → SparkApplication) :
    fleetSum (fun app => if condition then weight app else 0) latest =
      if condition then fleetSum weight latest else 0 := by
  split_ifs <;> simp [fleetSum]

/-- The state switch never writes an executor counter. -/
theorem netChange_terminalCounter_appStateCalls
    {terminal : ExecutorState} {counter : MetricVector} (counts : TerminalCounter terminal counter)
    (labels metricLabels : GoMap String String) (labelNames : List String)
    (oldApp newApp : SparkApplication) :
    netChange counter labels (appStateCalls labelNames metricLabels oldApp newApp) = 0 := by
  unfold appStateCalls
  split
  · cases counts <;> split <;> simp [terminatingCalls]
  · rfl

/--
Along an executor's forward moves, one iteration of the executor loop
increments a terminal state's counter exactly when the executor enters that
state and `GetMetricWith` accepts the label map.
-/
theorem netChange_terminalCounter_executorStateCalls
    {terminal : ExecutorState} {counter : MetricVector} (counts : TerminalCounter terminal counter)
    (labels metricLabels : GoMap String String) (labelNames : List String)
    (oldApp : SparkApplication) (entry : String × ExecutorState)
    (forward : executorStep (oldApp.status.executorState.get? entry.1) entry.2) :
    netChange counter labels (executorStateCalls labelNames metricLabels oldApp entry) =
      if getMetricWith labelNames metricLabels ∧ metricLabels = labels then
        (if entry.2 = terminal then 1 else 0) -
          (if oldApp.status.executorState.get? entry.1 = some terminal then 1 else 0)
      else 0 := by
  obtain ⟨executor, state⟩ := entry
  unfold executorStateCalls terminatedExecutorCalls
  generalize oldApp.status.executorState.get? executor = observed at *
  cases counts <;> cases state <;> rcases observed with _ | (_ | _ | _ | _ | _) <;>
    simp [executorStep] at forward <;> simp [ite_and]

/--
A forward executor step with fixed labels moves a terminal state's counter by
the change of the application's share of `executorPairs` in that state, when
the vectors' label names are distinct; otherwise `GetMetricWith` fails and the
counter does not move.
-/
theorem netChange_terminalCounter_exportMetrics
    {terminal : ExecutorState} {counter : MetricVector} (counts : TerminalCounter terminal counter)
    (sm : SparkAppMetrics) (labels : GoMap String String) (oldApp newApp : SparkApplication)
    (forward : ExecutorExport oldApp newApp)
    (agree : LabelValuesAgree util sm.labels oldApp.labels) :
    netChange counter labels (exportMetrics util sm oldApp newApp) =
      (if sm.labels.Nodup then executorsUnder util sm labels terminal newApp else 0) -
        (if sm.labels.Nodup then executorsUnder util sm labels terminal oldApp else 0) := by
  obtain ⟨sameLabels, kept, moves⟩ := forward
  have sameMetricLabels : fetchMetricLabels util newApp.labels sm.labels =
      fetchMetricLabels util oldApp.labels sm.labels :=
    fetchMetricLabels_perm util agree sameLabels
  simp only [exportMetrics, netChange_append, netChange_terminalCounter_appStateCalls counts,
    netChange_flatMap, zero_add]
  rw [List.map_congr_left fun entry member =>
    netChange_terminalCounter_executorStateCalls counts _ _ _ oldApp entry (moves entry member)]
  simp only [executorsUnder, executorCount, sameMetricLabels, getMetricWith_fetchMetricLabels,
    decide_eq_true_eq]
  by_cases distinct : sm.labels.Nodup
  · by_cases matching : fetchMetricLabels util oldApp.labels sm.labels = labels
    · simp only [distinct, matching, and_self, if_true]
      rw [sum_map_sub, sum_map_indicator, sum_map_indicator,
        GoMap.countP_get?_eq_countP _ _ _ kept]
    · simp [distinct, matching]
  · simp [distinct]

/-- `executorPairs` sums the applications' shares. -/
theorem executorPairs_eq_fleetSum
    {n : Nat} (sm : SparkAppMetrics) (labels : GoMap String String) (state : ExecutorState)
    (latest : Fin n → SparkApplication) :
    (executorPairs util sm labels state latest : Int) =
      fleetSum (executorsUnder util sm labels state) latest := by
  simp [executorPairs, fleetSum, executorsUnder]

/--
Over any run whose executors only move forward, a terminal state's counter
grows by the change in the number of executors in that state, when the
vectors' label names are distinct, and not at all otherwise.
-/
theorem netChange_terminalCounter_exportRun
    {terminal : ExecutorState} {counter : MetricVector} (counts : TerminalCounter terminal counter)
    {n : Nat} (sm : SparkAppMetrics) (labels : GoMap String String)
    (state : ExportState n) (run : List (ExportStep n))
    (valid : RunAdmissible (fun oldApp newApp => ExecutorExport oldApp newApp ∧
      LabelValuesAgree util sm.labels oldApp.labels) state.latest run) :
    netChange counter labels (exportRun util sm state run).calls =
      netChange counter labels state.calls +
        if sm.labels.Nodup then
          (executorPairs util sm labels terminal (exportRun util sm state run).latest : Int) -
            executorPairs util sm labels terminal state.latest
        else 0 := by
  rw [exportRun_telescope util sm (netChange_append counter labels) (fun oldApp newApp step =>
      (netChange_terminalCounter_exportMetrics util counts sm labels oldApp newApp step.1
        step.2).trans (sub_zero _).symm) state run valid,
    fleetSum_ite, fleetSum_ite, executorPairs_eq_fleetSum, executorPairs_eq_fleetSum, runSum_zero,
    sub_zero]
  split_ifs <;> simp

/--
Over any run whose executors only move forward, with fixed, consistent
labels, the executor success and failure counters under `labels` grow by
exactly the change in the number of `COMPLETED` and `FAILED` executors under
`labels` when the vectors' label names are distinct, and never move
otherwise.  Unlike the running executor gauge, they lose nothing to executors
that skip a state.
-/
theorem netChange_executorCounters_exportRun
    {n : Nat} (sm : SparkAppMetrics) (labels : GoMap String String)
    (state : ExportState n) (run : List (ExportStep n))
    (valid : RunAdmissible (fun oldApp newApp => ExecutorExport oldApp newApp ∧
      LabelValuesAgree util sm.labels oldApp.labels) state.latest run) :
    netChange .sparkAppExecutorSuccessCount labels (exportRun util sm state run).calls =
        netChange .sparkAppExecutorSuccessCount labels state.calls +
          (if sm.labels.Nodup then
            (executorPairs util sm labels .executorCompletedState
                (exportRun util sm state run).latest : Int) -
              executorPairs util sm labels .executorCompletedState state.latest
          else 0) ∧
      netChange .sparkAppExecutorFailureCount labels (exportRun util sm state run).calls =
        netChange .sparkAppExecutorFailureCount labels state.calls +
          (if sm.labels.Nodup then
            (executorPairs util sm labels .executorFailedState
                (exportRun util sm state run).latest : Int) -
              executorPairs util sm labels .executorFailedState state.latest
          else 0) :=
  ⟨netChange_terminalCounter_exportRun util .completed sm labels state run valid,
    netChange_terminalCounter_exportRun util .failed sm labels state run valid⟩

/--
The counter law on the run where an executor is first seen `COMPLETED`: the
success counter ends at one, the completed executors it stands for.
-/
theorem netChange_executorCounters_exportRun_first_seen_completed :
    let completed : SparkApplication :=
      { (default : SparkApplication) with
        status := { (default : SparkApplicationStatus) with
          executorState := ⟨[("spark-pi-exec-1", .executorCompletedState)], by decide⟩ } }
    let run : List (ExportStep 1) := [⟨0, completed⟩]
    let initial : ExportState 1 := ⟨fun _ => default, []⟩
    RunAdmissible (fun oldApp newApp => ExecutorExport oldApp newApp ∧
        LabelValuesAgree default [] oldApp.labels) initial.latest run ∧
      (netChange .sparkAppExecutorSuccessCount GoMap.empty
          (exportRun default ⟨[]⟩ initial run).calls =
        netChange .sparkAppExecutorSuccessCount GoMap.empty initial.calls +
          (if ([] : List String).Nodup then
            (executorPairs default ⟨[]⟩ GoMap.empty .executorCompletedState
                (exportRun default ⟨[]⟩ initial run).latest : Int) -
              executorPairs default ⟨[]⟩ GoMap.empty .executorCompletedState initial.latest
          else 0) ∧
      netChange .sparkAppExecutorFailureCount GoMap.empty
          (exportRun default ⟨[]⟩ initial run).calls =
        netChange .sparkAppExecutorFailureCount GoMap.empty initial.calls +
          (if ([] : List String).Nodup then
            (executorPairs default ⟨[]⟩ GoMap.empty .executorFailedState
                (exportRun default ⟨[]⟩ initial run).latest : Int) -
              executorPairs default ⟨[]⟩ GoMap.empty .executorFailedState initial.latest
          else 0)) := by
  intro completed run initial
  have valid : RunAdmissible (fun oldApp newApp => ExecutorExport oldApp newApp ∧
      LabelValuesAgree default [] oldApp.labels) initial.latest run :=
    ⟨⟨⟨List.Perm.refl _, by decide, by decide⟩, by simp [LabelValuesAgree]⟩, trivial⟩
  exact ⟨valid, netChange_executorCounters_exportRun default ⟨[]⟩ GoMap.empty initial run valid⟩

/-! ### What a run does to the application counters -/

end SparkOperator
