import SparkOperator.Go

namespace SparkOperator

/-!
# Resources read by the controller and the webhook

The parts of the `v1beta2` custom resource and of the core `Pod` that the
modelled code reads, and the constants and helpers of `pkg/config` and
`pkg/util` that it calls.  Those two packages lie outside the excerpt, so
their label keys and pod predicates enter the model as the parameters
`Config` and `Util`: every result holds whatever values they have.

The `Inhabited` instances are Go's zero values, such as `SparkApplication{}`.
-/

/-- `metav1.Time`, as signed nanoseconds since Go's zero instant. -/
structure Time where
  sinceZero : Int
  deriving Repr, DecidableEq, Inhabited

namespace Time

/-- `Time.IsZero`. -/
def isZero (t : Time) : Bool :=
  t.sinceZero == 0

/-- `t.Sub(u)`: a `time.Duration` in nanoseconds, saturated at the `int64` bounds. -/
def sub (t u : Time) : Int :=
  max (-9223372036854775808) (min 9223372036854775807 (t.sinceZero - u.sinceZero))

end Time

/-- `v1beta2.ApplicationStateType`. -/
inductive ApplicationStateType where
  | newState
  | submittedState
  | runningState
  | completedState
  | failedState
  | failedSubmissionState
  | pendingRerunState
  | invalidatingState
  | succeedingState
  | failingState
  | unknownState
  deriving Repr, DecidableEq, Inhabited

/-- `v1beta2.ExecutorState`. -/
inductive ExecutorState where
  | executorPendingState
  | executorRunningState
  | executorCompletedState
  | executorFailedState
  | executorUnknownState
  deriving Repr, DecidableEq, Inhabited

/-- `v1beta2.ApplicationState`; its error message is never read here. -/
structure ApplicationState where
  state : ApplicationStateType
  deriving Repr, DecidableEq, Inhabited

/-- The part of `v1beta2.SparkApplicationStatus` that the modelled code reads. -/
structure SparkApplicationStatus where
  submissionID : String
  lastSubmissionAttemptTime : Time
  terminationTime : Time
  appState : ApplicationState
  executorState : GoMap String ExecutorState
  deriving DecidableEq, Inhabited

/-- The part of `v1beta2.SparkApplication` that the modelled code reads. -/
structure SparkApplication where
  labels : GoMap String String
  status : SparkApplicationStatus
  deriving DecidableEq, Inhabited

/-- The part of `apiv1.Pod` that the modelled code reads. -/
structure Pod where
  «namespace» : String
  labels : GoMap String String
  resourceVersion : String
  deriving DecidableEq, Inhabited

/-- A lister's `SparkApplications(namespace).Get(name)`: the cached object, or the error text. -/
abbrev Lister (App : Type) :=
  String → String → Except String App

/-- The label keys of `pkg/config` that the modelled code reads. -/
structure Config where
  sparkAppNameLabel : String
  submissionIDLabel : String
  deriving Inhabited

/-- The helpers of `pkg/util` that the modelled code calls. -/
structure Util where
  createValidMetricNameLabel : String → String → String
  isLaunchedBySparkOperator : Pod → Bool
  isDriverPod : Pod → Bool
  isExecutorPod : Pod → Bool
  deriving Inhabited

end SparkOperator
