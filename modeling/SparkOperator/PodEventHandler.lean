import SparkOperator.Resources

namespace SparkOperator

/-!
# Routing pod events to applications

`sparkPodEventHandler` receives pod notifications from an informer as
`interface{}` payloads and enqueues the key of the application a pod belongs
to.  The informer hands a `*apiv1.Pod` to every handler and, to the delete
handler only, a `cache.DeletedFinalStateUnknown` tombstone for a deletion the
watch missed.

A pod that carries a submission-ID label is routed only while the cached
application still has that submission ID, so pods of a superseded run never
reach the reconciler.  The delete handler unwraps a tombstone with an
unchecked type assertion, so a tombstone that does not wrap a pod panics
instead of being dropped.
-/

/-- The dynamic value behind an `interface{}` payload. -/
inductive Object where
  /-- A `*apiv1.Pod`; `none` is a nil pointer. -/
  | pod (pod : Option Pod)
  /-- A `cache.DeletedFinalStateUnknown` tombstone. -/
  | deletedFinalStateUnknown (key : String) (obj : Object)
  /-- The nil interface. -/
  | nil
  /-- A value of any other dynamic type. -/
  | other
  deriving DecidableEq

/-- The single-value type assertion `obj.(*apiv1.Pod)`. -/
def Object.assertPod : Object → Except RuntimePanic (Option Pod)
  | .pod target => .ok target
  | _ => .error .failedTypeAssertion

/-- A pod notification, handed to the handler registered for its kind. -/
inductive PodNotification where
  | added (obj : Object)
  | updated (old updated : Object)
  | deleted (obj : Object)

variable (config : Config)

/--
Modelled from the spec: `getAppName`, absent from src/, reads the owning
application's name from the pod's application-name label.
-/
def getAppName (pod : Pod) : Option String :=
  pod.labels.get? config.sparkAppNameLabel

/--
Modelled from the spec: `createMetaNamespaceKey`, absent from src/, builds the
work-queue key `namespace/name`.
-/
def createMetaNamespaceKey (ns name : String) : String :=
  ns ++ "/" ++ name

/-- `s.enqueueSparkAppForUpdate(pod)`: the keys it passes to `enqueueFunc`. -/
def enqueueSparkAppForUpdate
    (applicationLister : Lister SparkApplication) (pod : Pod) : List String :=
  match getAppName config pod with
  | none => []
  | some appName =>
      match pod.labels.get? config.submissionIDLabel with
      | some submissionID =>
          match applicationLister pod.namespace appName with
          | .ok app =>
              if app.status.submissionID ≠ submissionID then []
              else [createMetaNamespaceKey pod.namespace appName]
          | .error _ => []
      | none => [createMetaNamespaceKey pod.namespace appName]

/-- `s.onPodAdded(obj)`; the log line reads the pod's name through the pointer. -/
def onPodAdded
    (applicationLister : Lister SparkApplication) (obj : Object) :
    Except RuntimePanic (List String) := do
  let pod ← deref (← obj.assertPod)
  pure (enqueueSparkAppForUpdate config applicationLister pod)

/-- `s.onPodUpdated(old, updated)`. -/
def onPodUpdated
    (applicationLister : Lister SparkApplication) (old updated : Object) :
    Except RuntimePanic (List String) := do
  let oldPod ← old.assertPod
  let updatedPod ← updated.assertPod
  let updatedPod ← deref updatedPod
  let oldPod ← deref oldPod
  if updatedPod.resourceVersion = oldPod.resourceVersion then
    pure []
  else
    pure (enqueueSparkAppForUpdate config applicationLister updatedPod)

/-- The type switch of `onPodDeleted`: the pod it goes on with, or nil. -/
def deletedPod : Object → Except RuntimePanic (Option Pod)
  | .pod pod => .ok pod
  | .deletedFinalStateUnknown _ deletedObj => deletedObj.assertPod
  | _ => .ok none

/-- `s.onPodDeleted(obj)`. -/
def onPodDeleted
    (applicationLister : Lister SparkApplication) (obj : Object) :
    Except RuntimePanic (List String) := do
  match ← deletedPod obj with
  | none => pure []
  | some pod => pure (enqueueSparkAppForUpdate config applicationLister pod)

/-- The handlers as the controller registers them with the pod informer. -/
def handlePodNotification
    (applicationLister : Lister SparkApplication) :
    PodNotification → Except RuntimePanic (List String)
  | .added obj => onPodAdded config applicationLister obj
  | .updated old updated => onPodUpdated config applicationLister old updated
  | .deleted obj => onPodDeleted config applicationLister obj

/-- The notifications whose payloads have the shapes the informer delivers, with their pod. -/
inductive CarriesPod : PodNotification → Pod → Prop
  | added (pod : Pod) :
      CarriesPod (.added (.pod (some pod))) pod
  | updated (old pod : Pod) :
      CarriesPod (.updated (.pod (some old)) (.pod (some pod))) pod
  | deleted (pod : Pod) :
      CarriesPod (.deleted (.pod (some pod))) pod
  | tombstone (key : String) (pod : Pod) :
      CarriesPod (.deleted (.deletedFinalStateUnknown key (.pod (some pod)))) pod

/-- Condition (a): an update changes the resource version; an add or a delete always passes. -/
def PodNotification.resourceVersionChanged : PodNotification → Bool
  | .updated (.pod (some oldPod)) (.pod (some updatedPod)) =>
      updatedPod.resourceVersion != oldPod.resourceVersion
  | _ => true

/-- On a notification that carries a pod, the handlers do nothing but route that pod. -/
theorem handlePodNotification_of_carriesPod
    (applicationLister : Lister SparkApplication)
    {notification : PodNotification} {pod : Pod}
    (carries : CarriesPod notification pod) :
    handlePodNotification config applicationLister notification =
      .ok (if notification.resourceVersionChanged then
        enqueueSparkAppForUpdate config applicationLister pod else []) := by
  cases carries with
  | updated old pod =>
      by_cases same : pod.resourceVersion = old.resourceVersion <;>
        simp [handlePodNotification, onPodUpdated, Object.assertPod,
          PodNotification.resourceVersionChanged, same]
  | _ =>
      rfl

/-- `enqueueSparkAppForUpdate` enqueues the pod's key exactly when the pod is routable. -/
theorem mem_enqueueSparkAppForUpdate
    (applicationLister : Lister SparkApplication) (pod : Pod) (key : String) :
    key ∈ enqueueSparkAppForUpdate config applicationLister pod ↔
      ∃ appName, pod.labels.get? config.sparkAppNameLabel = some appName ∧
        (pod.labels.get? config.submissionIDLabel = none ∨
          ∃ app, applicationLister pod.namespace appName = .ok app ∧
            pod.labels.get? config.submissionIDLabel = some app.status.submissionID) ∧
        key = pod.namespace ++ "/" ++ appName := by
  unfold enqueueSparkAppForUpdate getAppName createMetaNamespaceKey
  cases appLabel : pod.labels.get? config.sparkAppNameLabel with
  | none =>
      simp
  | some appName =>
      cases submissionLabel : pod.labels.get? config.submissionIDLabel with
      | none =>
          simp
      | some submissionID =>
          cases cached : applicationLister pod.namespace appName with
          | error message =>
              simp [cached]
          | ok app =>
              by_cases current : submissionID = app.status.submissionID <;>
                simp [cached, current, eq_comm]

/-- `enqueueSparkAppForUpdate` enqueues at most one key. -/
theorem length_enqueueSparkAppForUpdate_le
    (applicationLister : Lister SparkApplication) (pod : Pod) :
    (enqueueSparkAppForUpdate config applicationLister pod).length ≤ 1 := by
  unfold enqueueSparkAppForUpdate
  repeat' split
  all_goals simp

/--
A notification of the shapes the informer delivers calls `enqueueFunc` at most
once, with the key `<pod namespace>/<application name>`, and exactly when
(a) an update changed the resource version, (b) the pod names its
application, and (c) the pod carries no submission ID or the cached
application's current one.
-/
theorem handlePodNotification_routes_current_pods
    (applicationLister : Lister SparkApplication)
    {notification : PodNotification} {pod : Pod}
    (carries : CarriesPod notification pod) :
    ∃ keys, handlePodNotification config applicationLister notification = .ok keys ∧
      keys.length ≤ 1 ∧
      ∀ key, key ∈ keys ↔
        notification.resourceVersionChanged = true ∧
          ∃ appName, pod.labels.get? config.sparkAppNameLabel = some appName ∧
            (pod.labels.get? config.submissionIDLabel = none ∨
              ∃ app, applicationLister pod.namespace appName = .ok app ∧
                pod.labels.get? config.submissionIDLabel = some app.status.submissionID) ∧
            key = pod.namespace ++ "/" ++ appName := by
  refine ⟨_, handlePodNotification_of_carriesPod config applicationLister carries,
    ?_, fun key => ?_⟩
  · split
    · exact length_enqueueSparkAppForUpdate_le config applicationLister pod
    · simp
  · split <;> simp_all [mem_enqueueSparkAppForUpdate]

/-- The routing law for an added pod of the submission the lister caches for its application. -/
theorem handlePodNotification_routes_current_pods_current_submission :
    let config : Config :=
      ⟨"sparkoperator.k8s.io/app-name", "sparkoperator.k8s.io/submission-id"⟩
    let pod : Pod :=
      ⟨"default", ⟨[("sparkoperator.k8s.io/app-name", "spark-pi"),
        ("sparkoperator.k8s.io/submission-id", "6c8f")], by decide⟩, "7"⟩
    let lister : Lister SparkApplication := fun _ name =>
      if name = "spark-pi" then
        .ok { (default : SparkApplication) with
          status := { (default : SparkApplicationStatus) with submissionID := "6c8f" } }
      else .error "not found"
    CarriesPod (.added (.pod (some pod))) pod ∧
      ∃ keys, handlePodNotification config lister (.added (.pod (some pod))) = .ok keys ∧
        keys.length ≤ 1 ∧
        ∀ key, key ∈ keys ↔
          (PodNotification.added (.pod (some pod))).resourceVersionChanged = true ∧
            ∃ appName, pod.labels.get? config.sparkAppNameLabel = some appName ∧
              (pod.labels.get? config.submissionIDLabel = none ∨
                ∃ app, lister pod.namespace appName = .ok app ∧
                  pod.labels.get? config.submissionIDLabel = some app.status.submissionID) ∧
              key = pod.namespace ++ "/" ++ appName := by
  intro config pod lister
  exact ⟨.added pod, handlePodNotification_routes_current_pods config lister (.added pod)⟩

example :
    handlePodNotification ⟨"sparkoperator.k8s.io/app-name", "sparkoperator.k8s.io/submission-id"⟩
        (fun _ _ => .ok { (default : SparkApplication) with
          status := { (default : SparkApplicationStatus) with submissionID := "6c8f" } })
        (.added (.pod (some ⟨"default", ⟨[("sparkoperator.k8s.io/app-name", "spark-pi"),
          ("sparkoperator.k8s.io/submission-id", "6c8f")], by decide⟩, "7"⟩))) =
      .ok ["default/spark-pi"] :=
  rfl

/-- The delete handler panics exactly on a tombstone that does not wrap a pod pointer, failing its type assertion. -/
theorem onPodDeleted_eq_error_iff
    (applicationLister : Lister SparkApplication) (obj : Object) (failure : RuntimePanic) :
    onPodDeleted config applicationLister obj = .error failure ↔
      failure = .failedTypeAssertion ∧
        ∃ key inner, obj = .deletedFinalStateUnknown key inner ∧ ∀ target, inner ≠ .pod target := by
  cases obj with
  | pod target =>
      cases target <;> simp [onPodDeleted, deletedPod]
  | deletedFinalStateUnknown key inner =>
      cases inner with
      | pod target =>
          cases target <;> simp [onPodDeleted, deletedPod, Object.assertPod]
      | _ =>
          simp [onPodDeleted, deletedPod, Object.assertPod, and_assoc, eq_comm]
  | _ =>
      simp [onPodDeleted, deletedPod]

/-- A tombstone whose object is the nil interface panics instead of being dropped. -/
theorem onPodDeleted_tombstone_of_nil_panics :
    ∀ (config : Config) (applicationLister : Lister SparkApplication),
      onPodDeleted config applicationLister
          (.deletedFinalStateUnknown "default/spark-pi-driver" .nil) =
        .error .failedTypeAssertion :=
  fun config applicationLister =>
    (onPodDeleted_eq_error_iff config applicationLister _ _).mpr
      ⟨rfl, _, _, rfl, fun _ => Object.noConfusion⟩

end SparkOperator
