import SparkOperator.Resources

namespace SparkOperator

/-!
# The admission decision of the webhook

`mutatePods` answers one admission review.  It returns no response when the
request is not for core `v1` pods, and otherwise always allows the pod: a pod
that does not belong to an operator-managed application passes unchanged, and
every error met on the way is reported in an allowing response.  Only a pod of
the operator, in the job namespace, naming an application the lister finds,
can receive a patch.

The JSON codecs and `patchSparkPod` of `patch.go` lie outside the excerpt and
are parameters, bundled in `WebhookEnv`.  The review's request is a pointer:
`mutatePods` reads it without a nil check.
-/

/-- A byte slice, `[]byte`. -/
abbrev Bytes := List UInt8

/-- `metav1.GroupVersionResource`. -/
structure GroupVersionResource where
  group : String
  version : String
  resource : String
  deriving DecidableEq, Inhabited

/-- `podResource`: the resource `pods` of the core group, version `v1`. -/
def podResource : GroupVersionResource where
  group := ""
  version := "v1"
  resource := "pods"

/-- The part of `admissionv1beta1.AdmissionRequest` that the webhook reads. -/
structure AdmissionRequest where
  uid : String
  resource : GroupVersionResource
  «namespace» : String
  /-- `Object.Raw`: the pod as JSON. -/
  object : Bytes
  deriving DecidableEq, Inhabited

/-- `metav1.Status`, as `toAdmissionResponse` fills it. -/
structure Status where
  message : String
  code : Nat
  deriving DecidableEq, Inhabited

/-- `admissionv1beta1.PatchTypeJSONPatch`. -/
def patchTypeJSONPatch : String :=
  "JSONPatch"

/-- The fields of `admissionv1beta1.AdmissionResponse` the webhook sets; the defaults are Go's zero values. -/
structure AdmissionResponse where
  uid : String := ""
  allowed : Bool := false
  result : Option Status := none
  patch : Option Bytes := none
  patchType : Option String := none
  deriving DecidableEq, Inhabited

/-- `admissionv1beta1.AdmissionReview`, its request and response being pointers. -/
structure AdmissionReview where
  request : Option AdmissionRequest := none
  response : Option AdmissionResponse := none
  deriving DecidableEq, Inhabited

/-- `http.StatusInternalServerError`. -/
def statusInternalServerError : Nat :=
  500

/-- What the webhook calls outside the excerpt. -/
structure WebhookEnv (App PatchOperation : Type) where
  /-- `json.Unmarshal(raw, pod)`: the pod, or the error text. -/
  unmarshalPod : Bytes → Except String Pod
  /-- `patchSparkPod(pod, app)` of `patch.go`. -/
  patchSparkPod : Pod → App → List PatchOperation
  /-- `json.Marshal(patchOps)`. -/
  marshalPatch : List PatchOperation → Except String Bytes
  /-- The universal deserializer's `Decode(body, nil, review)` into an empty review: the review it leaves, and its error. -/
  decode : Bytes → AdmissionReview × Option String
  /-- The error of `json.Marshal(response)`, if it fails. -/
  marshalReviewError : AdmissionReview → Option String
  deriving Inhabited

variable {App PatchOperation : Type}
variable (util : Util) (config : Config) (env : WebhookEnv App PatchOperation)

/-- `toAdmissionResponse(err)`: allow, and report the error. -/
def toAdmissionResponse (err : String) : AdmissionResponse where
  allowed := true
  result := some { message := err, code := statusInternalServerError }

/-- `inSparkJobNamespace(podNs, sparkJobNamespace)`; `apiv1.NamespaceAll` is the empty string. -/
def inSparkJobNamespace (podNs sparkJobNamespace : String) : Bool :=
  if sparkJobNamespace = "" then true else podNs = sparkJobNamespace

/-- `isSparkPod(pod)`. -/
def isSparkPod (pod : Pod) : Bool :=
  util.isLaunchedBySparkOperator pod && (util.isDriverPod pod || util.isExecutorPod pod)

/-- The patch step of `mutatePods` once the application is found. -/
def patchResponse (pod : Pod) (app : App) : AdmissionResponse :=
  if (env.patchSparkPod pod app).length > 0 then
    match env.marshalPatch (env.patchSparkPod pod app) with
    | .error err => toAdmissionResponse err
    | .ok patchBytes =>
        { allowed := true, patch := some patchBytes, patchType := some patchTypeJSONPatch }
  else
    { allowed := true }

/-- `mutatePods` past the resource check and the pod's decoding. -/
def mutatePod
    (lister : Lister App) (sparkJobNs : String)
    (request : AdmissionRequest) (pod : Pod) : AdmissionResponse :=
  if !isSparkPod util pod || !inSparkJobNamespace request.namespace sparkJobNs then
    { allowed := true }
  else if (pod.labels.get? config.sparkAppNameLabel).getD "" = "" then
    { allowed := true }
  else
    match lister request.namespace ((pod.labels.get? config.sparkAppNameLabel).getD "") with
    | .error err => toAdmissionResponse err
    | .ok app => patchResponse env pod app

/-- `mutatePods(review, lister, sparkJobNs)`. -/
def mutatePods
    (review : AdmissionReview) (lister : Lister App) (sparkJobNs : String) :
    Except RuntimePanic (Option AdmissionResponse) := do
  let request ← deref review.request
  if request.resource ≠ podResource then
    return none
  match env.unmarshalPod request.object with
  | .error err => return some (toAdmissionResponse err)
  | .ok pod => return some (mutatePod util config env lister sparkJobNs request pod)

@[simp] theorem allowed_toAdmissionResponse (err : String) :
    (toAdmissionResponse err).allowed = true :=
  rfl

@[simp] theorem patch_toAdmissionResponse (err : String) :
    (toAdmissionResponse err).patch = none :=
  rfl

@[simp] theorem patchType_toAdmissionResponse (err : String) :
    (toAdmissionResponse err).patchType = none :=
  rfl

/-- The patch step allows the pod, and sets the patch type exactly with the patch. -/
theorem patchResponse_spec (pod : Pod) (app : App) :
    (patchResponse env pod app).allowed = true ∧
      (patchResponse env pod app).patchType =
        (patchResponse env pod app).patch.map (fun _ => patchTypeJSONPatch) ∧
      ((patchResponse env pod app).patch ≠ none → env.patchSparkPod pod app ≠ []) := by
  unfold patchResponse
  split
  · rename_i nonempty
    have operations : env.patchSparkPod pod app ≠ [] := List.length_pos.mp nonempty
    split <;> simp [operations]
  · simp

/-- Every decision past the resource check allows the pod and pairs the patch with its type. -/
theorem mutatePod_spec
    (lister : Lister App) (sparkJobNs : String)
    (request : AdmissionRequest) (pod : Pod) :
    (mutatePod util config env lister sparkJobNs request pod).allowed = true ∧
      (mutatePod util config env lister sparkJobNs request pod).patchType =
        (mutatePod util config env lister sparkJobNs request pod).patch.map
          (fun _ => patchTypeJSONPatch) := by
  unfold mutatePod
  split
  · simp
  · split
    · simp
    · split
      · simp
      · exact ⟨(patchResponse_spec env pod _).1, (patchResponse_spec env pod _).2.1⟩

/-- A patch past the resource check needs a pod of the operator, in scope, whose application is found. -/
theorem mutatePod_patch_in_scope
    {lister : Lister App} {sparkJobNs : String}
    {request : AdmissionRequest} {pod : Pod}
    (patched : (mutatePod util config env lister sparkJobNs request pod).patch ≠ none) :
    isSparkPod util pod = true ∧
      inSparkJobNamespace request.namespace sparkJobNs = true ∧
      ∃ appName app, pod.labels.get? config.sparkAppNameLabel = some appName ∧
        appName ≠ "" ∧ lister request.namespace appName = .ok app ∧
        env.patchSparkPod pod app ≠ [] := by
  unfold mutatePod at patched
  split at patched
  · simp at patched
  · rename_i inScope
    simp only [Bool.or_eq_true, Bool.not_eq_true', not_or, Bool.not_eq_false] at inScope
    split at patched
    · simp at patched
    · rename_i named
      split at patched
      · simp at patched
      · rename_i app found
        cases label : pod.labels.get? config.sparkAppNameLabel with
        | none =>
            simp [label] at named
        | some appName =>
            simp only [label, Option.getD_some] at named found
            exact ⟨inScope.1, inScope.2, appName, app, rfl, named, found,
              (patchResponse_spec env pod app).2.2 patched⟩

/-- `mutatePods` answers with no response exactly for a request of another resource. -/
theorem mutatePods_eq_none_iff
    (review : AdmissionReview) (lister : Lister App) (sparkJobNs : String) :
    mutatePods util config env review lister sparkJobNs = .ok none ↔
      ∃ request, review.request = some request ∧ request.resource ≠ podResource := by
  cases requested : review.request with
  | none =>
      simp [mutatePods, requested]
  | some request =>
      by_cases pods : request.resource = podResource
      · cases decoded : env.unmarshalPod request.object <;>
          simp [mutatePods, requested, pods, decoded]
      · simp [mutatePods, requested, pods]

/-- What a response of `mutatePods` can be: a decoding error reported, or the decision on the pod. -/
theorem mutatePods_eq_some
    {review : AdmissionReview} {lister : Lister App} {sparkJobNs : String}
    {response : AdmissionResponse}
    (returned : mutatePods util config env review lister sparkJobNs = .ok (some response)) :
    ∃ request, review.request = some request ∧ request.resource = podResource ∧
      ((∃ err, env.unmarshalPod request.object = .error err ∧
          response = toAdmissionResponse err) ∨
        ∃ pod, env.unmarshalPod request.object = .ok pod ∧
          response = mutatePod util config env lister sparkJobNs request pod) := by
  cases requested : review.request with
  | none =>
      simp [mutatePods, requested] at returned
  | some request =>
      by_cases pods : request.resource = podResource
      · refine ⟨request, rfl, pods, ?_⟩
        cases decoded : env.unmarshalPod request.object <;>
          simp only [mutatePods, requested, deref_some, ok_bind, pods, ne_eq,
            not_true_eq_false, if_false, decoded, pure_eq_ok, Except.ok.injEq,
            Option.some.injEq] at returned
        · exact Or.inl ⟨_, rfl, returned.symm⟩
        · exact Or.inr ⟨_, rfl, returned.symm⟩
      · simp [mutatePods, requested, pods] at returned

/-- Every response of `mutatePods` allows the pod and sets the patch type exactly with the patch. -/
theorem mutatePods_allowed
    {review : AdmissionReview} {lister : Lister App} {sparkJobNs : String}
    {response : AdmissionResponse}
    (returned : mutatePods util config env review lister sparkJobNs = .ok (some response)) :
    response.allowed = true ∧
      response.patchType = response.patch.map (fun _ => patchTypeJSONPatch) := by
  obtain ⟨request, -, -, ⟨err, -, rfl⟩ | ⟨pod, -, rfl⟩⟩ :=
    mutatePods_eq_some util config env returned
  · simp
  · exact mutatePod_spec util config env lister sparkJobNs request pod

/-- The label keys of `pkg/config`. -/
def sampleConfig : Config where
  sparkAppNameLabel := "sparkoperator.k8s.io/app-name"
  submissionIDLabel := "sparkoperator.k8s.io/submission-id"

/-- The helpers of `pkg/util`, reading the operator's launch label and the `spark-role` label. -/
def sampleUtil : Util where
  createValidMetricNameLabel := fun _ label => label
  isLaunchedBySparkOperator := fun pod =>
    pod.labels.get? "sparkoperator.k8s.io/launched-by-spark-operator" == some "true"
  isDriverPod := fun pod => pod.labels.get? "spark-role" == some "driver"
  isExecutorPod := fun pod => pod.labels.get? "spark-role" == some "executor"

/-- The driver pod of the application `spark-pi`, launched by the operator in `default`. -/
def sampleDriverPod : Pod where
  «namespace» := "default"
  labels := ⟨[("sparkoperator.k8s.io/app-name", "spark-pi"),
    ("sparkoperator.k8s.io/launched-by-spark-operator", "true"), ("spark-role", "driver")],
    by decide⟩
  resourceVersion := "1"

/-- Codecs that decode every object as `sampleDriverPod`, and a `patchSparkPod` that adds a volume. -/
def sampleWebhookEnv : WebhookEnv Unit String where
  unmarshalPod := fun _ => .ok sampleDriverPod
  patchSparkPod := fun _ _ => ["add /spec/volumes/-"]
  marshalPatch := fun operations => .ok (operations.map fun _ => 0)
  decode := fun _ => (default, none)
  marshalReviewError := fun _ => none

/--
`mutatePods` patches only a pod of the operator, driver or executor, in the
job namespace, naming an application the lister finds, for which
`patchSparkPod` has operations; and every response sets the patch type
`JSONPatch` exactly with a patch.
-/
theorem mutatePods_patches_only_in_scope
    (lister : Lister App) (sparkJobNs : String)
    {review : AdmissionReview} {response : AdmissionResponse}
    (returned : mutatePods util config env review lister sparkJobNs = .ok (some response)) :
    (response.patch ≠ none →
      ∃ request pod, review.request = some request ∧ request.resource = podResource ∧
        env.unmarshalPod request.object = .ok pod ∧
        isSparkPod util pod = true ∧
        inSparkJobNamespace request.namespace sparkJobNs = true ∧
        ∃ appName app, pod.labels.get? config.sparkAppNameLabel = some appName ∧
          appName ≠ "" ∧ lister request.namespace appName = .ok app ∧
          env.patchSparkPod pod app ≠ []) ∧
      response.patchType = response.patch.map (fun _ => patchTypeJSONPatch) := by
  refine ⟨fun patched => ?_, (mutatePods_allowed util config env returned).2⟩
  obtain ⟨request, requested, pods, ⟨err, -, rfl⟩ | ⟨pod, decoded, rfl⟩⟩ :=
    mutatePods_eq_some util config env returned
  · simp at patched
  · exact ⟨request, pod, requested, pods, decoded,
      mutatePod_patch_in_scope util config env patched⟩

/-- The scope law on the driver pod of `spark-pi` in the job namespace, which gets a patch. -/
theorem mutatePods_patches_only_in_scope_driver_pod :
    let review : AdmissionReview :=
      { request := some { (default : AdmissionRequest) with
          resource := podResource
          «namespace» := "default" } }
    let response : AdmissionResponse :=
      { allowed := true, patch := some [0], patchType := some patchTypeJSONPatch }
    mutatePods sampleUtil sampleConfig sampleWebhookEnv review (fun _ _ => .ok ()) "default" =
        .ok (some response) ∧
      (response.patch ≠ none →
        ∃ request pod, review.request = some request ∧ request.resource = podResource ∧
          sampleWebhookEnv.unmarshalPod request.object = .ok pod ∧
          isSparkPod sampleUtil pod = true ∧
          inSparkJobNamespace request.namespace "default" = true ∧
          ∃ appName app, pod.labels.get? sampleConfig.sparkAppNameLabel = some appName ∧
            appName ≠ "" ∧ (fun _ _ => .ok () : Lister Unit) request.namespace appName = .ok app ∧
            sampleWebhookEnv.patchSparkPod pod app ≠ []) ∧
      response.patchType = response.patch.map (fun _ => patchTypeJSONPatch) := by
  intro review response
  have returned : mutatePods sampleUtil sampleConfig sampleWebhookEnv review (fun _ _ => .ok ())
      "default" = .ok (some response) := rfl
  exact ⟨returned, mutatePods_patches_only_in_scope sampleUtil sampleConfig sampleWebhookEnv
    (fun _ _ => .ok ()) "default" returned⟩

end SparkOperator
