import SparkOperator.CertProvider
import SparkOperator.WebhookServe

namespace SparkOperator

/-!
# Self-registration and the lifecycle of the webhook

`Start` starts certificate rotation and the HTTPS server, then upserts the
webhook's `MutatingWebhookConfiguration`; `Stop` deletes the configuration,
then stops rotation and shuts the server down.  The API server is a store of
configurations by name, and `ClientFaults` says which client calls fail and
how, so every result holds for every pattern of failures.  Registration writes
only its own configuration, whose rule selects pod creations alone; over every
run of `Start`, `Stop` and ticks rotation is stopped exactly when the server
was shut down, and once stopped nothing brings the webhook back.
-/

/-- `v1beta1.Create`. -/
def operationCreate : String :=
  "CREATE"

/-- `webhookName`. -/
def webhookName : String :=
  "webhook.sparkoperator.k8s.io"

/-- The path `New` serves the webhook on and registers. -/
def webhookPath : String :=
  "/webhook"

/-- `v1beta1.RuleWithOperations`: the operations, and the groups, versions and resources of its rule. -/
structure RuleWithOperations where
  operations : List String
  apiGroups : List String
  apiVersions : List String
  resources : List String
  deriving DecidableEq

/-- The API server's match of a rule without wildcards against an operation on a resource. -/
def RuleWithOperations.selects
    (rule : RuleWithOperations) (operation : String) (resource : GroupVersionResource) : Bool :=
  operation ∈ rule.operations && resource.group ∈ rule.apiGroups &&
    resource.version ∈ rule.apiVersions && resource.resource ∈ rule.resources

/-- `v1beta1.ServiceReference`. -/
structure ServiceReference where
  «namespace» : String
  name : String
  path : Option String
  deriving DecidableEq

/-- `v1beta1.FailurePolicyType`. -/
inductive FailurePolicyType where
  | ignore
  | fail
  deriving DecidableEq

/-- `v1beta1.WebhookClientConfig`: the service to call, and the CA bundle that verifies it. -/
structure WebhookClientConfig where
  service : Option ServiceReference
  caBundle : Bytes
  deriving DecidableEq

/-- The fields of `v1beta1.Webhook` that `selfRegistration` sets. -/
structure Webhook where
  name : String
  rules : List RuleWithOperations
  clientConfig : WebhookClientConfig
  failurePolicy : Option FailurePolicyType
  deriving DecidableEq

/-- `metav1.ObjectMeta`, by the name the configuration is stored under. -/
structure ObjectMeta where
  name : String
  deriving DecidableEq

/-- `v1beta1.MutatingWebhookConfiguration`. -/
structure MutatingWebhookConfiguration where
  objectMeta : ObjectMeta
  webhooks : List Webhook
  deriving DecidableEq

/-- The API server's `MutatingWebhookConfiguration`s, each stored under its own name. -/
structure ConfigStore where
  configs : GoMap String MutatingWebhookConfiguration
  keyedByName : ∀ name config, configs.get? name = some config → config.objectMeta.name = name

namespace ConfigStore

/-- The configuration stored under `name`. -/
def get? (store : ConfigStore) (name : String) : Option MutatingWebhookConfiguration :=
  store.configs.get? name

/-- Store a configuration under its name. -/
def put (store : ConfigStore) (config : MutatingWebhookConfiguration) : ConfigStore where
  configs := store.configs.set config.objectMeta.name config
  keyedByName name stored found := by
    rw [GoMap.get?_set] at found
    split_ifs at found with same
    · cases found
      exact same.symm
    · exact store.keyedByName name stored found

/-- Remove the configuration stored under `name`. -/
def erase (store : ConfigStore) (name : String) : ConfigStore where
  configs := store.configs.erase name
  keyedByName other stored found := by
    rw [GoMap.get?_erase] at found
    split_ifs at found
    exact store.keyedByName other stored found

@[simp] theorem get?_put (store : ConfigStore) (config : MutatingWebhookConfiguration)
    (name : String) :
    (store.put config).get? name =
      if name = config.objectMeta.name then some config else store.get? name :=
  GoMap.get?_set _ _ _ _

@[simp] theorem get?_erase (store : ConfigStore) (name other : String) :
    (store.erase name).get? other = if other = name then none else store.get? other :=
  GoMap.get?_erase _ _ _

/-- The API server before any configuration is created. -/
def empty : ConfigStore where
  configs := GoMap.empty
  keyedByName _ _ found := by simp at found

end ConfigStore

/-- The `StatusError`s of the client's calls, by the reasons the code tells apart. -/
inductive APIError where
  | notFound (name : String)
  | alreadyExists (name : String)
  /-- Any other failure: a transport error, a conflict, a refused request. -/
  | failed (message : String)
  deriving DecidableEq

/-- `errors.IsNotFound`. -/
def APIError.isNotFound : APIError → Bool
  | .notFound _ => true
  | _ => false

/-- The failure each client call meets, if any; a call with none goes through. -/
structure ClientFaults where
  get : Option String
  update : Option String
  create : Option String
  delete : Option String

/-- `client.Get(name, ...)`. -/
def clientGet (faults : ClientFaults) (store : ConfigStore) (name : String) :
    Except APIError MutatingWebhookConfiguration :=
  match faults.get with
  | some message => .error (.failed message)
  | none =>
      match store.get? name with
      | some config => .ok config
      | none => .error (.notFound name)

/-- `client.Update(config)`: replace the stored configuration of the same name. -/
def clientUpdate
    (faults : ClientFaults) (store : ConfigStore) (config : MutatingWebhookConfiguration) :
    Except APIError ConfigStore :=
  match faults.update with
  | some message => .error (.failed message)
  | none =>
      if (store.get? config.objectMeta.name).isSome then .ok (store.put config)
      else .error (.notFound config.objectMeta.name)

/-- `client.Create(config)`: store a configuration under a name not yet taken. -/
def clientCreate
    (faults : ClientFaults) (store : ConfigStore) (config : MutatingWebhookConfiguration) :
    Except APIError ConfigStore :=
  match faults.create with
  | some message => .error (.failed message)
  | none =>
      if (store.get? config.objectMeta.name).isSome then
        .error (.alreadyExists config.objectMeta.name)
      else .ok (store.put config)

/-- `client.Delete(name, ...)`. -/
def clientDelete (faults : ClientFaults) (store : ConfigStore) (name : String) :
    Except APIError ConfigStore :=
  match faults.delete with
  | some message => .error (.failed message)
  | none =>
      if (store.get? name).isSome then .ok (store.erase name)
      else .error (.notFound name)

/-- The errors `Start` and `Stop` return. -/
inductive WebhookError where
  | api (err : APIError)
  /-- `readCertFile` failed with this message. -/
  | readCertFile (message : String)
  /-- `server.Shutdown` returned this error. -/
  | shutdown (message : String)

/-- The `webhook` of `selfRegistration`: pod creations, sent to `serviceRef`, failing open. -/
def registrationWebhook (serviceRef : ServiceReference) (caCert : Bytes) : Webhook where
  name := webhookName
  rules := [{
    operations := [operationCreate]
    apiGroups := [""]
    apiVersions := ["v1"]
    resources := ["pods"] }]
  clientConfig := { service := some serviceRef, caBundle := caCert }
  failurePolicy := some .ignore

/-- `getErr != nil && !errors.IsNotFound(getErr)`: the `Get` error that ends registration. -/
def getFailure : Except APIError MutatingWebhookConfiguration → Option APIError
  | .error err => if err.isNotFound then none else some err
  | .ok _ => none

/-- A write's outcome as `selfRegistration` returns it: the written store, or the old one and the error. -/
def writeOutcome (store : ConfigStore) : Except APIError ConfigStore →
    ConfigStore × Option WebhookError
  | .ok written => (written, none)
  | .error err => (store, some (.api err))

/-- The update and create cases of `selfRegistration`, given what `Get` returned. -/
def upsertWebhooks
    (faults : ClientFaults) (webhookConfigName : String)
    (got : Except APIError MutatingWebhookConfiguration) (webhooks : List Webhook)
    (store : ConfigStore) : ConfigStore × Option WebhookError :=
  match got with
  | .ok existing =>
      if webhooks ≠ existing.webhooks then
        writeOutcome store (clientUpdate faults store { existing with webhooks })
      else
        (store, none)
  | .error _ =>
      writeOutcome store
        (clientCreate faults store { objectMeta := { name := webhookConfigName }, webhooks := webhooks })

variable {Certificate : Type}

/-- The part of `WebHook` that `Start` and `Stop` read and change. -/
structure WebHook (Certificate : Type) where
  certProvider : CertProvider Certificate
  serviceRef : ServiceReference
  sparkJobNamespace : String
  /-- Whether the goroutine of `certProvider.Start` is reloading on ticks. -/
  rotating : Bool
  /-- Whether `ListenAndServeTLS` is accepting connections. -/
  serving : Bool
  /-- Whether `server.Shutdown` ran; `ListenAndServeTLS` then returns at once. -/
  serverClosed : Bool

/--
`New(...)`: the certificate provider and the service reference of the
webhook; `load` is what `tls.LoadX509KeyPair` returns for the key pair.
-/
def newWebHook
    (serverCert serverCertKey caCert : String) (certReloadInterval : Int)
    (webhookServiceNamespace webhookServiceName jobNamespace : String)
    (load : Except String Certificate) :
    Except RuntimePanic (Except String (WebHook Certificate)) := do
  match ← newCertProvider serverCert serverCertKey caCert certReloadInterval load with
  | .error err => pure (.error err)
  | .ok cert =>
      pure (.ok {
        certProvider := cert
        serviceRef := {
          «namespace» := webhookServiceNamespace
          name := webhookServiceName
          path := some webhookPath }
        sparkJobNamespace := jobNamespace
        rotating := false
        serving := false
        serverClosed := false })

namespace WebHook

/--
`wh.selfRegistration(webhookConfigName)`, where `readCertFile` reads a file:
the store afterwards, and the error returned.
-/
def selfRegistration
    (faults : ClientFaults) (readCertFile : String → Except String Bytes)
    (wh : WebHook Certificate) (webhookConfigName : String) (store : ConfigStore) :
    ConfigStore × Option WebhookError :=
  let got := clientGet faults store webhookConfigName
  match getFailure got with
  | some getErr => (store, some (.api getErr))
  | none =>
      match readCertFile wh.certProvider.caCertFile with
      | .error err => (store, some (.readCertFile err))
      | .ok caCert =>
          upsertWebhooks faults webhookConfigName got
            [registrationWebhook wh.serviceRef caCert] store

/-- `wh.selfDeregistration(webhookConfigName)`: the store afterwards, and the error returned. -/
def selfDeregistration (faults : ClientFaults) (webhookConfigName : String)
    (store : ConfigStore) : ConfigStore × Option APIError :=
  match clientDelete faults store webhookConfigName with
  | .ok deleted => (deleted, none)
  | .error err => (store, some err)

/--
`wh.Start(webhookConfigName)`: start rotation, start the server unless it
was shut down, then register.
-/
def start
    (faults : ClientFaults) (readCertFile : String → Except String Bytes)
    (wh : WebHook Certificate) (webhookConfigName : String) (store : ConfigStore) :
    WebHook Certificate × ConfigStore × Option WebhookError :=
  let started := { wh with
    rotating := !wh.certProvider.stopped
    serving := !wh.serverClosed }
  let (registered, err) := wh.selfRegistration faults readCertFile webhookConfigName store
  (started, registered, err)

/--
`wh.Stop(webhookConfigName)`: deregister, and only then stop rotation and shut
the server down; `shutdown` is what `server.Shutdown` returns.
-/
def stop
    (faults : ClientFaults) (shutdown : Option String)
    (wh : WebHook Certificate) (webhookConfigName : String) (store : ConfigStore) :
    Except RuntimePanic (WebHook Certificate × ConfigStore × Option WebhookError) :=
  match selfDeregistration faults webhookConfigName store with
  | (_, some err) => pure (wh, store, some (.api err))
  | (deleted, none) => do
      let provider ← providerStep wh.certProvider .stop
      pure ({ wh with
        certProvider := provider
        rotating := false
        serving := false
        serverClosed := true }, deleted, shutdown.map .shutdown)

end WebHook

/-- What happens to a webhook: `Start` or `Stop` against the API server's faults, or a tick. -/
inductive WebHookEvent (Certificate : Type) where
  | start (faults : ClientFaults) (readCertFile : String → Except String Bytes)
  | stop (faults : ClientFaults) (shutdown : Option String)
  /-- A tick of the reload ticker; `tls.LoadX509KeyPair` then returns `reload`. -/
  | tick (reload : Except String Certificate)

/-- Whether an event is a call of `Start`. -/
def WebHookEvent.isStart : WebHookEvent Certificate → Bool
  | .start _ _ => true
  | _ => false

/--
One event on the webhook and the API server.  The errors of `Start` and `Stop`
go to their caller, and only the rotation goroutine reads the ticks.
-/
def webHookStep (webhookConfigName : String) (state : WebHook Certificate × ConfigStore) :
    WebHookEvent Certificate → Except RuntimePanic (WebHook Certificate × ConfigStore)
  | .start faults readCertFile =>
      let (wh, store, _) := state.1.start faults readCertFile webhookConfigName state.2
      pure (wh, store)
  | .stop faults shutdown => do
      let (wh, store, _) ← state.1.stop faults shutdown webhookConfigName state.2
      pure (wh, store)
  | .tick reload =>
      if state.1.rotating then do
        let provider ← providerStep state.1.certProvider (.tick reload)
        pure ({ state.1 with certProvider := provider }, state.2)
      else
        pure state

/-- A run of events from a webhook and a store. -/
def webHookRun (webhookConfigName : String) (state : WebHook Certificate × ConfigStore) :
    List (WebHookEvent Certificate) → Except RuntimePanic (WebHook Certificate × ConfigStore)
  | [] => pure state
  | event :: rest => do webHookRun webhookConfigName (← webHookStep webhookConfigName state event) rest

/-! ### Registration -/

@[simp] theorem writeOutcome_ok (store written : ConfigStore) :
    writeOutcome store (.ok written) = (written, none) :=
  rfl

@[simp] theorem writeOutcome_error (store : ConfigStore) (err : APIError) :
    writeOutcome store (.error err) = (store, some (.api err)) :=
  rfl

/--
An upsert after a `Get` of its own name that did not fail succeeds exactly
when the write it needs goes through, and then leaves `webhooks` under the
name and every other configuration as it was.
-/
theorem upsertWebhooks_clientGet
    (faults : ClientFaults) (webhookConfigName : String) (webhooks : List Webhook)
    (store : ConfigStore) (noGetFault : faults.get = none) :
    let upserted :=
      upsertWebhooks faults webhookConfigName (clientGet faults store webhookConfigName)
        webhooks store
    (upserted.2 = none ↔
      match store.get? webhookConfigName with
      | some existing => existing.webhooks = webhooks ∨ faults.update = none
      | none => faults.create = none) ∧
      (upserted.2 = none →
        (∃ config, upserted.1.get? webhookConfigName = some config ∧
          config.webhooks = webhooks) ∧
        ∀ other, other ≠ webhookConfigName → upserted.1.get? other = store.get? other) := by
  dsimp only
  cases stored : store.get? webhookConfigName with
  | none =>
      have got : clientGet faults store webhookConfigName =
          .error (.notFound webhookConfigName) := by
        simp [clientGet, noGetFault, stored]
      cases fault : faults.create <;>
        simp +contextual [got, upsertWebhooks, clientCreate, fault, stored]
  | some existing =>
      have got : clientGet faults store webhookConfigName = .ok existing := by
        simp [clientGet, noGetFault, stored]
      have named : existing.objectMeta.name = webhookConfigName :=
        store.keyedByName _ _ stored
      by_cases same : webhooks = existing.webhooks
      · subst same
        simp [got, upsertWebhooks, stored]
      · cases fault : faults.update <;>
          simp +contextual [got, upsertWebhooks, clientUpdate, fault, same, named, stored,
            Ne.symm same]

/-- A `Get` that fails for a reason other than a missing configuration ends registration. -/
theorem selfRegistration_of_get_fault
    {faults : ClientFaults} {message : String} (fault : faults.get = some message)
    (readCertFile : String → Except String Bytes)
    (wh : WebHook Certificate) (webhookConfigName : String) (store : ConfigStore) :
    wh.selfRegistration faults readCertFile webhookConfigName store =
      (store, some (.api (.failed message))) := by
  simp [WebHook.selfRegistration, clientGet, fault, getFailure, APIError.isNotFound]

/-- A `Get` that did not fail leaves no error for registration to stop at. -/
theorem getFailure_clientGet
    {faults : ClientFaults} (noGetFault : faults.get = none)
    (store : ConfigStore) (webhookConfigName : String) :
    getFailure (clientGet faults store webhookConfigName) = none := by
  cases stored : store.get? webhookConfigName <;>
    simp [clientGet, noGetFault, stored, getFailure, APIError.isNotFound]

/-- A CA file that does not read ends registration before any write. -/
theorem selfRegistration_of_unreadable
    {faults : ClientFaults} (noGetFault : faults.get = none)
    {readCertFile : String → Except String Bytes} {wh : WebHook Certificate} {message : String}
    (unreadable : readCertFile wh.certProvider.caCertFile = .error message)
    (webhookConfigName : String) (store : ConfigStore) :
    wh.selfRegistration faults readCertFile webhookConfigName store =
      (store, some (.readCertFile message)) := by
  simp [WebHook.selfRegistration, getFailure_clientGet noGetFault, unreadable]

/-- Past the `Get` and the CA file, registration is the upsert of the webhook built from the file. -/
theorem selfRegistration_of_read
    {faults : ClientFaults} (noGetFault : faults.get = none)
    {readCertFile : String → Except String Bytes} {wh : WebHook Certificate} {caCert : Bytes}
    (read : readCertFile wh.certProvider.caCertFile = .ok caCert)
    (webhookConfigName : String) (store : ConfigStore) :
    wh.selfRegistration faults readCertFile webhookConfigName store =
      upsertWebhooks faults webhookConfigName (clientGet faults store webhookConfigName)
        [registrationWebhook wh.serviceRef caCert] store := by
  simp [WebHook.selfRegistration, getFailure_clientGet noGetFault, read]

/--
A registration succeeds exactly when `Get` does not fail, the CA file reads,
and the write it needs goes through: none when the stored configuration
already lists the webhook, an `Update` when it lists others, a `Create` when
there is none.  It then leaves the webhook built from the CA file under the
configuration's name, and every other configuration as it was.
-/
theorem selfRegistration_registers
    (faults : ClientFaults) (readCertFile : String → Except String Bytes)
    (wh : WebHook Certificate) (webhookConfigName : String) (store : ConfigStore) :
    let registered := wh.selfRegistration faults readCertFile webhookConfigName store
    (registered.2 = none ↔
      faults.get = none ∧ ∃ caCert, readCertFile wh.certProvider.caCertFile = .ok caCert ∧
        match store.get? webhookConfigName with
        | some existing =>
            existing.webhooks = [registrationWebhook wh.serviceRef caCert] ∨
              faults.update = none
        | none => faults.create = none) ∧
      (registered.2 = none →
        ∃ caCert, readCertFile wh.certProvider.caCertFile = .ok caCert ∧
          (∃ config, registered.1.get? webhookConfigName = some config ∧
            config.webhooks = [registrationWebhook wh.serviceRef caCert]) ∧
          ∀ other, other ≠ webhookConfigName → registered.1.get? other = store.get? other) := by
  dsimp only
  cases fault : faults.get with
  | some message =>
      simp [selfRegistration_of_get_fault fault]
  | none =>
      cases read : readCertFile wh.certProvider.caCertFile with
      | error message =>
          simp [selfRegistration_of_unreadable fault read]
      | ok caCert =>
          obtain ⟨succeeds, registers⟩ :=
            upsertWebhooks_clientGet faults webhookConfigName
              [registrationWebhook wh.serviceRef caCert] store fault
          simp only [selfRegistration_of_read fault read, Except.ok.injEq, exists_eq_left',
            true_and]
          exact ⟨succeeds, registers⟩

/-! ### The registered webhook and `mutatePods` -/

/-- The registered webhook is called for pod creations and for nothing else. -/
theorem registrationWebhook_selects
    (serviceRef : ServiceReference) (caCert : Bytes) (operation : String)
    (resource : GroupVersionResource) :
    (registrationWebhook serviceRef caCert).rules.any (·.selects operation resource) = true ↔
      operation = operationCreate ∧ resource = podResource := by
  obtain ⟨group, version, name⟩ := resource
  simp [registrationWebhook, RuleWithOperations.selects, podResource, and_assoc]

/--
Every request the API server sends under the registered webhook's rule is for
core `v1` pods, so `mutatePods` answers it, and allows the pod.
-/
theorem mutatePods_answers_registered
    {App PatchOperation : Type} (util : Util) (config : Config)
    (env : WebhookEnv App PatchOperation) (lister : Lister App) (sparkJobNs : String)
    (serviceRef : ServiceReference) (caCert : Bytes) (operation : String)
    (request : AdmissionRequest)
    (selected :
      (registrationWebhook serviceRef caCert).rules.any (·.selects operation request.resource)) :
    ∃ response,
      mutatePods util config env { request := some request } lister sparkJobNs =
          .ok (some response) ∧
        response.allowed = true := by
  have pods := ((registrationWebhook_selects serviceRef caCert operation _).mp selected).2
  have answered : ∃ response,
      mutatePods util config env { request := some request } lister sparkJobNs =
        .ok (some response) := by
    cases decoded : env.unmarshalPod request.object <;> simp [mutatePods, pods, decoded]
  obtain ⟨response, returned⟩ := answered
  exact ⟨response, returned, (mutatePods_allowed util config env returned).1⟩

/-- The creation of the `spark-pi` driver pod, sent under the registered webhook and answered with a patch. -/
theorem mutatePods_answers_registered_driver_pod :
    (registrationWebhook ⟨"spark", "webhook", some webhookPath⟩ []).rules.any
        (·.selects operationCreate podResource) = true ∧
      ∃ response,
        mutatePods sampleUtil sampleConfig sampleWebhookEnv
            { request := some
                { (default : AdmissionRequest) with resource := podResource, «namespace» := "default" } }
            (fun _ _ => .ok ()) "default" = .ok (some response) ∧
          response.allowed = true := by
  have selected : (registrationWebhook ⟨"spark", "webhook", some webhookPath⟩ []).rules.any
      (·.selects operationCreate podResource) = true := by decide
  exact ⟨selected, mutatePods_answers_registered sampleUtil sampleConfig sampleWebhookEnv
    (fun _ _ => .ok ()) "default" _ _ _
    { (default : AdmissionRequest) with resource := podResource, «namespace» := "default" }
    selected⟩

/-! ### The lifecycle -/

namespace WebHook

/-- A deletion that goes through removes the configuration; one that fails leaves the store. -/
theorem selfDeregistration_eq
    (faults : ClientFaults) (webhookConfigName : String) (store : ConfigStore) :
    selfDeregistration faults webhookConfigName store =
      match faults.delete with
      | some message => (store, some (.failed message))
      | none =>
          if (store.get? webhookConfigName).isSome then (store.erase webhookConfigName, none)
          else (store, some (.notFound webhookConfigName)) := by
  unfold selfDeregistration clientDelete
  cases faults.delete with
  | some message =>
      rfl
  | none =>
      by_cases present : (store.get? webhookConfigName).isSome <;> simp [present]

/--
A `Stop` whose deletion fails returns that error at once: rotation keeps
running, the server keeps serving, and the store is as it was.
-/
theorem stop_of_deregistration_error
    {faults : ClientFaults} {webhookConfigName : String} {store : ConfigStore}
    {err : APIError}
    (failed : (selfDeregistration faults webhookConfigName store).2 = some err)
    (shutdown : Option String) (wh : WebHook Certificate) :
    wh.stop faults shutdown webhookConfigName store = .ok (wh, store, some (.api err)) := by
  unfold stop
  rcases deregistered : selfDeregistration faults webhookConfigName store with
    ⟨deleted, _ | err'⟩
  · simp [deregistered] at failed
  · simp only [deregistered, Option.some.injEq] at failed
    rw [failed]
    rfl

/-- A `Stop` whose deletion goes through stops rotation and shuts the server down. -/
theorem stop_of_deregistered
    {faults : ClientFaults} {webhookConfigName : String} {store : ConfigStore}
    (deleted : (selfDeregistration faults webhookConfigName store).2 = none)
    (shutdown : Option String) (wh : WebHook Certificate) :
    wh.stop faults shutdown webhookConfigName store =
      if wh.certProvider.stopped then .error .closeOfClosedChannel
      else
        .ok ({ wh with
          certProvider := { wh.certProvider with stopped := true }
          rotating := false
          serving := false
          serverClosed := true },
          (selfDeregistration faults webhookConfigName store).1, shutdown.map .shutdown) := by
  unfold stop
  rcases deregistered : selfDeregistration faults webhookConfigName store with
    ⟨deleted', _ | err⟩
  · by_cases stopped : wh.certProvider.stopped <;> simp [providerStep_stop, stopped]
  · simp [deregistered] at deleted

/-- Rotation is stopped exactly when the server was shut down, and neither runs after that. -/
structure Consistent (wh : WebHook Certificate) : Prop where
  stoppedIffClosed : wh.certProvider.stopped = wh.serverClosed
  closedNotServing : wh.serverClosed = true → wh.serving = false
  stoppedNotRotating : wh.certProvider.stopped = true → wh.rotating = false

end WebHook

/-- `New` builds a consistent webhook, neither rotating nor serving. -/
theorem newWebHook_consistent
    {serverCert serverCertKey caCert : String} {certReloadInterval : Int}
    {webhookServiceNamespace webhookServiceName jobNamespace : String}
    {load : Except String Certificate} {wh : WebHook Certificate}
    (built : newWebHook serverCert serverCertKey caCert certReloadInterval
      webhookServiceNamespace webhookServiceName jobNamespace load = .ok (.ok wh)) :
    wh.Consistent := by
  unfold newWebHook newCertProvider at built
  cases load with
  | error err =>
      simp at built
  | ok cert =>
      split_ifs at built
      · simp at built
      · simp only [pure_eq_ok, ok_bind, Except.ok.injEq] at built
        subst built
        exact ⟨rfl, fun _ => rfl, fun _ => rfl⟩

/-- Every step keeps the webhook consistent. -/
theorem webHookStep_consistent
    {webhookConfigName : String} {state state' : WebHook Certificate × ConfigStore}
    {event : WebHookEvent Certificate}
    (consistent : state.1.Consistent)
    (stepped : webHookStep webhookConfigName state event = .ok state') :
    state'.1.Consistent := by
  obtain ⟨stoppedIffClosed, closedNotServing, stoppedNotRotating⟩ := consistent
  cases event with
  | start faults readCertFile =>
      simp only [webHookStep, WebHook.start, pure_eq_ok, Except.ok.injEq] at stepped
      subst stepped
      exact ⟨stoppedIffClosed, by simp +contextual, by simp +contextual⟩
  | stop faults shutdown =>
      cases deregistered : (WebHook.selfDeregistration faults webhookConfigName state.2).2 with
      | some err =>
          simp only [webHookStep, WebHook.stop_of_deregistration_error deregistered, ok_bind,
            pure_eq_ok, Except.ok.injEq] at stepped
          exact stepped ▸ ⟨stoppedIffClosed, closedNotServing, stoppedNotRotating⟩
      | none =>
          by_cases stopped : state.1.certProvider.stopped <;>
            simp only [webHookStep, WebHook.stop_of_deregistered deregistered, stopped,
              if_true, if_false, Bool.false_eq_true, ok_bind, pure_eq_ok, Except.ok.injEq,
              reduceCtorEq, error_bind] at stepped
          exact stepped ▸ ⟨rfl, fun _ => rfl, fun _ => rfl⟩
  | tick reload =>
      obtain ⟨provider, ticked, sameStopped⟩ := providerStep_tick_stopped state.1.certProvider reload
      by_cases rotating : state.1.rotating <;>
        simp only [webHookStep, rotating, ticked, if_true, if_false, Bool.false_eq_true, ok_bind,
          pure_eq_ok, Except.ok.injEq] at stepped <;> subst stepped
      · exact ⟨sameStopped.trans stoppedIffClosed, closedNotServing,
          fun stopped => absurd rotating (by simp [stoppedNotRotating (sameStopped ▸ stopped)])⟩
      · exact ⟨stoppedIffClosed, closedNotServing, stoppedNotRotating⟩

/-- What every step keeps, every run that does not panic keeps. -/
theorem webHookRun_invariant
    {webhookConfigName : String} (invariant : WebHook Certificate × ConfigStore → Prop)
    (preserved : ∀ {state state' : WebHook Certificate × ConfigStore}
      {event : WebHookEvent Certificate},
      invariant state → webHookStep webhookConfigName state event = .ok state' →
        invariant state')
    (events : List (WebHookEvent Certificate))
    {state state' : WebHook Certificate × ConfigStore}
    (holds : invariant state)
    (ran : webHookRun webhookConfigName state events = .ok state') :
    invariant state' := by
  induction events generalizing state with
  | nil =>
      cases ran
      exact holds
  | cons event rest inductionHypothesis =>
      cases stepped : webHookStep webhookConfigName state event with
      | error panic =>
          simp [webHookRun, stepped] at ran
      | ok next =>
          simp only [webHookRun, stepped, ok_bind] at ran
          exact inductionHypothesis (preserved holds stepped) ran

/-- Every run keeps the webhook consistent. -/
theorem webHookRun_consistent
    {webhookConfigName : String} (events : List (WebHookEvent Certificate))
    {state state' : WebHook Certificate × ConfigStore}
    (consistent : state.1.Consistent)
    (ran : webHookRun webhookConfigName state events = .ok state') :
    state'.1.Consistent :=
  webHookRun_invariant (fun state => state.1.Consistent) webHookStep_consistent events
    consistent ran

/--
Every state a run reaches from what `New` builds is consistent: rotation is
stopped exactly when the server was shut down, and neither runs after that.
-/
theorem newWebHook_runs_consistent
    {serverCert serverCertKey caCert : String} {certReloadInterval : Int}
    {webhookServiceNamespace webhookServiceName jobNamespace : String}
    {load : Except String Certificate} {wh : WebHook Certificate}
    (built : newWebHook serverCert serverCertKey caCert certReloadInterval
      webhookServiceNamespace webhookServiceName jobNamespace load = .ok (.ok wh))
    (webhookConfigName : String) (store : ConfigStore)
    (events : List (WebHookEvent Certificate)) {state' : WebHook Certificate × ConfigStore}
    (ran : webHookRun webhookConfigName (wh, store) events = .ok state') :
    state'.1.Consistent :=
  webHookRun_consistent events (newWebHook_consistent built) ran

/-- The invariant on a `Start`, a tick and a `Stop` after `New`, with no client fault. -/
theorem newWebHook_runs_consistent_start_tick_stop :
    ∃ wh state', newWebHook "tls.crt" "tls.key" "ca.crt" 1 "spark" "webhook" "" (.ok ()) =
        .ok (.ok wh) ∧
      webHookRun webhookName (wh, ConfigStore.empty)
          [.start ⟨none, none, none, none⟩ (fun _ => .ok []), .tick (.ok ()),
            .stop ⟨none, none, none, none⟩ none] = .ok state' ∧
      state'.1.Consistent := by
  have built : newWebHook "tls.crt" "tls.key" "ca.crt" 1 "spark" "webhook" "" (.ok ()) =
      .ok (.ok _) := rfl
  exact ⟨_, _, built, rfl, newWebHook_runs_consistent built webhookName ConfigStore.empty
    [.start ⟨none, none, none, none⟩ (fun _ => .ok []), .tick (.ok ()),
      .stop ⟨none, none, none, none⟩ none] rfl⟩

/--
A step panics exactly at a `Stop` whose deletion goes through after rotation
was stopped: `close` of the closed stop channel.
-/
theorem webHookStep_panics_iff
    (webhookConfigName : String) (wh : WebHook Certificate) (store : ConfigStore)
    (event : WebHookEvent Certificate) (panic : RuntimePanic) :
    webHookStep webhookConfigName (wh, store) event = .error panic ↔
      panic = .closeOfClosedChannel ∧ wh.certProvider.stopped = true ∧
        ∃ faults shutdown, event = .stop faults shutdown ∧
          (WebHook.selfDeregistration faults webhookConfigName store).2 = none := by
  cases event with
  | start faults readCertFile =>
      simp [webHookStep]
  | stop faults shutdown =>
      cases deregistered : (WebHook.selfDeregistration faults webhookConfigName store).2 with
      | some err =>
          simp [webHookStep, WebHook.stop_of_deregistration_error deregistered, deregistered]
      | none =>
          by_cases stopped : wh.certProvider.stopped <;>
            simp [webHookStep, WebHook.stop_of_deregistered deregistered, stopped, deregistered,
              eq_comm]
  | tick reload =>
      obtain ⟨provider, ticked, -⟩ := providerStep_tick_stopped wh.certProvider reload
      by_cases rotating : wh.rotating <;> simp [webHookStep, rotating, ticked]

/-- A webhook as `New`, `Start` and a `Stop` that went through leave it. -/
def stoppedWebHook : WebHook Unit where
  certProvider := ⟨"tls.crt", "tls.key", "ca.crt", 1, some (), true⟩
  serviceRef := ⟨"spark", "webhook", some webhookPath⟩
  sparkJobNamespace := ""
  rotating := false
  serving := false
  serverClosed := true

/--
Once a `Stop` went through, no run without `Start` panics or changes
anything: each later `Stop` fails to delete the configuration it already
deleted, and ticks find rotation stopped.
-/
theorem webHookRun_without_start_after_stop
    {wh : WebHook Certificate} {store : ConfigStore} {webhookConfigName : String}
    (consistent : wh.Consistent) (stopped : wh.certProvider.stopped = true)
    (deregistered : store.get? webhookConfigName = none)
    (events : List (WebHookEvent Certificate))
    (noStart : ∀ event ∈ events, event.isStart = false) :
    webHookRun webhookConfigName (wh, store) events = .ok (wh, store) := by
  induction events with
  | nil =>
      rfl
  | cons event rest inductionHypothesis =>
      have unchanged : webHookStep webhookConfigName (wh, store) event = .ok (wh, store) := by
        cases event with
        | start faults readCertFile =>
            simp [WebHookEvent.isStart] at noStart
        | stop faults shutdown =>
            obtain ⟨err, failed⟩ : ∃ err,
                (WebHook.selfDeregistration faults webhookConfigName store).2 = some err := by
              rw [WebHook.selfDeregistration_eq]
              cases faults.delete <;> simp [deregistered]
            simp [webHookStep, WebHook.stop_of_deregistration_error failed]
        | tick reload =>
            simp [webHookStep, consistent.stoppedNotRotating stopped]
      simp only [webHookRun, unchanged, ok_bind]
      exact inductionHypothesis fun event member => noStart event (List.mem_cons_of_mem _ member)

/-- A stopped webhook whose configuration is gone, stopped again and ticked, is unchanged. -/
theorem webHookRun_without_start_after_stop_stop_tick :
    stoppedWebHook.Consistent ∧ stoppedWebHook.certProvider.stopped = true ∧
      ConfigStore.empty.get? webhookName = none ∧
      (∀ event ∈ ([.stop ⟨none, none, none, none⟩ none, .tick (.ok ())] :
        List (WebHookEvent Unit)), event.isStart = false) ∧
      webHookRun webhookName (stoppedWebHook, ConfigStore.empty)
          [.stop ⟨none, none, none, none⟩ none, .tick (.ok ())] =
        .ok (stoppedWebHook, ConfigStore.empty) := by
  have consistent : stoppedWebHook.Consistent := ⟨rfl, fun _ => rfl, fun _ => rfl⟩
  have noStart : ∀ event ∈ ([.stop ⟨none, none, none, none⟩ none, .tick (.ok ())] :
      List (WebHookEvent Unit)), event.isStart = false := by decide
  have deregistered : ConfigStore.empty.get? webhookName = none := rfl
  exact ⟨consistent, rfl, deregistered, noStart,
    webHookRun_without_start_after_stop consistent rfl deregistered _ noStart⟩

/--
`Start` after a `Stop` registers again but cannot restart rotation, so a
following `Stop` whose deletion goes through panics on the closed channel.
-/
theorem webHookRun_restart_stop_panics
    {wh : WebHook Certificate} (stopped : wh.certProvider.stopped = true)
    {faults : ClientFaults} {readCertFile : String → Except String Bytes}
    {webhookConfigName : String} {store : ConfigStore}
    (registered : (wh.selfRegistration faults readCertFile webhookConfigName store).2 = none)
    {faults' : ClientFaults} (deletes : faults'.delete = none) (shutdown : Option String) :
    webHookRun webhookConfigName (wh, store)
        [.start faults readCertFile, .stop faults' shutdown] =
      .error .closeOfClosedChannel := by
  obtain ⟨-, -, ⟨config, present, -⟩, -⟩ :=
    (selfRegistration_registers faults readCertFile wh webhookConfigName store).2 registered
  have deleted : (WebHook.selfDeregistration faults' webhookConfigName
      (wh.selfRegistration faults readCertFile webhookConfigName store).1).2 = none := by
    simp [WebHook.selfDeregistration_eq, deletes, present]
  -- `Start` cannot restart rotation, so the `Stop` after it closes the closed channel.
  have started : webHookStep webhookConfigName (wh, store) (.start faults readCertFile) =
      .ok ({ wh with rotating := !wh.certProvider.stopped, serving := !wh.serverClosed },
        (wh.selfRegistration faults readCertFile webhookConfigName store).1) :=
    rfl
  have panics := (webHookStep_panics_iff webhookConfigName
    { wh with rotating := !wh.certProvider.stopped, serving := !wh.serverClosed } _
    (.stop faults' shutdown) .closeOfClosedChannel).mpr ⟨rfl, stopped, faults', shutdown, rfl, deleted⟩
  simp only [webHookRun, started, ok_bind, bind_pure, panics]

/-- With no client fault, `Start` then `Stop` on a stopped webhook panics. -/
theorem webHookRun_restart_stop_panics_no_faults :
    stoppedWebHook.certProvider.stopped = true ∧
      (stoppedWebHook.selfRegistration ⟨none, none, none, none⟩ (fun _ => .ok []) webhookName
        ConfigStore.empty).2 = none ∧
      (⟨none, none, none, none⟩ : ClientFaults).delete = none ∧
      webHookRun webhookName (stoppedWebHook, ConfigStore.empty)
          [.start ⟨none, none, none, none⟩ (fun _ => .ok []), .stop ⟨none, none, none, none⟩ none] =
        .error .closeOfClosedChannel := by
  have stopped : stoppedWebHook.certProvider.stopped = true := rfl
  have registered : (stoppedWebHook.selfRegistration ⟨none, none, none, none⟩ (fun _ => .ok [])
      webhookName ConfigStore.empty).2 = none := rfl
  have deletes : (⟨none, none, none, none⟩ : ClientFaults).delete = none := rfl
  exact ⟨stopped, registered, deletes,
    webHookRun_restart_stop_panics stopped registered deletes none⟩

/--
`Start` then `Stop`, both going through, leave every other configuration as
it was and remove the one named `webhookConfigName`, also when it existed
before `Start` with other webhooks in it: `Start` replaces its webhooks, and
`Stop` deletes the whole configuration.
-/
theorem webHookRun_start_stop_erases
    {wh : WebHook Certificate} (running : wh.certProvider.stopped = false)
    {faults : ClientFaults} {readCertFile : String → Except String Bytes}
    {webhookConfigName : String} {store : ConfigStore}
    (registered : (wh.selfRegistration faults readCertFile webhookConfigName store).2 = none)
    {faults' : ClientFaults} (deletes : faults'.delete = none) (shutdown : Option String) :
    ∃ wh' store',
      webHookRun webhookConfigName (wh, store)
          [.start faults readCertFile, .stop faults' shutdown] = .ok (wh', store') ∧
        ∀ name, store'.get? name =
          if name = webhookConfigName then none else store.get? name := by
  obtain ⟨-, -, ⟨config, present, -⟩, others⟩ :=
    (selfRegistration_registers faults readCertFile wh webhookConfigName store).2 registered
  have erased : WebHook.selfDeregistration faults' webhookConfigName
      (wh.selfRegistration faults readCertFile webhookConfigName store).1 =
      ((wh.selfRegistration faults readCertFile webhookConfigName store).1.erase
        webhookConfigName, none) := by
    simp [WebHook.selfDeregistration_eq, deletes, present]
  simp [webHookRun, webHookStep, WebHook.start,
    WebHook.stop_of_deregistered (congrArg Prod.snd erased), running, erased]
  refine ⟨_, _, ⟨rfl, rfl⟩, fun name => ?_⟩
  rw [ConfigStore.get?_erase]
  split_ifs with same
  · rfl
  · exact others name same

/-- A configuration that held another webhook before `Start` is gone after `Stop`. -/
theorem webHookRun_start_stop_erases_shared :
    let wh : WebHook Unit :=
      { stoppedWebHook with
        certProvider := ⟨"tls.crt", "tls.key", "ca.crt", 1, some (), false⟩
        serverClosed := false }
    let shared : MutatingWebhookConfiguration :=
      ⟨⟨"spark-webhook-config"⟩,
        [{ registrationWebhook ⟨"other", "webhook", none⟩ [] with name := "other.k8s.io" }]⟩
    let store := ConfigStore.empty.put shared
    wh.certProvider.stopped = false ∧
      (wh.selfRegistration ⟨none, none, none, none⟩ (fun _ => .ok []) "spark-webhook-config"
        store).2 = none ∧
      (⟨none, none, none, none⟩ : ClientFaults).delete = none ∧
      ∃ wh' store',
        webHookRun "spark-webhook-config" (wh, store)
            [.start ⟨none, none, none, none⟩ (fun _ => .ok []),
              .stop ⟨none, none, none, none⟩ none] = .ok (wh', store') ∧
          ∀ name, store'.get? name =
            if name = "spark-webhook-config" then none else store.get? name := by
  intro wh shared store
  have running : wh.certProvider.stopped = false := rfl
  have registered : (wh.selfRegistration ⟨none, none, none, none⟩ (fun _ => .ok [])
      "spark-webhook-config" store).2 = none := rfl
  have deletes : (⟨none, none, none, none⟩ : ClientFaults).delete = none := rfl
  exact ⟨running, registered, deletes,
    webHookRun_start_stop_erases running registered deletes none⟩

/-- Rotation once stopped stays stopped: `Start` leaves the provider alone, and ticks keep its flag. -/
theorem webHookStep_stopped
    {webhookConfigName : String} {state state' : WebHook Certificate × ConfigStore}
    {event : WebHookEvent Certificate}
    (stopped : state.1.certProvider.stopped = true)
    (stepped : webHookStep webhookConfigName state event = .ok state') :
    state'.1.certProvider.stopped = true := by
  cases event with
  | start faults readCertFile =>
      simp only [webHookStep, WebHook.start, pure_eq_ok, Except.ok.injEq] at stepped
      exact stepped ▸ stopped
  | stop faults shutdown =>
      cases deregistered : (WebHook.selfDeregistration faults webhookConfigName state.2).2 with
      | some err =>
          simp only [webHookStep, WebHook.stop_of_deregistration_error deregistered, ok_bind,
            pure_eq_ok, Except.ok.injEq] at stepped
          exact stepped ▸ stopped
      | none =>
          simp [webHookStep, WebHook.stop_of_deregistered deregistered, stopped] at stepped
  | tick reload =>
      obtain ⟨provider, ticked, sameStopped⟩ :=
        providerStep_tick_stopped state.1.certProvider reload
      by_cases rotating : state.1.rotating <;>
        simp only [webHookStep, rotating, ticked, if_true, if_false, Bool.false_eq_true, ok_bind,
          pure_eq_ok, Except.ok.injEq] at stepped <;> subst stepped
      · exact sameStopped.trans stopped
      · exact stopped

/--
After a `Stop` has gone through, no run brings the webhook back: whatever
`Start` calls and ticks follow, every later state has rotation stopped, no
rotation and no server.
-/
theorem webHookRun_stays_down_after_stop
    {webhookConfigName : String} {wh : WebHook Certificate} {store : ConfigStore}
    (consistent : wh.Consistent) (stopped : wh.certProvider.stopped = true)
    (events : List (WebHookEvent Certificate)) {state' : WebHook Certificate × ConfigStore}
    (ran : webHookRun webhookConfigName (wh, store) events = .ok state') :
    state'.1.certProvider.stopped = true ∧ state'.1.rotating = false ∧
      state'.1.serving = false := by
  have consistent' := webHookRun_consistent events consistent ran
  have stopped' : state'.1.certProvider.stopped = true :=
    webHookRun_invariant (fun state => state.1.certProvider.stopped = true) webHookStep_stopped
      events stopped ran
  exact ⟨stopped', consistent'.stoppedNotRotating stopped',
    consistent'.closedNotServing (consistent'.stoppedIffClosed.symm.trans stopped')⟩

/-- A stopped webhook that is started again and ticked stays down. -/
theorem webHookRun_stays_down_after_stop_restarted :
    ∃ state', stoppedWebHook.Consistent ∧ stoppedWebHook.certProvider.stopped = true ∧
      webHookRun webhookName (stoppedWebHook, ConfigStore.empty)
          [.start ⟨none, none, none, none⟩ (fun _ => .ok []), .tick (.ok ())] = .ok state' ∧
      state'.1.certProvider.stopped = true ∧ state'.1.rotating = false ∧
        state'.1.serving = false := by
  have consistent : stoppedWebHook.Consistent := ⟨rfl, fun _ => rfl, fun _ => rfl⟩
  have ran : webHookRun webhookName (stoppedWebHook, ConfigStore.empty)
      [.start ⟨none, none, none, none⟩ (fun _ => .ok []), .tick (.ok ())] = .ok _ := rfl
  exact ⟨_, consistent, rfl, ran, webHookRun_stays_down_after_stop consistent rfl _ ran⟩

end SparkOperator
