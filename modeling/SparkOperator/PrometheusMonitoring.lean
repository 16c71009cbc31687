import SparkOperator.Go

namespace SparkOperator

/-!
# Prometheus monitoring of an application

`configPrometheusMonitoring` makes the agent's configuration available (a file
in the image, or the ConfigMap of `buildPrometheusConfigMap` written under
`retry.RetryOnConflict`), then points `SparkConf` at the metrics configuration
and, for each exposed role, sets the scrape annotations and appends the agent
to the role's `JavaOptions` through its pointer.  A nil `JavaOptions` is
pointed at the local `javaOption`, so two roles that had none come out as one
pointer, which `javaOptionsPointers` follows.  An error leaves the application
as it was (`configPrometheusMonitoring_frame`), and a second call is not
idempotent (`configPrometheusMonitoring_reapplied`).
-/

/-- `metricsPropertiesKey`. -/
def metricsPropertiesKey : String :=
  "metrics.properties"

/-- `prometheusConfigKey`. -/
def prometheusConfigKey : String :=
  "prometheus.yaml"

/-- `prometheusScrapeAnnotation`. -/
def prometheusScrapeAnnotation : String :=
  "prometheus.io/scrape"

/-- `prometheusPortAnnotation`. -/
def prometheusPortAnnotation : String :=
  "prometheus.io/port"

/-- `prometheusPathAnnotation`. -/
def prometheusPathAnnotation : String :=
  "prometheus.io/path"

/-- The part of `v1beta2.PrometheusSpec` that the function reads. -/
structure PrometheusSpec where
  jmxExporterJar : String
  port : Option Int
  configFile : Option String
  configuration : Option String
  deriving DecidableEq

/-- The part of `v1beta2.MonitoringSpec` that the function reads. -/
structure MonitoringSpec where
  exposeDriverMetrics : Bool
  exposeExecutorMetrics : Bool
  metricsProperties : Option String
  prometheus : Option PrometheusSpec
  deriving DecidableEq

/-- The part of `v1beta2.SparkPodSpec` (a driver or an executor) that the function writes. -/
structure SparkPodSpec (Rest : Type) where
  annotations : Option (GoMap String String)
  javaOptions : Option String
  rest : Rest
  deriving DecidableEq

/-- The part of `v1beta2.SparkApplicationSpec` that the function reads and writes. -/
structure SparkApplicationSpec (Driver Executor Rest : Type) where
  sparkConf : Option (GoMap String String)
  driver : SparkPodSpec Driver
  executor : SparkPodSpec Executor
  /-- Whether `Driver.JavaOptions` and `Executor.JavaOptions` are one pointer. -/
  javaOptionsShared : Bool
  monitoring : Option MonitoringSpec
  rest : Rest
  deriving DecidableEq

/-- A `v1beta2.SparkApplication`: its name, namespace and spec; `rest` is the remaining metadata and the status. -/
structure MonitoredApplication (Driver Executor Spec Rest : Type) where
  «namespace» : String
  name : String
  spec : SparkApplicationSpec Driver Executor Spec
  rest : Rest
  deriving DecidableEq

/-- The part of `corev1.ConfigMap` the function builds or updates. -/
structure ConfigMap where
  name : String
  «namespace» : String
  data : GoMap String String
  deriving DecidableEq

/-- An API error, by the reasons `apiErrors.IsNotFound` and `apiErrors.IsConflict` tell apart. -/
inductive StatusError where
  | notFound
  | conflict
  | other (message : String)
  deriving DecidableEq

/-- A call of the client inside the retry loop. -/
inductive ConfigMapRequest where
  | get («namespace» name : String)
  | create (configMap : ConfigMap)
  | update (configMap : ConfigMap)
  deriving DecidableEq

/-- What one run of the retried closure did: its calls, its error and the next call number. -/
structure AttemptResult where
  requests : List ConfigMapRequest
  error : Option StatusError
  nextCall : Nat

/-- What `retry.RetryOnConflict` returns: the calls of all its runs and the last run's error. -/
structure RetryResult where
  requests : List ConfigMapRequest
  error : Option StatusError

/-- What `configPrometheusMonitoring` takes from outside the excerpt. -/
structure MonitoringEnv (App : Type) where
  /-- `config.DefaultPrometheusJavaAgentPort`. -/
  defaultPrometheusJavaAgentPort : Int
  /-- `config.PrometheusConfigMapMountPath`. -/
  prometheusConfigMapMountPath : String
  /-- `config.DefaultMetricsProperties`. -/
  defaultMetricsProperties : String
  /-- `config.DefaultPrometheusConfiguration`. -/
  defaultPrometheusConfiguration : String
  /-- `config.GetPrometheusConfigMapName`. -/
  getPrometheusConfigMapName : App → String
  /-- `app.HasPrometheusConfigFile()`. -/
  hasPrometheusConfigFile : App → Bool
  /-- `retry.RetryOnConflict(retry.DefaultRetry, fn)`, given what a run of `fn` does from each call number on. -/
  retryOnConflict : (Nat → AttemptResult) → RetryResult

/-- The error `configPrometheusMonitoring` returns: `failed to apply <name> in namespace <namespace>: <retryErr>`. -/
structure ApplyError where
  configMapName : String
  «namespace» : String
  cause : StatusError
  deriving DecidableEq

section

variable {Driver Executor Spec Rest : Type}

/-- The application type the function works on. -/
abbrev App (Driver Executor Spec Rest : Type) :=
  MonitoredApplication Driver Executor Spec Rest

/-- The error of a reply to `Create` or `Update`, which the closure returns as it is. -/
def replyError : Except StatusError ConfigMap → Option StatusError
  | .error err => some err
  | .ok _ => none

/--
One run of the closure given to `retry.RetryOnConflict`, its calls answered by
`reply` from call number `call` on: `Get`; on `NotFound`, `Create`; on another
error, that error; otherwise `Update` of the stored object with the new data.
-/
def upsertConfigMap
    («namespace» configMapName : String) (configMap : ConfigMap)
    (reply : Nat → Except StatusError ConfigMap) (call : Nat) : AttemptResult :=
  let get := ConfigMapRequest.get «namespace» configMapName
  match reply call with
  | .error .notFound =>
    ⟨[get, .create configMap], replyError (reply (call + 1)), call + 2⟩
  | .error err => ⟨[get], some err, call + 1⟩
  | .ok stored =>
    let updated := { stored with data := configMap.data }
    ⟨[get, .update updated], replyError (reply (call + 1)), call + 2⟩

/-- `buildPrometheusConfigMap`: the two configuration files, each the application's own or the default. -/
def buildPrometheusConfigMap
    (env : MonitoringEnv (App Driver Executor Spec Rest))
    (app : App Driver Executor Spec Rest) (prometheusConfigMapName : String) :
    Except RuntimePanic ConfigMap := do
  let monitoring ← deref app.spec.monitoring
  let prometheus ← deref monitoring.prometheus
  let metricsProperties := monitoring.metricsProperties.getD env.defaultMetricsProperties
  let prometheusConfig := prometheus.configuration.getD env.defaultPrometheusConfiguration
  pure {
    name := prometheusConfigMapName
    «namespace» := app.namespace
    data := (GoMap.empty.set metricsPropertiesKey metricsProperties).set
      prometheusConfigKey prometheusConfig }

/-- The option `-javaagent:<jar>=<port>:<config>` of both `fmt.Sprintf` calls. -/
def javaAgentOption (jmxExporterJar : String) (port : Int) (config : String) : String :=
  "-javaagent:" ++ jmxExporterJar ++ "=" ++ toString port ++ ":" ++ config

/-- The three scrape annotations of an exposed role, over the role's own. -/
def annotateRole {R : Type} (port : Int) (role : SparkPodSpec R) : SparkPodSpec R :=
  { role with
    annotations := some ((((role.annotations.getD GoMap.empty).set
      prometheusScrapeAnnotation "true").set
      prometheusPortAnnotation (toString port)).set
      prometheusPathAnnotation "/metrics") }

/-- The strings the `JavaOptions` pointers can point to during a call: each role's own, and the local `javaOption`. -/
inductive OptionsCell where
  | driver
  | executor
  | javaOption
  deriving DecidableEq

/-- The two roles' `JavaOptions` pointers during a call, and the strings behind them. -/
structure JavaOptionsPointers where
  driver : Option OptionsCell
  executor : Option OptionsCell
  cells : OptionsCell → String

/-- The pointers as a call finds them: each role's own string, or one string when they are one pointer. -/
def javaOptionsPointers {Driver Executor Rest : Type}
    (spec : SparkApplicationSpec Driver Executor Rest) (javaOption : String) :
    JavaOptionsPointers where
  driver := spec.driver.javaOptions.map fun _ => .driver
  executor :=
    if spec.javaOptionsShared then spec.driver.javaOptions.map fun _ => .driver
    else spec.executor.javaOptions.map fun _ => .executor
  cells
    | .driver => spec.driver.javaOptions.getD ""
    | .executor => spec.executor.javaOptions.getD ""
    | .javaOption => javaOption

/--
One role's block on its pointer `p`:
`if p == nil { p = &javaOption } else { *p = *p + " " + javaOption }`.
-/
def appendJavaOption (cells : OptionsCell → String) :
    Option OptionsCell → Option OptionsCell × (OptionsCell → String)
  | none => (some .javaOption, cells)
  | some cell => (some cell, Function.update cells cell (cells cell ++ " " ++ cells .javaOption))

/--
The writes after the branch: the two metrics entries of `SparkConf`, then the
driver's block and the executor's, each setting the annotations and then
pointing a nil `JavaOptions` at `javaOption` or appending through it.
-/
def exposeMetrics
    (prometheusConfigMapMountPath : String) (monitoring : MonitoringSpec)
    (port : Int) (javaOption : String) (app : App Driver Executor Spec Rest) :
    App Driver Executor Spec Rest :=
  let sparkConf := ((app.spec.sparkConf.getD GoMap.empty).set
    "spark.metrics.namespace" (app.namespace ++ "." ++ app.name)).set
    "spark.metrics.conf" (prometheusConfigMapMountPath ++ "/" ++ metricsPropertiesKey)
  let found := javaOptionsPointers app.spec javaOption
  let driver := if monitoring.exposeDriverMetrics then appendJavaOption found.cells found.driver
    else (found.driver, found.cells)
  let executor := if monitoring.exposeExecutorMetrics then appendJavaOption driver.2 found.executor
    else (found.executor, driver.2)
  { app with
    spec := { app.spec with
      sparkConf := some sparkConf
      driver := { (if monitoring.exposeDriverMetrics then annotateRole port app.spec.driver
        else app.spec.driver) with javaOptions := driver.1.map executor.2 }
      executor := { (if monitoring.exposeExecutorMetrics then annotateRole port app.spec.executor
        else app.spec.executor) with javaOptions := executor.1.map executor.2 }
      javaOptionsShared := driver.1.isSome && decide (driver.1 = executor.1) } }

/--
`configPrometheusMonitoring`: the application as the function leaves it, the
client calls it made, and the error it returns.  A nil `Monitoring` or
`Prometheus`, or a config file reported but nil, panics.
-/
def configPrometheusMonitoring
    (env : MonitoringEnv (App Driver Executor Spec Rest))
    (reply : Nat → Except StatusError ConfigMap) (app : App Driver Executor Spec Rest) :
    Except RuntimePanic
      (App Driver Executor Spec Rest × List ConfigMapRequest × Option ApplyError) := do
  let monitoring ← deref app.spec.monitoring
  let prometheus ← deref monitoring.prometheus
  let port := prometheus.port.getD env.defaultPrometheusJavaAgentPort
  if env.hasPrometheusConfigFile app then
    let configFile ← deref prometheus.configFile
    let javaOption := javaAgentOption prometheus.jmxExporterJar port configFile
    pure (exposeMetrics env.prometheusConfigMapMountPath monitoring port javaOption app, [], none)
  else
    let configMapName := env.getPrometheusConfigMapName app
    let configMap ← buildPrometheusConfigMap env app configMapName
    let retried := env.retryOnConflict (upsertConfigMap app.namespace configMapName configMap reply)
    match retried.error with
    | some retryErr => pure (app, retried.requests, some ⟨configMapName, app.namespace, retryErr⟩)
    | none =>
      let javaOption := javaAgentOption prometheus.jmxExporterJar port
        (env.prometheusConfigMapMountPath ++ "/" ++ prometheusConfigKey)
      pure (exposeMetrics env.prometheusConfigMapMountPath monitoring port javaOption app,
        retried.requests, none)

/-- The three scrape annotations are distinct keys. -/
theorem scrapeAnnotations_distinct :
    prometheusScrapeAnnotation ≠ prometheusPortAnnotation ∧
      prometheusScrapeAnnotation ≠ prometheusPathAnnotation ∧
      prometheusPortAnnotation ≠ prometheusPathAnnotation := by
  decide

/-- `annotateRole` sets the three scrape annotations over the role's own. -/
theorem annotateRole_annotations {R : Type} (port : Int) (role : SparkPodSpec R) (key : String) :
    GoMap.index? (annotateRole port role).annotations key =
      if key = prometheusScrapeAnnotation then some "true"
      else if key = prometheusPortAnnotation then some (toString port)
      else if key = prometheusPathAnnotation then some "/metrics"
      else GoMap.index? role.annotations key := by
  obtain ⟨scrapePort, scrapePath, portPath⟩ := scrapeAnnotations_distinct
  simp only [annotateRole, GoMap.index?_some, GoMap.get?_set, GoMap.get?_getD_empty]
  by_cases isPath : key = prometheusPathAnnotation
  · subst isPath
    simp [scrapePath.symm, portPath.symm]
  · by_cases isPort : key = prometheusPortAnnotation
    · subst isPort
      simp [scrapePort.symm, portPath]
    · simp [isPath, isPort]

/-- Annotating a role does not read its options. -/
@[simp] theorem annotateRole_with_javaOptions {R : Type} (port : Int) (role : SparkPodSpec R)
    (options : Option String) :
    annotateRole port { role with javaOptions := options } =
      { annotateRole port role with javaOptions := options } :=
  rfl

/-- Annotating a role again sets the values it already has. -/
theorem annotateRole_annotateRole {R : Type} (port : Int) (role : SparkPodSpec R) :
    annotateRole port (annotateRole port role) = annotateRole port role := by
  obtain ⟨scrapePort, scrapePath, portPath⟩ := scrapeAnnotations_distinct
  have scrape := annotateRole_annotations port role prometheusScrapeAnnotation
  have portSet := annotateRole_annotations port role prometheusPortAnnotation
  have pathSet := annotateRole_annotations port role prometheusPathAnnotation
  simp only [if_true, scrapePort.symm, scrapePath.symm, portPath.symm, if_false, annotateRole,
    GoMap.index?_some] at scrape portSet pathSet
  simp only [annotateRole, Option.getD_some, GoMap.set_of_get? scrape, GoMap.set_of_get? portSet,
    GoMap.set_of_get? pathSet]

/-- A role whose metrics are already exposed, exposed again: when exposed, the agent is appended once more. -/
def reexposeRole {R : Type} (exposed : Bool) (javaOption : String) (role : SparkPodSpec R) :
    SparkPodSpec R :=
  if exposed then { role with javaOptions := role.javaOptions.map (· ++ " " ++ javaOption) }
  else role

/--
Exposing an application's metrics again, from distinct pointers, changes only
the Java options: each exposed role gets the agent once more, except when the
first exposure made the two roles one pointer (both were nil, both exposed),
where both appends go through it and both roles read the agent three times.
SparkConf and the annotations are set to the values they already hold.
-/
theorem exposeMetrics_exposeMetrics
    (prometheusConfigMapMountPath : String) (monitoring : MonitoringSpec)
    (port : Int) (javaOption : String) {app : App Driver Executor Spec Rest}
    (distinct : app.spec.javaOptionsShared = false) :
    let exposed := exposeMetrics prometheusConfigMapMountPath monitoring port javaOption app
    exposeMetrics prometheusConfigMapMountPath monitoring port javaOption exposed =
      if monitoring.exposeDriverMetrics && monitoring.exposeExecutorMetrics &&
          app.spec.driver.javaOptions.isNone && app.spec.executor.javaOptions.isNone then
        { exposed with
          spec := { exposed.spec with
            driver := { exposed.spec.driver with
              javaOptions := some (javaOption ++ " " ++ javaOption ++ " " ++ javaOption) }
            executor := { exposed.spec.executor with
              javaOptions := some (javaOption ++ " " ++ javaOption ++ " " ++ javaOption) } } }
      else
        { exposed with
          spec := { exposed.spec with
            driver := reexposeRole monitoring.exposeDriverMetrics javaOption exposed.spec.driver
            executor := reexposeRole monitoring.exposeExecutorMetrics javaOption
              exposed.spec.executor } } := by
  dsimp only
  cases driverExposed : monitoring.exposeDriverMetrics <;>
    cases executorExposed : monitoring.exposeExecutorMetrics <;>
    cases driverOptions : app.spec.driver.javaOptions <;>
    cases executorOptions : app.spec.executor.javaOptions <;>
    simp [exposeMetrics, javaOptionsPointers, appendJavaOption, distinct, Function.update,
      driverExposed, executorExposed, driverOptions, executorOptions, GoMap.set_of_get?,
      annotateRole_annotateRole, reexposeRole]

/-- The file the agent reads its configuration from: the image's own when there is one, else the mounted ConfigMap's. -/
def AgentConfigFor
    (env : MonitoringEnv (App Driver Executor Spec Rest)) (app : App Driver Executor Spec Rest)
    (prometheus : PrometheusSpec) (agentConfig : String) : Prop :=
  if env.hasPrometheusConfigFile app then prometheus.configFile = some agentConfig
  else agentConfig = env.prometheusConfigMapMountPath ++ "/" ++ prometheusConfigKey

/-- Two applications that agree on having a config file in the image start the agent on the same file. -/
theorem agentConfigFor_unique
    {env : MonitoringEnv (App Driver Executor Spec Rest)} {app app' : App Driver Executor Spec Rest}
    {prometheus : PrometheusSpec} {agentConfig agentConfig' : String}
    (sameFile : env.hasPrometheusConfigFile app' = env.hasPrometheusConfigFile app)
    (configured : AgentConfigFor env app prometheus agentConfig)
    (configured' : AgentConfigFor env app' prometheus agentConfig') :
    agentConfig' = agentConfig := by
  unfold AgentConfigFor at configured configured'
  rw [sameFile] at configured'
  split_ifs at configured configured'
  · exact Option.some.inj (configured'.symm.trans configured)
  · exact configured'.trans configured.symm

/--
How `configPrometheusMonitoring` returns, once `Monitoring` and `Prometheus`
are read: with the retry loop's error, naming the ConfigMap, and the
application as it was; or with no error and the metrics exposed.
-/
theorem configPrometheusMonitoring_returns
    {env : MonitoringEnv (App Driver Executor Spec Rest)}
    {reply : Nat → Except StatusError ConfigMap} {app app' : App Driver Executor Spec Rest}
    {requests : List ConfigMapRequest} {err : Option ApplyError}
    (returned : configPrometheusMonitoring env reply app = .ok (app', requests, err)) :
    ∃ monitoring prometheus,
      app.spec.monitoring = some monitoring ∧ monitoring.prometheus = some prometheus ∧
      ((∃ cause, err = some ⟨env.getPrometheusConfigMapName app, app.namespace, cause⟩ ∧
          app' = app) ∨
        err = none ∧ ∃ agentConfig, AgentConfigFor env app prometheus agentConfig ∧
          app' = exposeMetrics env.prometheusConfigMapMountPath monitoring
            (prometheus.port.getD env.defaultPrometheusJavaAgentPort)
            (javaAgentOption prometheus.jmxExporterJar
              (prometheus.port.getD env.defaultPrometheusJavaAgentPort) agentConfig) app) := by
  unfold configPrometheusMonitoring at returned
  cases monitored : app.spec.monitoring with
  | none => simp [monitored] at returned
  | some monitoring =>
    cases scraped : monitoring.prometheus with
    | none => simp [monitored, scraped] at returned
    | some prometheus =>
      refine ⟨monitoring, prometheus, rfl, scraped, ?_⟩
      simp only [monitored, scraped, deref_some, ok_bind] at returned
      by_cases hasFile : env.hasPrometheusConfigFile app
      · cases configured : prometheus.configFile with
        | none => simp [hasFile, configured] at returned
        | some configFile =>
          simp only [hasFile, configured, if_true, deref_some, ok_bind, pure_eq_ok,
            Except.ok.injEq, Prod.mk.injEq] at returned
          obtain ⟨rfl, -, rfl⟩ := returned
          exact .inr ⟨rfl, configFile, by simp [AgentConfigFor, hasFile, configured], rfl⟩
      · simp only [Bool.not_eq_true] at hasFile
        simp only [hasFile, Bool.false_eq_true, if_false, buildPrometheusConfigMap, monitored, deref_some,
          ok_bind, scraped, pure_eq_ok] at returned
        split at returned <;>
          simp only [Except.ok.injEq, Prod.mk.injEq] at returned <;>
          obtain ⟨rfl, -, rfl⟩ := returned
        · exact .inl ⟨_, rfl, rfl⟩
        · exact .inr ⟨rfl, _, by simp [AgentConfigFor, hasFile], rfl⟩

/-- Driver and executor metrics exposed on port 8090, with the agent's configuration in the image. -/
def sampleMonitoringSpec : MonitoringSpec where
  exposeDriverMetrics := true
  exposeExecutorMetrics := true
  metricsProperties := none
  prometheus := some ⟨"/prometheus/jmx_prometheus_javaagent-0.11.0.jar", some 8090,
    some "/etc/metrics/conf/prometheus.yaml", none⟩

/-- An application monitored as `sampleMonitoringSpec` says, with no Java options of its own. -/
def sampleMonitoredApp : App Unit Unit Unit Unit where
  «namespace» := "default"
  name := "spark-pi"
  spec := ⟨none, ⟨none, none, ()⟩, ⟨none, none, ()⟩, false, some sampleMonitoringSpec, ()⟩
  rest := ()

/-- The defaults of `pkg/config`, `HasPrometheusConfigFile` reading the Prometheus spec, and one try of the closure. -/
def sampleMonitoringEnv : MonitoringEnv (App Unit Unit Unit Unit) where
  defaultPrometheusJavaAgentPort := 8090
  prometheusConfigMapMountPath := "/etc/metrics/conf"
  defaultMetricsProperties := ""
  defaultPrometheusConfiguration := ""
  getPrometheusConfigMapName := fun app => app.name ++ "-prom-conf"
  hasPrometheusConfigFile := fun app =>
    ((app.spec.monitoring.bind (·.prometheus)).bind (·.configFile)).isSome
  retryOnConflict := fun attempt => ⟨(attempt 0).requests, (attempt 0).error⟩

/--
`configPrometheusMonitoring` is not idempotent.  Run again on the application
it prepared from distinct pointers, with `HasPrometheusConfigFile` reading only
the monitoring spec, it changes nothing but the Java options: each exposed role
gets the agent once more, except when the first call gave both roles the one
pointer `&javaOption` (both were nil, both exposed), where both appends go
through it and both roles read the agent three times.
-/
theorem configPrometheusMonitoring_reapplied
    {env : MonitoringEnv (App Driver Executor Spec Rest)}
    {reply reply' : Nat → Except StatusError ConfigMap}
    {app app₁ app₂ : App Driver Executor Spec Rest} {requests requests' : List ConfigMapRequest}
    (readsMonitoring : ∀ app app' : App Driver Executor Spec Rest,
      app.spec.monitoring = app'.spec.monitoring →
        env.hasPrometheusConfigFile app = env.hasPrometheusConfigFile app')
    (distinct : app.spec.javaOptionsShared = false)
    (first : configPrometheusMonitoring env reply app = .ok (app₁, requests, none))
    (second : configPrometheusMonitoring env reply' app₁ = .ok (app₂, requests', none)) :
    ∃ monitoring port javaOption,
      app.spec.monitoring = some monitoring ∧
      app₁ = exposeMetrics env.prometheusConfigMapMountPath monitoring port javaOption app ∧
      app₂ = if monitoring.exposeDriverMetrics && monitoring.exposeExecutorMetrics &&
          app.spec.driver.javaOptions.isNone && app.spec.executor.javaOptions.isNone then
        { app₁ with
          spec := { app₁.spec with
            driver := { app₁.spec.driver with
              javaOptions := some (javaOption ++ " " ++ javaOption ++ " " ++ javaOption) }
            executor := { app₁.spec.executor with
              javaOptions := some (javaOption ++ " " ++ javaOption ++ " " ++ javaOption) } } }
      else
        { app₁ with
          spec := { app₁.spec with
            driver := reexposeRole monitoring.exposeDriverMetrics javaOption app₁.spec.driver
            executor := reexposeRole monitoring.exposeExecutorMetrics javaOption
              app₁.spec.executor } } := by
  obtain ⟨monitoring, prometheus, monitored, scraped,
      ⟨_, ⟨⟩, -⟩ | ⟨-, agentConfig, configured, rfl⟩⟩ := configPrometheusMonitoring_returns first
  obtain ⟨monitoring', prometheus', monitored', scraped',
      ⟨_, ⟨⟩, -⟩ | ⟨-, agentConfig', configured', rfl⟩⟩ := configPrometheusMonitoring_returns second
  obtain rfl : monitoring = monitoring' := Option.some.inj (monitored.symm.trans monitored')
  obtain rfl : prometheus = prometheus' := Option.some.inj (scraped.symm.trans scraped')
  obtain rfl : agentConfig = agentConfig' :=
    (agentConfigFor_unique (readsMonitoring _ _ (by rfl)) configured configured').symm
  exact ⟨monitoring, _, _, monitored, rfl, exposeMetrics_exposeMetrics _ _ _ _ distinct⟩

/-- Both roles nil and both exposed: the second call leaves the agent three times in each. -/
theorem configPrometheusMonitoring_reapplied_shared_pointer :
    let javaOption := javaAgentOption "/prometheus/jmx_prometheus_javaagent-0.11.0.jar" 8090
      "/etc/metrics/conf/prometheus.yaml"
    let app₁ := exposeMetrics "/etc/metrics/conf" sampleMonitoringSpec 8090 javaOption
      sampleMonitoredApp
    let app₂ := exposeMetrics "/etc/metrics/conf" sampleMonitoringSpec 8090 javaOption app₁
    (∀ app app' : App Unit Unit Unit Unit, app.spec.monitoring = app'.spec.monitoring →
        sampleMonitoringEnv.hasPrometheusConfigFile app =
          sampleMonitoringEnv.hasPrometheusConfigFile app') ∧
      sampleMonitoredApp.spec.javaOptionsShared = false ∧
      configPrometheusMonitoring sampleMonitoringEnv (fun _ => .error .notFound)
          sampleMonitoredApp = .ok (app₁, [], none) ∧
      configPrometheusMonitoring sampleMonitoringEnv (fun _ => .error .notFound) app₁ =
        .ok (app₂, [], none) ∧
      ∃ monitoring port javaOption,
        sampleMonitoredApp.spec.monitoring = some monitoring ∧
        app₁ = exposeMetrics sampleMonitoringEnv.prometheusConfigMapMountPath monitoring port
          javaOption sampleMonitoredApp ∧
        app₂ = if monitoring.exposeDriverMetrics && monitoring.exposeExecutorMetrics &&
            sampleMonitoredApp.spec.driver.javaOptions.isNone &&
            sampleMonitoredApp.spec.executor.javaOptions.isNone then
          { app₁ with
            spec := { app₁.spec with
              driver := { app₁.spec.driver with
                javaOptions := some (javaOption ++ " " ++ javaOption ++ " " ++ javaOption) }
              executor := { app₁.spec.executor with
                javaOptions := some (javaOption ++ " " ++ javaOption ++ " " ++ javaOption) } } }
        else
          { app₁ with
            spec := { app₁.spec with
              driver := reexposeRole monitoring.exposeDriverMetrics javaOption app₁.spec.driver
              executor := reexposeRole monitoring.exposeExecutorMetrics javaOption
                app₁.spec.executor } } := by
  intro javaOption app₁ app₂
  have readsMonitoring : ∀ app app' : App Unit Unit Unit Unit,
      app.spec.monitoring = app'.spec.monitoring →
        sampleMonitoringEnv.hasPrometheusConfigFile app =
          sampleMonitoringEnv.hasPrometheusConfigFile app' := fun app app' same => by
    simp only [sampleMonitoringEnv, same]
  have distinct : sampleMonitoredApp.spec.javaOptionsShared = false := rfl
  have first : configPrometheusMonitoring sampleMonitoringEnv (fun _ => .error .notFound)
      sampleMonitoredApp = .ok (app₁, [], none) := rfl
  have second : configPrometheusMonitoring sampleMonitoringEnv (fun _ => .error .notFound) app₁ =
      .ok (app₂, [], none) := rfl
  exact ⟨readsMonitoring, distinct, first, second,
    configPrometheusMonitoring_reapplied readsMonitoring distinct first second⟩

example :
    let javaOption := "-javaagent:jmx.jar=8090:/etc/metrics/conf/prometheus.yaml"
    let twice := exposeMetrics "/etc/metrics/conf" sampleMonitoringSpec 8090 javaOption
      (exposeMetrics "/etc/metrics/conf" sampleMonitoringSpec 8090 javaOption sampleMonitoredApp)
    twice.spec.driver.javaOptions = some (javaOption ++ " " ++ javaOption ++ " " ++ javaOption) ∧
      twice.spec.executor.javaOptions = twice.spec.driver.javaOptions :=
  ⟨rfl, rfl⟩

end

end SparkOperator
