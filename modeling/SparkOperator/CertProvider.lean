import SparkOperator.Go

namespace SparkOperator

/-!
# Certificate rotation

`certProvider` holds the webhook's server certificate.  The goroutine of
`Start` reloads the key pair on every tick until `Stop` closes its channel; a
failed reload is logged and changes nothing, and `GetCertificate` reads the
pointer under the read lock.  The abstract view is `latestCertificate`, the
latest successful reload or the initial certificate, which the provider
refines along every run of ticks.  Rotation freezes at the first `Stop`, and
a second `Stop` panics closing the closed channel.
-/

variable {Certificate : Type}

/-- `certProvider`: the files, the interval, the certificate pointer, and whether `Stop` ran. -/
structure CertProvider (Certificate : Type) where
  serverCertFile : String
  serverKeyFile : String
  caCertFile : String
  /-- A `time.Duration` in nanoseconds. -/
  reloadInterval : Int
  currentCert : Option Certificate
  /-- Whether the stop channel is closed and the ticker stopped. -/
  stopped : Bool

/--
`NewCertProvider(serverCertFile, serverKeyFile, caCertFile, reloadInterval)`,
where `load` is what `tls.LoadX509KeyPair` returns for the pair.
-/
def newCertProvider
    (serverCertFile serverKeyFile caCertFile : String) (reloadInterval : Int)
    (load : Except String Certificate) :
    Except RuntimePanic (Except String (CertProvider Certificate)) :=
  match load with
  | .error err => pure (.error err)
  | .ok cert =>
      if reloadInterval ≤ 0 then
        .error .nonPositiveTickerInterval
      else
        pure (.ok {
          serverCertFile, serverKeyFile, caCertFile, reloadInterval,
          currentCert := some cert, stopped := false })

/-- What the goroutine of `Start` receives. -/
inductive ProviderEvent (Certificate : Type) where
  /-- A tick; `tls.LoadX509KeyPair` then returns `reload`. -/
  | tick (reload : Except String Certificate)
  /-- `Stop`: close the stop channel, stop the ticker. -/
  | stop

/-- `c.updateCert()`, given what the reload returned: a failure is only logged. -/
def updateCert
    (c : CertProvider Certificate) (reload : Except String Certificate) :
    CertProvider Certificate :=
  match reload with
  | .error _ => c
  | .ok cert => { c with currentCert := some cert }

/-- One event: a tick reloads unless the provider stopped; `Stop` closes the channel once. -/
def providerStep (c : CertProvider Certificate) :
    ProviderEvent Certificate → Except RuntimePanic (CertProvider Certificate)
  | .tick reload => pure (if c.stopped then c else updateCert c reload)
  | .stop =>
      if c.stopped then .error .closeOfClosedChannel
      else pure { c with stopped := true }

/-- A run of events from a provider. -/
def runProvider (c : CertProvider Certificate) :
    List (ProviderEvent Certificate) → Except RuntimePanic (CertProvider Certificate)
  | [] => pure c
  | event :: rest => do runProvider (← providerStep c event) rest

/-- What rotation should serve: the certificate of the latest successful reload, or the initial one. -/
def latestCertificate (initial : Certificate) (reloads : List (Except String Certificate)) :
    Certificate :=
  reloads.foldl (fun current reload => match reload with
    | .ok cert => cert
    | .error _ => current) initial

/-- A tick never panics and never stops or restarts the provider. -/
theorem providerStep_tick_stopped (c : CertProvider Certificate) (reload : Except String Certificate) :
    ∃ c', providerStep c (.tick reload) = .ok c' ∧ c'.stopped = c.stopped := by
  by_cases stopped : c.stopped <;> cases reload <;> simp [providerStep, updateCert, stopped]

/-- `Stop` panics on a stopped provider and stops a running one. -/
theorem providerStep_stop (c : CertProvider Certificate) :
    providerStep c .stop =
      if c.stopped then .error .closeOfClosedChannel else .ok { c with stopped := true } :=
  rfl

/-- The reloads the goroutine of `Start` acts on: those of the ticks before the first `Stop`. -/
def reloadsBeforeStop : List (ProviderEvent Certificate) → List (Except String Certificate)
  | [] => []
  | .tick reload :: rest => reload :: reloadsBeforeStop rest
  | .stop :: _ => []

/-- How many times a run calls `Stop`. -/
def stopCount : List (ProviderEvent Certificate) → Nat
  | [] => 0
  | .tick _ :: rest => stopCount rest
  | .stop :: rest => stopCount rest + 1

@[simp] theorem latestCertificate_nil (initial : Certificate) :
    latestCertificate initial [] = initial :=
  rfl

@[simp] theorem latestCertificate_cons
    (initial : Certificate) (reload : Except String Certificate)
    (reloads : List (Except String Certificate)) :
    latestCertificate initial (reload :: reloads) =
      latestCertificate (match reload with
        | .ok cert => cert
        | .error _ => initial) reloads :=
  rfl

/-- A stopped provider ignores every tick, and its next `Stop` panics. -/
theorem runProvider_of_stopped
    (events : List (ProviderEvent Certificate))
    {c : CertProvider Certificate} (stopped : c.stopped = true) :
    runProvider c events =
      if stopCount events = 0 then .ok c else .error .closeOfClosedChannel := by
  induction events with
  | nil => rfl
  | cons event rest inductionHypothesis =>
      cases event with
      | tick reload =>
          simpa [runProvider, providerStep, stopCount, stopped] using inductionHypothesis
      | stop => simp [runProvider, providerStep, stopCount, stopped]

/--
From a running provider, a run of ticks and `Stop` calls panics exactly when it
calls `Stop` twice.  Otherwise it ends serving the latest successful reload among
the ticks before its first `Stop`, stopped exactly when it called `Stop`, with
its files and interval unchanged.
-/
theorem runProvider_freezes_at_stop
    (events : List (ProviderEvent Certificate))
    {c : CertProvider Certificate} {current : Certificate}
    (running : c.stopped = false) (serving : c.currentCert = some current) :
    runProvider c events =
      if stopCount events ≤ 1 then
        .ok { c with
          currentCert := some (latestCertificate current (reloadsBeforeStop events))
          stopped := decide (stopCount events = 1) }
      else .error .closeOfClosedChannel := by
  induction events generalizing c current with
  | nil =>
      cases c
      simp_all [runProvider, stopCount, reloadsBeforeStop]
  | cons event rest inductionHypothesis =>
      cases event with
      | tick reload =>
          cases reload with
          | error err =>
              simpa [runProvider, providerStep, updateCert, running, stopCount, reloadsBeforeStop]
                using inductionHypothesis running serving
          | ok cert =>
              simpa [runProvider, providerStep, updateCert, running, stopCount, reloadsBeforeStop]
                using inductionHypothesis (c := { c with currentCert := some cert }) running rfl
      | stop =>
          cases c
          by_cases once : stopCount rest = 0 <;>
            simp_all [runProvider, providerStep, runProvider_of_stopped, stopCount,
              reloadsBeforeStop]

/-- A reload, a `Stop`, and a reload after it: the provider keeps serving the first reload. -/
theorem runProvider_freezes_at_stop_reload_stop_reload :
    let provider : CertProvider Nat :=
      ⟨"server-cert.pem", "server-key.pem", "ca-cert.pem", 900000000000, some 0, false⟩
    provider.stopped = false ∧ provider.currentCert = some 0 ∧
      runProvider provider [.tick (.ok 1), .stop, .tick (.ok 2)] =
        .ok { provider with currentCert := some 1, stopped := true } :=
  ⟨rfl, rfl, runProvider_freezes_at_stop _ rfl rfl⟩

end SparkOperator
