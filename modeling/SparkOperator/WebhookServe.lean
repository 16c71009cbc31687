import SparkOperator.MutatePods

namespace SparkOperator

/-!
# Serving admission requests

`serve` checks the HTTP request, decodes the admission review, asks
`mutatePods` for a response and writes the review back.  A request it cannot
read, an empty body or a wrong `Content-Type` is answered with an HTTP error
and no review; so is a review that cannot be marshalled.  Every review it
writes allows the pod, and it is fail-open on every decoding error.

The `http.ResponseWriter` is modelled by what a client sees: the status sent
first, since later `WriteHeader` calls are ignored and the first `Write` sends
`200`, and the payloads handed to `Write`.  A decodable review without a
request reaches `mutatePods`, which dereferences the nil request.
-/

/-- What a handler hands to `ResponseWriter.Write`. -/
inductive Payload where
  /-- The JSON encoding of an admission review. -/
  | review (review : AdmissionReview)
  /-- Plain text. -/
  | text (text : String)
  deriving DecidableEq

/-- An `http.ResponseWriter` as its client sees it: the status sent, and the payloads written. -/
structure ResponseWriter where
  statusCode : Option Nat
  written : List Payload
  deriving DecidableEq

namespace ResponseWriter

/-- A writer nothing has been sent through. -/
def empty : ResponseWriter :=
  ⟨none, []⟩

/-- `w.WriteHeader(code)`: only the first status sent takes effect. -/
def writeHeader (w : ResponseWriter) (code : Nat) : ResponseWriter :=
  if w.statusCode.isSome then w else { w with statusCode := some code }

/-- `w.Write(data)`: sends status `200` first if none was sent. -/
def write (w : ResponseWriter) (data : Payload) : ResponseWriter where
  statusCode := some (w.statusCode.getD 200)
  written := w.written ++ [data]

end ResponseWriter

/-- `http.StatusBadRequest`. -/
def statusBadRequest : Nat :=
  400

/-- `http.StatusUnsupportedMediaType`. -/
def statusUnsupportedMediaType : Nat :=
  415

/-- `http.Error(w, error, code)`: the status, then the message and a newline. -/
def httpError (w : ResponseWriter) (error : String) (code : Nat) : ResponseWriter :=
  (w.writeHeader code).write (.text (error ++ "\n"))

/-- The parts of an `http.Request` that `serve` reads. -/
structure Request where
  /-- `r.Body`: `none` when nil, else what `ioutil.ReadAll` returns. -/
  body : Option (Except String Bytes)
  /-- `r.Header.Get("Content-Type")`. -/
  contentType : String

/-- The body `serve` works with: empty for a nil body, else what was read. -/
def readBody : Option (Except String Bytes) → Except String Bytes
  | none => .ok []
  | some read => read

variable {App PatchOperation : Type}
variable (util : Util) (config : Config) (env : WebhookEnv App PatchOperation)

/-- The review `serve` answers a body with: decode, mutate, copy the request's UID. -/
def reviewFor
    (lister : Lister App) (sparkJobNamespace : String) (body : Bytes) :
    Except RuntimePanic AdmissionReview := do
  let reviewResponse ← match (env.decode body).2 with
    | some err => pure (some (toAdmissionResponse err))
    | none => mutatePods util config env (env.decode body).1 lister sparkJobNamespace
  pure { response := reviewResponse.map fun response =>
    match (env.decode body).1.request with
    | some request => { response with uid := request.uid }
    | none => response }

/-- `wh.serve(w, r)` on a fresh writer; `writeError` is what `w.Write(resp)` returns. -/
def serve
    (lister : Lister App) (sparkJobNamespace : String)
    (writeError : Option String) (r : Request) :
    Except RuntimePanic ResponseWriter :=
  match readBody r.body with
  | .error _ =>
      pure (httpError .empty "failed to read the request body" statusInternalServerError)
  | .ok body =>
      if body.length = 0 then
        pure (httpError .empty "empty request body" statusBadRequest)
      else if r.contentType ≠ "application/json" then
        pure (httpError .empty "invalid Content-Type, expected `application/json`"
          statusUnsupportedMediaType)
      else do
        let response ← reviewFor util config env lister sparkJobNamespace body
        match env.marshalReviewError response with
        | some err => pure (httpError .empty err statusInternalServerError)
        | none =>
            match writeError with
            | some err =>
                pure (httpError (ResponseWriter.empty.write (.review response)) err
                  statusInternalServerError)
            | none => pure (ResponseWriter.empty.write (.review response))

@[simp] theorem httpError_empty (error : String) (code : Nat) :
    httpError .empty error code = ⟨some code, [.text (error ++ "\n")]⟩ :=
  rfl

@[simp] theorem write_empty (data : Payload) :
    ResponseWriter.empty.write data = ⟨some 200, [data]⟩ :=
  rfl

/-- `http.Error` after a status was sent only adds its message. -/
@[simp] theorem httpError_of_sent
    (sent : Nat) (written : List Payload) (error : String) (code : Nat) :
    httpError ⟨some sent, written⟩ error code =
      ⟨some sent, written ++ [.text (error ++ "\n")]⟩ :=
  rfl

/-- Everything `serve` can answer, by the check that decided it. -/
theorem serve_cases
    {lister : Lister App} {sparkJobNamespace : String} {writeError : Option String}
    {r : Request} {w : ResponseWriter}
    (answered : serve util config env lister sparkJobNamespace writeError r = .ok w) :
    (∃ err, readBody r.body = .error err ∧
        w = httpError .empty "failed to read the request body" statusInternalServerError) ∨
      (readBody r.body = .ok [] ∧ w = httpError .empty "empty request body" statusBadRequest) ∨
      (∃ body, readBody r.body = .ok body ∧ body ≠ [] ∧
        r.contentType ≠ "application/json" ∧
        w = httpError .empty "invalid Content-Type, expected `application/json`"
          statusUnsupportedMediaType) ∨
      ∃ body response, readBody r.body = .ok body ∧ body ≠ [] ∧
        r.contentType = "application/json" ∧
        reviewFor util config env lister sparkJobNamespace body = .ok response ∧
        ((∃ err, env.marshalReviewError response = some err ∧
            w = httpError .empty err statusInternalServerError) ∨
          (env.marshalReviewError response = none ∧
            (w = ResponseWriter.empty.write (.review response) ∨
              ∃ err, w = httpError (ResponseWriter.empty.write (.review response)) err
                statusInternalServerError))) := by
  cases read : readBody r.body with
  | error err =>
      simp only [serve, read, pure_eq_ok, Except.ok.injEq] at answered
      exact Or.inl ⟨err, rfl, answered.symm⟩
  | ok body =>
      by_cases empty : body = []
      · subst empty
        simp only [serve, read, List.length_nil, if_true, pure_eq_ok, Except.ok.injEq] at answered
        exact Or.inr (Or.inl ⟨rfl, answered.symm⟩)
      · by_cases json : r.contentType = "application/json"
        · cases reviewed : reviewFor util config env lister sparkJobNamespace body with
          | error failure =>
              simp [serve, read, empty, json, reviewed] at answered
          | ok response =>
              refine Or.inr (Or.inr (Or.inr ⟨body, response, rfl, empty, json, reviewed, ?_⟩))
              cases marshalled : env.marshalReviewError response with
              | some err =>
                  simp [serve, read, empty, json, reviewed, marshalled] at answered
                  exact Or.inl ⟨err, rfl, answered.symm⟩
              | none =>
                  refine Or.inr ⟨rfl, ?_⟩
                  cases writeError <;>
                    simp [serve, read, empty, json, reviewed, marshalled] at answered
                  · exact Or.inl answered.symm
                  · exact Or.inr ⟨_, answered.symm⟩
        · simp [serve, read, empty, json] at answered
          exact Or.inr (Or.inr (Or.inl ⟨body, rfl, empty, json, answered.symm⟩))

/--
A review `serve` builds has no response only for a decoded request of another
resource, and otherwise an allowing response carrying the decoded request's
UID.
-/
theorem reviewFor_spec
    {lister : Lister App} {sparkJobNamespace : String} {body : Bytes}
    {review : AdmissionReview}
    (reviewed : reviewFor util config env lister sparkJobNamespace body = .ok review) :
    (review.response = none →
        (env.decode body).2 = none ∧
          ∃ request, (env.decode body).1.request = some request ∧
            request.resource ≠ podResource) ∧
      ∀ response, review.response = some response →
        response.allowed = true ∧
          ∀ request, (env.decode body).1.request = some request →
            response.uid = request.uid := by
  cases decoding : env.decode body with
  | mk decoded decodeError =>
      cases decodeError with
      | some err =>
          simp only [reviewFor, decoding, pure_eq_ok, ok_bind, Except.ok.injEq] at reviewed
          subst reviewed
          cases decoded.request <;> simp
      | none =>
          cases mutated : mutatePods util config env decoded lister sparkJobNamespace with
          | error failure =>
              simp [reviewFor, decoding, mutated] at reviewed
          | ok reviewResponse =>
              simp only [reviewFor, decoding, mutated, pure_eq_ok, ok_bind,
                Except.ok.injEq] at reviewed
              subst reviewed
              cases reviewResponse with
              | none =>
                  simpa using (mutatePods_eq_none_iff util config env decoded lister
                    sparkJobNamespace).mp mutated
              | some response =>
                  have allowed := (mutatePods_allowed util config env mutated).1
                  cases decoded.request <;> simp [allowed]

/--
`serve` answers with an HTTP error and no review only when the body cannot be
read, is empty, has another `Content-Type`, or the review cannot be
marshalled (then with `500` and the marshalling error), and the first three
always end so; every review it writes lacks a
response only for a decoded request of another resource, and otherwise allows
the pod under the decoded request's UID; and no response of `mutatePods` or
`toAdmissionResponse` denies a pod.
-/
theorem serve_fail_open
    (lister : Lister App) (sparkJobNamespace : String)
    (writeError : Option String) (r : Request) :
    (∀ w, serve util config env lister sparkJobNamespace writeError r = .ok w →
      (∃ code, w.statusCode = some code ∧ 400 ≤ code) →
      (∀ review, .review review ∉ w.written) →
        (∃ err, r.body = some (.error err)) ∨ readBody r.body = .ok [] ∨
          r.contentType ≠ "application/json" ∨
          ∃ body response err, readBody r.body = .ok body ∧
            reviewFor util config env lister sparkJobNamespace body = .ok response ∧
            env.marshalReviewError response = some err ∧
            w = ⟨some 500, [.text (err ++ "\n")]⟩) ∧
      ((∃ err, r.body = some (.error err)) →
        serve util config env lister sparkJobNamespace writeError r =
          .ok ⟨some 500, [.text "failed to read the request body\n"]⟩) ∧
      (readBody r.body = .ok [] →
        serve util config env lister sparkJobNamespace writeError r =
          .ok ⟨some 400, [.text "empty request body\n"]⟩) ∧
      (∀ body, readBody r.body = .ok body → body ≠ [] →
        r.contentType ≠ "application/json" →
        serve util config env lister sparkJobNamespace writeError r =
          .ok ⟨some 415, [.text "invalid Content-Type, expected `application/json`\n"]⟩) ∧
      (∀ w review, serve util config env lister sparkJobNamespace writeError r = .ok w →
        .review review ∈ w.written →
        ∃ body, readBody r.body = .ok body ∧
          (review.response = none →
            (env.decode body).2 = none ∧
              ∃ request, (env.decode body).1.request = some request ∧
                request.resource ≠ podResource) ∧
          ∀ response, review.response = some response →
            response.allowed = true ∧
              ∀ request, (env.decode body).1.request = some request →
                response.uid = request.uid) ∧
      (∀ err, (toAdmissionResponse err).allowed = true) ∧
      ∀ review response,
        mutatePods util config env review lister sparkJobNamespace = .ok (some response) →
          response.allowed = true := by
  refine ⟨fun w answered failed noReview => ?_, fun ⟨err, unread⟩ => ?_,
    fun empty => ?_, fun body read nonempty other => ?_,
    fun w review answered written => ?_, allowed_toAdmissionResponse,
    fun _ _ returned => (mutatePods_allowed util config env returned).1⟩
  · rcases serve_cases util config env answered with
      ⟨err, unread, -⟩ | ⟨empty, -⟩ | ⟨body, -, -, other, -⟩ |
        ⟨body, response, read, -, -, reviewed, ⟨err, marshalled, rfl⟩ | ⟨-, written⟩⟩
    · cases body : r.body with
      | none => simp [readBody, body] at unread
      | some read => exact Or.inl ⟨err, by simpa [readBody, body] using unread⟩
    · exact Or.inr (Or.inl empty)
    · exact Or.inr (Or.inr (Or.inl other))
    · exact Or.inr (Or.inr (Or.inr ⟨body, response, err, read, reviewed, marshalled, rfl⟩))
    · rcases written with rfl | ⟨err, rfl⟩ <;> simp at failed noReview
  · simp [serve, readBody, unread, statusInternalServerError]
  · simp [serve, empty, statusBadRequest]
  · simp [serve, read, nonempty, other, statusUnsupportedMediaType]
  · rcases serve_cases util config env answered with
      ⟨err, -, rfl⟩ | ⟨-, rfl⟩ | ⟨body, -, -, -, rfl⟩ |
        ⟨body, response, read, -, -, reviewed, ⟨err, -, rfl⟩ | ⟨-, written'⟩⟩
    any_goals (simp at written; done)
    · have same : review = response := by
        rcases written' with rfl | ⟨err, rfl⟩ <;> simpa using written
      subst same
      exact ⟨body, read, reviewFor_spec util config env reviewed⟩

/-- A decodable review without a request makes `serve` dereference the nil request. -/
theorem serve_panics_of_decoded_without_request
    {lister : Lister App} {sparkJobNamespace : String} {writeError : Option String}
    {r : Request} {body : Bytes}
    (read : readBody r.body = .ok body) (nonempty : body ≠ [])
    (json : r.contentType = "application/json")
    (noRequest : (env.decode body).1.request = none) (decoded : (env.decode body).2 = none) :
    serve util config env lister sparkJobNamespace writeError r =
      .error .nilPointerDereference := by
  simp [serve, read, nonempty, json, reviewFor, decoded, mutatePods, noRequest]

/--
A body the deserializer decodes into a review without a request makes `serve`
dereference the nil request: here the review
`{"apiVersion":"admission.k8s.io/v1beta1","kind":"AdmissionReview"}`.
-/
theorem serve_review_without_request_panics :
    ∀ (util : Util) (config : Config) (lister : Lister Unit)
      (sparkJobNamespace : String) (writeError : Option String),
      serve util config
          { (default : WebhookEnv Unit Unit) with decode := fun _ => ({}, none) }
          lister sparkJobNamespace writeError
          { body := some (.ok
              "\x7b\"apiVersion\":\"admission.k8s.io/v1beta1\",\"kind\":\"AdmissionReview\"\x7d".toUTF8.data.toList),
            contentType := "application/json" } =
        .error .nilPointerDereference :=
  fun util config _ _ _ =>
    serve_panics_of_decoded_without_request util config _ rfl (by decide) rfl rfl rfl

end SparkOperator
