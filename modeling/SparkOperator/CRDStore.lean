import SparkOperator.CRDUpgrade

namespace SparkOperator

/-!
# The CRD upgrade against the API server

Here the API server is a store of CRDs by name: `Get` reads one and `Update`
replaces it unless validation refuses the new object.  A recorded trace is one
the server could have produced when it replays against the store
(`CRDStore.replay`), and every such pass of the code is `CRDStore.pass`.  The
hook never creates or deletes a CRD and writes only Specs from its files; when
the files name distinct CRDs each ends as upgrading it alone would leave it,
and a second run sends no Update; two files that give one CRD Specs that are
not semantically equal make every run send an Update.
-/

/-- Replies are compared by their case and payload. -/
instance decidableEqExcept {ε α : Type} [DecidableEq ε] [DecidableEq α] :
    DecidableEq (Except ε α)
  | .ok a, .ok b =>
    if same : a = b then isTrue (same ▸ rfl) else isFalse fun equal => same (Except.ok.inj equal)
  | .error a, .error b =>
    if same : a = b then isTrue (same ▸ rfl) else isFalse fun equal => same (Except.error.inj equal)
  | .ok _, .error _ => isFalse Except.noConfusion
  | .error _, .ok _ => isFalse Except.noConfusion

/-- The names of the CRDs the files parse to, after defaulting, in file order. -/
def parsedNames {Spec Rest : Type} (env : UpgradeEnv Spec Rest) (files : List String) :
    List String :=
  files.filterMap fun crdFile =>
    (env.readObjectFromFile crdFile).toOption.map fun read => (env.setDefaults read).name

/-- A name is a parsed name exactly when some file parses to a CRD of that name. -/
theorem mem_parsedNames {Spec Rest : Type} {env : UpgradeEnv Spec Rest} {files : List String}
    {name : String} :
    name ∈ parsedNames env files ↔ ∃ crdFile ∈ files, ∃ read,
      env.readObjectFromFile crdFile = .ok read ∧ (env.setDefaults read).name = name := by
  simp only [parsedNames, List.mem_filterMap, Option.map_eq_some']
  refine exists_congr fun crdFile => and_congr_right fun _ => ⟨?_, ?_⟩
  · rintro ⟨read, parsed, rfl⟩
    cases result : env.readObjectFromFile crdFile <;> simp_all [Except.toOption]
  · rintro ⟨read, parsed, rfl⟩
    exact ⟨read, by simp [parsed, Except.toOption], rfl⟩

/-- Distinct parsed names: the later files name distinct CRDs, none of them the first file's. -/
theorem nodup_parsedNames_cons {Spec Rest : Type} {env : UpgradeEnv Spec Rest}
    {crdFile : String} {rest : List String}
    (distinct : (parsedNames env (crdFile :: rest)).Nodup) :
    (parsedNames env rest).Nodup ∧
      ∀ read, env.readObjectFromFile crdFile = .ok read →
        ∀ later ∈ rest, ∀ read', env.readObjectFromFile later = .ok read' →
          (env.setDefaults read').name ≠ (env.setDefaults read).name := by
  refine ⟨distinct.sublist ((List.sublist_cons_self crdFile rest).filterMap _),
    fun read parsed later member read' parsed' same => ?_⟩
  simp only [parsedNames, List.filterMap_cons, parsed, Except.toOption, Option.map_some',
    List.nodup_cons] at distinct
  exact distinct.1 (mem_parsedNames.mpr ⟨later, member, read', parsed', same⟩)

/-- The API server's CRDs, each stored under its own name. -/
structure CRDStore (Spec Rest : Type) where
  crds : GoMap String (CustomResourceDefinition Spec Rest)
  keyedByName : ∀ name crd, crds.get? name = some crd → crd.name = name

namespace CRDStore

variable {Spec Rest : Type}

/-- The CRD stored under `name`. -/
def get? (store : CRDStore Spec Rest) (name : String) :
    Option (CustomResourceDefinition Spec Rest) :=
  store.crds.get? name

/-- Store a CRD under its name. -/
def put (store : CRDStore Spec Rest) (crd : CustomResourceDefinition Spec Rest) :
    CRDStore Spec Rest where
  crds := store.crds.set crd.name crd
  keyedByName name stored found := by
    rw [GoMap.get?_set] at found
    split_ifs at found with same
    · cases found
      exact same.symm
    · exact store.keyedByName name stored found

@[simp] theorem get?_put (store : CRDStore Spec Rest) (crd : CustomResourceDefinition Spec Rest)
    (name : String) :
    (store.put crd).get? name = if name = crd.name then some crd else store.get? name :=
  GoMap.get?_set _ _ _ _

/-- The store with no CRD. -/
def empty : CRDStore Spec Rest where
  crds := GoMap.empty
  keyedByName _ _ found := by simp at found

/-- A stored CRD carries the name it is stored under. -/
theorem name_of_get? {store : CRDStore Spec Rest} {name : String}
    {crd : CustomResourceDefinition Spec Rest} (found : store.get? name = some crd) :
    crd.name = name :=
  store.keyedByName name crd found

/-- The message of the `NotFound` error for a CRD. -/
def notFound (name : String) : String :=
  "customresourcedefinitions.apiextensions.k8s.io " ++ name ++ " not found"

variable (validate : CustomResourceDefinition Spec Rest → CustomResourceDefinition Spec Rest →
  Option String)

/--
The server's answer to a request: `Get` returns the stored CRD; `Update`
returns the new object, unless no CRD of its name is stored or `validate`
refuses the change from the stored one.
-/
def answer (store : CRDStore Spec Rest) :
    CRDRequest Spec Rest → Except String (CustomResourceDefinition Spec Rest)
  | .get name =>
    match store.get? name with
    | some crd => .ok crd
    | none => .error (notFound name)
  | .update crd =>
    match store.get? crd.name with
    | none => .error (notFound crd.name)
    | some old =>
      match validate old crd with
      | some err => .error err
      | none => .ok crd

/-- The store after an answered call: an Update the server accepted replaces the CRD of its name. -/
def after (store : CRDStore Spec Rest) : CRDCall Spec Rest → CRDStore Spec Rest
  | (.update crd, .ok _) => store.put crd
  | _ => store

@[simp] theorem after_get (store : CRDStore Spec Rest) (name : String)
    (reply : Except String (CustomResourceDefinition Spec Rest)) :
    store.after (.get name, reply) = store :=
  rfl

/--
One pass of the loop composed with the server: the calls of the pass over
`crdFile`, each answered from the store, and the store they leave.
-/
def pass (env : UpgradeEnv Spec Rest) (store : CRDStore Spec Rest) (crdFile : String) :
    List (CRDCall Spec Rest) × CRDStore Spec Rest :=
  match env.readObjectFromFile crdFile with
  | .error _ => ([], store)
  | .ok read =>
    let crd := env.setDefaults read
    match store.answer validate (.get crd.name) with
    | .error err => ([(.get crd.name, .error err)], store)
    | .ok oldCrd =>
      if env.semanticDeepEqual oldCrd.spec crd.spec then
        ([(.get crd.name, .ok oldCrd)], store)
      else
        let update : CRDRequest Spec Rest := .update { oldCrd with spec := crd.spec }
        let stored := store.answer validate update
        ([(.get crd.name, .ok oldCrd), (update, stored)], store.after (update, stored))

/-- The loop composed with the server: the report of each file, and the store at the end. -/
def passes (env : UpgradeEnv Spec Rest) :
    CRDStore Spec Rest → List String → List (FileReport Spec Rest) × CRDStore Spec Rest
  | store, [] => ([], store)
  | store, crdFile :: rest =>
    let first := store.pass validate env crdFile
    let later := first.2.passes env rest
    (⟨crdFile, first.1⟩ :: later.1, later.2)

/-- The replies a trace records, by call number. -/
def traceReply (trace : List (CRDCall Spec Rest)) :
    Nat → Except String (CustomResourceDefinition Spec Rest) :=
  fun k => ((trace.map Prod.snd)[k]?).getD (.error "")

/-- A pass of the code given the replies of the pass composed with the server makes its calls. -/
theorem upgradeCRDFile_of_replies {env : UpgradeEnv Spec Rest}
    {reply : Nat → Except String (CustomResourceDefinition Spec Rest)} {crdFile : String}
    {call : Nat} {store : CRDStore Spec Rest}
    (replies : ∀ i < (store.pass validate env crdFile).1.length,
      reply (call + i) = traceReply (store.pass validate env crdFile).1 i) :
    upgradeCRDFile env reply crdFile call = (store.pass validate env crdFile).1 := by
  unfold upgradeCRDFile pass at *
  cases parsed : env.readObjectFromFile crdFile with
  | error err => rfl
  | ok read =>
    simp only [parsed] at replies ⊢
    cases fetched : store.answer validate (.get (env.setDefaults read).name) with
    | error err =>
      have fetchReply : reply call = .error err := by
        simpa [fetched, traceReply] using replies 0 (by simp [fetched])
      simp [fetched, fetchReply]
    | ok oldCrd =>
      simp only [fetched] at replies ⊢
      split_ifs at replies with same <;>
        have fetchReply : reply call = .ok oldCrd := by
          simpa [traceReply] using replies 0 (by simp)
      · simp [fetchReply, same]
      · have updateReply := replies 1 (by simp)
        simp only [traceReply] at updateReply
        simp [fetchReply, same, updateReply]

/-- In a trace cut into three parts, the middle part's replies sit after the first part's calls. -/
theorem traceReply_middle (before middle after : List (CRDCall Spec Rest)) {i : Nat}
    (inside : i < middle.length) :
    traceReply (before ++ middle ++ after) (before.length + i) = traceReply middle i := by
  simp [traceReply, List.getElem?_append_left, List.getElem?_append_right, inside]

/-- The loop given the replies recorded by the loop composed with the server makes its calls. -/
theorem upgradeCRDFiles_of_replies (env : UpgradeEnv Spec Rest) (files : List String)
    (store : CRDStore Spec Rest) (before after : List (CRDCall Spec Rest)) :
    upgradeCRDFiles env
        (traceReply (before ++ (store.passes validate env files).1.flatMap FileReport.calls ++ after))
        files before.length =
      (store.passes validate env files).1 := by
  induction files generalizing store before with
  | nil => rfl
  | cons crdFile rest inductionHypothesis =>
    have first : upgradeCRDFile env (traceReply (before ++
        (store.passes validate env (crdFile :: rest)).1.flatMap FileReport.calls ++ after))
        crdFile before.length = (store.pass validate env crdFile).1 :=
      upgradeCRDFile_of_replies validate fun i inside => by
      simp only [passes, List.flatMap_cons, List.append_assoc]
      rw [← List.append_assoc before]
      exact traceReply_middle _ _ _ inside
    have later := inductionHypothesis (store.pass validate env crdFile).2
      (before ++ (store.pass validate env crdFile).1)
    simp only [passes, List.flatMap_cons, List.append_assoc, List.length_append] at first later ⊢
    simp only [upgradeCRDFiles, first, later]


/--
Whether the store already holds what a pass over `crdFile` would write: the
file does not parse, no CRD of its name is stored, or the stored Spec is
semantically equal to the file's defaulted one.
-/
def settled (env : UpgradeEnv Spec Rest) (store : CRDStore Spec Rest) (crdFile : String) : Bool :=
  match env.readObjectFromFile crdFile with
  | .error _ => true
  | .ok read =>
    match store.get? (env.setDefaults read).name with
    | none => true
    | some old => env.semanticDeepEqual old.spec (env.setDefaults read).spec

/-- A pass over a settled file sends no Update and leaves the store as it was. -/
theorem pass_of_settled {env : UpgradeEnv Spec Rest} {store : CRDStore Spec Rest}
    {crdFile : String} (done : store.settled env crdFile = true) :
    (store.pass validate env crdFile).2 = store ∧
      ∀ crd response, (.update crd, response) ∉ (store.pass validate env crdFile).1 := by
  unfold settled at done
  unfold pass
  cases parsed : env.readObjectFromFile crdFile with
  | error err => simp
  | ok read =>
    simp only [parsed] at done
    cases stored : store.get? (env.setDefaults read).name with
    | none => simp [answer, stored]
    | some old =>
      simp only [stored] at done
      simp [answer, stored, done]

/--
A pass over a file that is not settled sends the Update of the stored CRD
with the file's Spec, and the store takes it exactly when the server admits it.
-/
theorem pass_of_unsettled {env : UpgradeEnv Spec Rest} {store : CRDStore Spec Rest}
    {crdFile : String} (pending : store.settled env crdFile = false) :
    ∃ read old, env.readObjectFromFile crdFile = .ok read ∧
      store.get? (env.setDefaults read).name = some old ∧
      env.semanticDeepEqual old.spec (env.setDefaults read).spec = false ∧
      let update := { old with spec := (env.setDefaults read).spec }
      (∀ crd response, (.update crd, response) ∈ (store.pass validate env crdFile).1 ↔
        crd = update ∧ response = (match validate old update with
          | some err => .error err
          | none => .ok update)) ∧
      (store.pass validate env crdFile).2 = (match validate old update with
          | some _ => store
          | none => store.put update) := by
  unfold settled at pending
  cases parsed : env.readObjectFromFile crdFile with
  | error err => simp [parsed] at pending
  | ok read =>
    simp only [parsed] at pending
    cases stored : store.get? (env.setDefaults read).name with
    | none => simp [stored] at pending
    | some old =>
      simp only [stored] at pending
      have storedOld : store.get? old.name = some old := (name_of_get? stored).symm ▸ stored
      refine ⟨read, old, rfl, stored, pending, fun crd response => ?_, ?_⟩ <;>
        simp only [pass, parsed, answer, stored, storedOld, pending] <;>
        rcases validate old { old with spec := (env.setDefaults read).spec } with _ | err <;>
        simp [after]

/-- A pass changes at most the CRD of its file's name, and of that CRD only the Spec, to the file's. -/
theorem get?_pass (env : UpgradeEnv Spec Rest) (store : CRDStore Spec Rest) (crdFile name : String) :
    (store.pass validate env crdFile).2.get? name = store.get? name ∨
      ∃ read old, env.readObjectFromFile crdFile = .ok read ∧ (env.setDefaults read).name = name ∧
        store.get? name = some old ∧
        (store.pass validate env crdFile).2.get? name =
          some { old with spec := (env.setDefaults read).spec } := by
  cases done : store.settled env crdFile
  · obtain ⟨read, old, parsed, stored, -, -, passed⟩ := pass_of_unsettled validate done
    have named := name_of_get? stored
    rw [passed]
    rcases validate old { old with spec := (env.setDefaults read).spec } with _ | err
    · by_cases same : name = (env.setDefaults read).name
      · subst same
        exact .inr ⟨read, old, parsed, rfl, stored, by simp [named]⟩
      · exact .inl (by simp [same, named])
    · exact .inl rfl
  · exact .inl (by rw [(pass_of_settled validate done).1])

/-- What a run may do to the CRD stored under `name`, from `store` to `final`. -/
structure StoreFrame (env : UpgradeEnv Spec Rest) (files : List String)
    (store final : CRDStore Spec Rest) (name : String) : Prop where
  /-- A CRD is stored at the end exactly when it was at the start. -/
  present : (final.get? name).isSome = (store.get? name).isSome
  /-- It keeps its name and every field but its Spec, which is its own or the defaulted Spec of a file naming it. -/
  specOnly : ∀ crd crd', store.get? name = some crd → final.get? name = some crd' →
    crd'.name = crd.name ∧ crd'.rest = crd.rest ∧
      (crd'.spec = crd.spec ∨ ∃ crdFile ∈ files, ∃ read,
        env.readObjectFromFile crdFile = .ok read ∧ (env.setDefaults read).name = name ∧
        crd'.spec = (env.setDefaults read).spec)
  /-- A CRD no file names is untouched. -/
  untouched : (∀ crdFile ∈ files, ∀ read, env.readObjectFromFile crdFile = .ok read →
    (env.setDefaults read).name ≠ name) → final.get? name = store.get? name

/-- Every run of the loop composed with the server keeps the frame of every name. -/
theorem passes_frame (env : UpgradeEnv Spec Rest) (files : List String)
    (store : CRDStore Spec Rest) (name : String) :
    StoreFrame env files store (store.passes validate env files).2 name := by
  induction files generalizing store with
  | nil =>
    refine ⟨rfl, fun crd crd' found found' => ?_, fun _ => rfl⟩
    obtain rfl : crd' = crd := Option.some.inj (found'.symm.trans found)
    exact ⟨rfl, rfl, .inl rfl⟩
  | cons crdFile rest inductionHypothesis =>
    obtain ⟨present, kept, untouched⟩ :=
      inductionHypothesis (store.pass validate env crdFile).2
    rcases get?_pass validate env store crdFile name with
      same | ⟨read, old, parsed, named, stored, changed⟩
    · rw [same] at present kept untouched
      refine ⟨present, fun crd crd' found found' => ?_, fun unnamed =>
        untouched fun later member => unnamed later (List.mem_cons_of_mem _ member)⟩
      obtain ⟨sameName, sameRest, origin⟩ := kept crd crd' found found'
      exact ⟨sameName, sameRest, origin.imp_right fun ⟨later, member, fromLater⟩ =>
        ⟨later, List.mem_cons_of_mem _ member, fromLater⟩⟩
    · rw [changed] at present kept
      refine ⟨by simpa [passes, stored] using present, fun crd crd' found found' => ?_,
        fun unnamed => absurd named (unnamed crdFile (List.mem_cons_self _ _) read parsed)⟩
      obtain rfl : crd = old := Option.some.inj (found.symm.trans stored)
      obtain ⟨sameName, sameRest, origin⟩ := kept _ crd' rfl found'
      refine ⟨sameName, sameRest, .inr ?_⟩
      rcases origin with fromFile | ⟨later, member, fromLater⟩
      · exact ⟨crdFile, List.mem_cons_self _ _, read, parsed, named, fromFile⟩
      · exact ⟨later, List.mem_cons_of_mem _ member, fromLater⟩

/-- Passes over settled files send no Update and leave the store as it was. -/
theorem passes_of_settled {env : UpgradeEnv Spec Rest} {files : List String}
    {store : CRDStore Spec Rest} (done : ∀ crdFile ∈ files, store.settled env crdFile = true) :
    (store.passes validate env files).2 = store ∧
      ∀ report ∈ (store.passes validate env files).1, ∀ crd response,
        (.update crd, response) ∉ report.calls := by
  induction files with
  | nil => simp [passes]
  | cons crdFile rest inductionHypothesis =>
    simp only [List.mem_cons, forall_eq_or_imp] at done
    obtain ⟨same, noUpdate⟩ := pass_of_settled validate done.1
    obtain ⟨restSame, restNoUpdate⟩ := inductionHypothesis done.2
    simp only [passes, same, List.mem_cons, forall_eq_or_imp]
    exact ⟨restSame, noUpdate, restNoUpdate⟩

/-- Whether a file is settled depends only on the CRD stored under its name. -/
theorem settled_congr {env : UpgradeEnv Spec Rest} {store store' : CRDStore Spec Rest}
    {crdFile : String}
    (sameCRD : ∀ read, env.readObjectFromFile crdFile = .ok read →
      store'.get? (env.setDefaults read).name = store.get? (env.setDefaults read).name) :
    store'.settled env crdFile = store.settled env crdFile := by
  unfold settled
  cases parsed : env.readObjectFromFile crdFile with
  | error err => rfl
  | ok read => simp only [sameCRD read parsed]

/--
A run of the loop composed with the server whose Updates the server all
admitted leaves every file settled, when the files name distinct CRDs and
semantic equality is reflexive.
-/
theorem passes_settles {env : UpgradeEnv Spec Rest} {files : List String}
    {store : CRDStore Spec Rest}
    (reflexive : ∀ spec, env.semanticDeepEqual spec spec = true)
    (distinct : (parsedNames env files).Nodup)
    (admitted : ∀ report ∈ (store.passes validate env files).1, ∀ crd err,
      (.update crd, .error err) ∉ report.calls) :
    ∀ crdFile ∈ files, (store.passes validate env files).2.settled env crdFile = true := by
  induction files generalizing store with
  | nil => simp
  | cons crdFile rest inductionHypothesis =>
    simp only [passes, List.mem_cons, forall_eq_or_imp] at admitted ⊢
    obtain ⟨restDistinct, unnamedLater⟩ := nodup_parsedNames_cons distinct
    refine ⟨?_, inductionHypothesis restDistinct admitted.2⟩
    cases parsed : env.readObjectFromFile crdFile with
    | error err => simp [settled, parsed]
    | ok read =>
      have kept := (passes_frame validate env rest (store.pass validate env crdFile).2
        (env.setDefaults read).name).untouched (unnamedLater read parsed)
      have sameSettled : ((store.pass validate env crdFile).2.passes validate env rest).2.settled
          env crdFile = (store.pass validate env crdFile).2.settled env crdFile :=
        settled_congr fun read' parsed' => by
          rw [parsed] at parsed'
          cases parsed'
          exact kept
      rw [sameSettled]
      cases done : store.settled env crdFile
      · obtain ⟨read₀, old, parsed₀, stored, -, calls, passed⟩ := pass_of_unsettled validate done
        rw [parsed] at parsed₀
        cases parsed₀
        rcases checked : validate old { old with spec := (env.setDefaults read).spec } with _ | err
        · rw [passed, checked]
          simp [settled, parsed, name_of_get? stored, reflexive]
        · exact absurd ((calls _ _).mpr ⟨rfl, by rw [checked]⟩) (admitted.1 _ err)
      · rw [(pass_of_settled validate done).1]
        exact done

/--
A run of the loop composed with the server that sends no Update of the CRD
named `name` leaves that CRD as it was, and every file naming it finds it
with a Spec semantically equal to the file's.
-/
theorem passes_of_no_update {env : UpgradeEnv Spec Rest} {files : List String}
    {store : CRDStore Spec Rest} {name : String}
    (noUpdate : ∀ report ∈ (store.passes validate env files).1, ∀ crd response,
      (.update crd, response) ∈ report.calls → crd.name ≠ name) :
    (store.passes validate env files).2.get? name = store.get? name ∧
      ∀ crdFile ∈ files, ∀ read old, env.readObjectFromFile crdFile = .ok read →
        (env.setDefaults read).name = name → store.get? name = some old →
        env.semanticDeepEqual old.spec (env.setDefaults read).spec = true := by
  induction files generalizing store with
  | nil => simp [passes]
  | cons crdFile rest inductionHypothesis =>
    simp only [passes, List.mem_cons, forall_eq_or_imp] at noUpdate ⊢
    have unchanged : (store.pass validate env crdFile).2.get? name = store.get? name ∧
        ∀ read old, env.readObjectFromFile crdFile = .ok read →
          (env.setDefaults read).name = name → store.get? name = some old →
          env.semanticDeepEqual old.spec (env.setDefaults read).spec = true := by
      cases done : store.settled env crdFile
      · obtain ⟨read, old, parsed, stored, pending, calls, -⟩ := pass_of_unsettled validate done
        have updated := noUpdate.1 _ _ ((calls _ _).mpr ⟨rfl, rfl⟩)
        have named := name_of_get? stored
        refine ⟨?_, fun read' old' parsed' named' stored' => ?_⟩
        · rcases get?_pass validate env store crdFile name with same | ⟨read', _, parsed', named', -⟩
          · exact same
          · rw [parsed] at parsed'
            cases parsed'
            exact absurd (named.trans named') updated
        · rw [parsed] at parsed'
          cases parsed'
          exact absurd (named.trans named') updated
      · refine ⟨by rw [(pass_of_settled validate done).1], fun read old parsed named stored => ?_⟩
        simpa [settled, parsed, named, stored] using done
    obtain ⟨restSame, restSettled⟩ := inductionHypothesis noUpdate.2
    rw [unchanged.1] at restSame restSettled
    exact ⟨restSame, unchanged.2, restSettled⟩

/--
What upgrading one CRD should leave on the server, given the CRD its file
defaults to and what is stored under its name: nothing when nothing is
stored; the stored CRD when its Spec is semantically equal to the file's or
the server refuses the change; otherwise the stored CRD with the file's Spec.
-/
def upgradedCRD (env : UpgradeEnv Spec Rest) (crd : CustomResourceDefinition Spec Rest) :
    Option (CustomResourceDefinition Spec Rest) → Option (CustomResourceDefinition Spec Rest)
  | none => none
  | some old =>
    if env.semanticDeepEqual old.spec crd.spec then some old
    else match validate old { old with spec := crd.spec } with
      | some _ => some old
      | none => some { old with spec := crd.spec }

/-- A pass leaves under its file's name what upgrading that CRD should. -/
theorem get?_pass_of_parsed {env : UpgradeEnv Spec Rest} {store : CRDStore Spec Rest}
    {crdFile : String} {read : CustomResourceDefinition Spec Rest}
    (parsed : env.readObjectFromFile crdFile = .ok read) :
    (store.pass validate env crdFile).2.get? (env.setDefaults read).name =
      upgradedCRD validate env (env.setDefaults read) (store.get? (env.setDefaults read).name) := by
  cases stored : store.get? (env.setDefaults read).name with
  | none => simp [pass, parsed, answer, stored, upgradedCRD]
  | some old =>
    have named := name_of_get? stored
    have storedOld : store.get? old.name = some old := named.symm ▸ stored
    simp only [pass, parsed, answer, stored, storedOld, upgradedCRD]
    split_ifs
    · exact stored
    · rcases validate old { old with spec := (env.setDefaults read).spec } with _ | err <;>
        simp [after, stored, named]

/-- A pass leaves every name its file does not parse to as it was. -/
theorem get?_pass_of_unnamed {env : UpgradeEnv Spec Rest} {store : CRDStore Spec Rest}
    {crdFile name : String}
    (unnamed : ∀ read, env.readObjectFromFile crdFile = .ok read →
      (env.setDefaults read).name ≠ name) :
    (store.pass validate env crdFile).2.get? name = store.get? name := by
  rcases get?_pass validate env store crdFile name with same | ⟨read, -, parsed, named, -⟩
  · exact same
  · exact absurd named (unnamed read parsed)

/--
When the files name distinct CRDs, the loop composed with the server leaves
under each parsed file's name what upgrading that CRD alone from the initial
store should: no other file, and no order of the files, plays a part.
-/
theorem get?_passes_of_parsed {env : UpgradeEnv Spec Rest} {files : List String}
    (distinct : (parsedNames env files).Nodup) (store : CRDStore Spec Rest) :
    ∀ crdFile ∈ files, ∀ read, env.readObjectFromFile crdFile = .ok read →
      (store.passes validate env files).2.get? (env.setDefaults read).name =
        upgradedCRD validate env (env.setDefaults read)
          (store.get? (env.setDefaults read).name) := by
  induction files generalizing store with
  | nil => simp
  | cons first rest inductionHypothesis =>
    obtain ⟨restDistinct, unnamedLater⟩ := nodup_parsedNames_cons distinct
    simp only [passes, List.mem_cons, forall_eq_or_imp]
    refine ⟨fun read parsed => ?_, fun later member read' parsed' => ?_⟩
    · rw [(passes_frame validate env rest _ _).untouched (unnamedLater read parsed),
        get?_pass_of_parsed validate parsed]
    · rw [inductionHypothesis restDistinct _ later member read' parsed',
        get?_pass_of_unnamed validate fun read parsed same =>
          unnamedLater read parsed later member read' parsed' same.symm]

variable [DecidableEq Spec] [DecidableEq Rest]

/-- Replay a trace against the server: the store it leaves, when every reply is the server's answer. -/
def replay (store : CRDStore Spec Rest) : List (CRDCall Spec Rest) → Option (CRDStore Spec Rest)
  | [] => some store
  | call :: rest =>
    if call.2 = store.answer validate call.1 then (store.after call).replay rest else none

/-- Replaying two traces one after the other is replaying their concatenation. -/
theorem replay_append (store : CRDStore Spec Rest) (first second : List (CRDCall Spec Rest)) :
    store.replay validate (first ++ second) =
      (store.replay validate first).bind (·.replay validate second) := by
  induction first generalizing store with
  | nil => rfl
  | cons call rest inductionHypothesis =>
    simp only [List.cons_append, replay]
    split_ifs
    · exact inductionHypothesis _
    · rfl

/-- A pass of the code whose trace the server could have produced is the pass composed with the server. -/
theorem replay_upgradeCRDFile {env : UpgradeEnv Spec Rest}
    {reply : Nat → Except String (CustomResourceDefinition Spec Rest)} {crdFile : String}
    {call : Nat} {store store' : CRDStore Spec Rest}
    (replayed : store.replay validate (upgradeCRDFile env reply crdFile call) = some store') :
    (upgradeCRDFile env reply crdFile call, store') = store.pass validate env crdFile := by
  unfold upgradeCRDFile pass at *
  cases parsed : env.readObjectFromFile crdFile with
  | error err =>
    simp_all [replay]
  | ok read =>
    simp only [parsed] at replayed ⊢
    cases fetched : reply call with
    | error err =>
      simp only [fetched, replay, after, Option.ite_none_right_eq_some, Option.some.injEq]
        at replayed
      obtain ⟨answered, rfl⟩ := replayed
      simp [← answered]
    | ok oldCrd =>
      simp only [fetched] at replayed ⊢
      split_ifs at replayed ⊢ with same
      · simp only [replay, after, Option.ite_none_right_eq_some, Option.some.injEq] at replayed
        obtain ⟨answered, rfl⟩ := replayed
        simp [← answered, same]
      · simp only [replay, after_get, Option.ite_none_right_eq_some, Option.some.injEq]
          at replayed
        obtain ⟨answered, updated, rfl⟩ := replayed
        simp [← answered, same, ← updated]

/-- Every run of the loop whose trace the server could have produced is the loop composed with the server. -/
theorem replay_upgradeCRDFiles {env : UpgradeEnv Spec Rest}
    {reply : Nat → Except String (CustomResourceDefinition Spec Rest)} {files : List String}
    {call : Nat} {store final : CRDStore Spec Rest}
    (replayed : store.replay validate
      ((upgradeCRDFiles env reply files call).flatMap FileReport.calls) = some final) :
    upgradeCRDFiles env reply files call = (store.passes validate env files).1 ∧
      final = (store.passes validate env files).2 := by
  induction files generalizing store call with
  | nil =>
    simp only [upgradeCRDFiles, List.flatMap_nil, replay, Option.some.injEq] at replayed
    simp [upgradeCRDFiles, passes, replayed]
  | cons crdFile rest inductionHypothesis =>
    simp only [upgradeCRDFiles, List.flatMap_cons, replay_append] at replayed
    obtain ⟨middle, first, later⟩ := Option.bind_eq_some.mp replayed
    have passed := replay_upgradeCRDFile validate first
    obtain ⟨restReports, restFinal⟩ := inductionHypothesis later
    simp only [passes, ← passed, upgradeCRDFiles, restReports, restFinal, and_self]

/-- The server accepts the trace of a pass composed with it, and is left as the pass says. -/
theorem replay_pass (env : UpgradeEnv Spec Rest) (store : CRDStore Spec Rest) (crdFile : String) :
    store.replay validate (store.pass validate env crdFile).1 =
      some (store.pass validate env crdFile).2 := by
  unfold pass
  cases env.readObjectFromFile crdFile with
  | error err => rfl
  | ok read =>
    simp only
    cases fetched : store.answer validate (.get (env.setDefaults read).name) with
    | error err => simp [replay, fetched]
    | ok oldCrd =>
      simp only
      split_ifs <;> simp [replay, fetched]

/-- The server accepts the trace of the loop composed with it, and is left as the loop says. -/
theorem replay_passes (env : UpgradeEnv Spec Rest) (store : CRDStore Spec Rest)
    (files : List String) :
    store.replay validate ((store.passes validate env files).1.flatMap FileReport.calls) =
      some (store.passes validate env files).2 := by
  induction files generalizing store with
  | nil => rfl
  | cons crdFile rest inductionHypothesis =>
    simp only [passes, List.flatMap_cons, replay_append, replay_pass, Option.some_bind,
      inductionHypothesis]

/--
The composition is exact: for every store and every list of files some
replies make the run of the code one the server produced, and every such run
is the loop composed with the server.
-/
theorem exists_replies_replaying_to_passes (env : UpgradeEnv Spec Rest) (store : CRDStore Spec Rest)
    (files : List String) :
    ∃ reply, store.replay validate ((upgradeCRDFiles env reply files 0).flatMap
      FileReport.calls) = some (store.passes validate env files).2 := by
  refine ⟨traceReply ((store.passes validate env files).1.flatMap FileReport.calls), ?_⟩
  have same := upgradeCRDFiles_of_replies validate env files store [] []
  simp only [List.nil_append, List.append_nil, List.length_nil] at same
  rw [same, replay_passes]

/-- The name of the SparkApplication CRD. -/
def sparkApplicationCRDName : String :=
  "sparkapplications.sparkoperator.k8s.io"

/-- A cluster holding the SparkApplication CRD with Spec `0`. -/
def sampleCRDStore : CRDStore Nat Unit :=
  empty.put ⟨sparkApplicationCRDName, 0, ()⟩

/-- Every file parses to the SparkApplication CRD with its own Spec; defaulting changes nothing. -/
def sampleCRDEnv : UpgradeEnv Nat Unit where
  getConfigError := none
  newClientError := none
  readObjectFromFile := fun crdFile =>
    .ok ⟨sparkApplicationCRDName, if crdFile = "crds/b.yaml" then 2 else 1, ()⟩
  setDefaults := id
  semanticDeepEqual := fun stored read => stored == read

/-- The server's answers to a run over `crds/a.yaml` from `sampleCRDStore`: the stored CRD, then the Update. -/
def sampleFirstReplies : Nat → Except String (CustomResourceDefinition Nat Unit)
  | 0 => .ok ⟨sparkApplicationCRDName, 0, ()⟩
  | _ => .ok ⟨sparkApplicationCRDName, 1, ()⟩

/--
The hook never creates or deletes a CRD: over every run the server answers,
each CRD is stored at the end exactly when it was at the start, keeps its name
and every field but its Spec, which is its own or the defaulted Spec of a file
naming it, and a CRD no file names is untouched.
-/
theorem upgradeCRDFiles_store_frame {env : UpgradeEnv Spec Rest}
    {reply : Nat → Except String (CustomResourceDefinition Spec Rest)} {files : List String}
    {store final : CRDStore Spec Rest}
    (replayed : store.replay validate
      ((upgradeCRDFiles env reply files 0).flatMap FileReport.calls) = some final)
    (name : String) :
    StoreFrame env files store final name := by
  rw [(replay_upgradeCRDFiles validate replayed).2]
  exact passes_frame validate env files store name

theorem upgradeCRDFiles_store_frame_sample :
    sampleCRDStore.replay (fun _ _ => none)
        ((upgradeCRDFiles sampleCRDEnv sampleFirstReplies ["crds/a.yaml"] 0).flatMap
          FileReport.calls) =
      some (sampleCRDStore.put ⟨sparkApplicationCRDName, 1, ()⟩) ∧
    StoreFrame sampleCRDEnv ["crds/a.yaml"] sampleCRDStore
      (sampleCRDStore.put ⟨sparkApplicationCRDName, 1, ()⟩) sparkApplicationCRDName := by
  have replayed : sampleCRDStore.replay (fun _ _ => none)
      ((upgradeCRDFiles sampleCRDEnv sampleFirstReplies ["crds/a.yaml"] 0).flatMap
        FileReport.calls) = some (sampleCRDStore.put ⟨sparkApplicationCRDName, 1, ()⟩) := rfl
  exact ⟨replayed, upgradeCRDFiles_store_frame (fun _ _ => none) replayed _⟩

/--
Run again on the store it left, the hook sends no Update and changes nothing,
when the files name distinct CRDs, semantic equality is reflexive and the
server admitted every Update of the first run.
-/
theorem upgradeCRDFiles_rerun_sends_no_update {env : UpgradeEnv Spec Rest}
    {reply reply' : Nat → Except String (CustomResourceDefinition Spec Rest)}
    {files : List String} {store final final' : CRDStore Spec Rest}
    (reflexive : ∀ spec, env.semanticDeepEqual spec spec = true)
    (distinct : (parsedNames env files).Nodup)
    (firstRun : store.replay validate
      ((upgradeCRDFiles env reply files 0).flatMap FileReport.calls) = some final)
    (admitted : ∀ report ∈ upgradeCRDFiles env reply files 0, ∀ crd err,
      (.update crd, .error err) ∉ report.calls)
    (secondRun : final.replay validate
      ((upgradeCRDFiles env reply' files 0).flatMap FileReport.calls) = some final') :
    (∀ report ∈ upgradeCRDFiles env reply' files 0, ∀ crd response,
      (.update crd, response) ∉ report.calls) ∧ final' = final := by
  obtain ⟨firstReports, firstFinal⟩ := replay_upgradeCRDFiles validate firstRun
  obtain ⟨secondReports, secondFinal⟩ := replay_upgradeCRDFiles validate secondRun
  rw [firstReports] at admitted
  have done := passes_settles validate reflexive distinct admitted
  rw [← firstFinal] at done
  obtain ⟨same, noUpdate⟩ := passes_of_settled validate done
  rw [secondReports, secondFinal]
  exact ⟨noUpdate, same⟩

theorem upgradeCRDFiles_rerun_sends_no_update_sample :
    (∀ spec, sampleCRDEnv.semanticDeepEqual spec spec = true) ∧
    (parsedNames sampleCRDEnv ["crds/a.yaml"]).Nodup ∧
    sampleCRDStore.replay (fun _ _ => none)
        ((upgradeCRDFiles sampleCRDEnv sampleFirstReplies ["crds/a.yaml"] 0).flatMap
          FileReport.calls) =
      some (sampleCRDStore.put ⟨sparkApplicationCRDName, 1, ()⟩) ∧
    (∀ report ∈ upgradeCRDFiles sampleCRDEnv sampleFirstReplies ["crds/a.yaml"] 0,
      ∀ crd err, (.update crd, .error err) ∉ report.calls) ∧
    (sampleCRDStore.put ⟨sparkApplicationCRDName, 1, ()⟩).replay (fun _ _ => none)
        ((upgradeCRDFiles sampleCRDEnv (fun _ => .ok ⟨sparkApplicationCRDName, 1, ()⟩)
          ["crds/a.yaml"] 0).flatMap FileReport.calls) =
      some (sampleCRDStore.put ⟨sparkApplicationCRDName, 1, ()⟩) ∧
    (∀ report ∈ upgradeCRDFiles sampleCRDEnv (fun _ => .ok ⟨sparkApplicationCRDName, 1, ()⟩)
        ["crds/a.yaml"] 0,
      ∀ crd response, (.update crd, response) ∉ report.calls) := by
  have reflexive : ∀ spec, sampleCRDEnv.semanticDeepEqual spec spec = true := by
    simp [sampleCRDEnv]
  have admitted : ∀ report ∈ upgradeCRDFiles sampleCRDEnv sampleFirstReplies ["crds/a.yaml"] 0,
      ∀ crd err, (.update crd, .error err) ∉ report.calls := by
    simp [upgradeCRDFiles, upgradeCRDFile, sampleCRDEnv, sampleFirstReplies]
  have firstRun : sampleCRDStore.replay (fun _ _ => none)
      ((upgradeCRDFiles sampleCRDEnv sampleFirstReplies ["crds/a.yaml"] 0).flatMap
        FileReport.calls) = some (sampleCRDStore.put ⟨sparkApplicationCRDName, 1, ()⟩) := rfl
  have secondRun : (sampleCRDStore.put ⟨sparkApplicationCRDName, 1, ()⟩).replay (fun _ _ => none)
      ((upgradeCRDFiles sampleCRDEnv (fun _ => .ok ⟨sparkApplicationCRDName, 1, ()⟩)
        ["crds/a.yaml"] 0).flatMap FileReport.calls) =
      some (sampleCRDStore.put ⟨sparkApplicationCRDName, 1, ()⟩) := rfl
  exact ⟨reflexive, by decide, firstRun, admitted, secondRun,
    (upgradeCRDFiles_rerun_sends_no_update (fun _ _ => none) reflexive (by decide) firstRun
      admitted secondRun).1⟩

/--
Two files that give a stored CRD Specs that are not semantically equal make
every run the server answers send an Update of that CRD, when semantic
equality is symmetric and transitive: the hook never settles.
-/
theorem upgradeCRDFiles_conflicting_files_update {env : UpgradeEnv Spec Rest}
    {reply : Nat → Except String (CustomResourceDefinition Spec Rest)} {files : List String}
    {store final : CRDStore Spec Rest}
    (symmetric : ∀ a b, env.semanticDeepEqual a b = env.semanticDeepEqual b a)
    (transitive : ∀ a b c, env.semanticDeepEqual a b = true →
      env.semanticDeepEqual b c = true → env.semanticDeepEqual a c = true)
    (replayed : store.replay validate
      ((upgradeCRDFiles env reply files 0).flatMap FileReport.calls) = some final)
    {first second : String} {read₁ read₂ : CustomResourceDefinition Spec Rest}
    (member₁ : first ∈ files) (member₂ : second ∈ files)
    (parsed₁ : env.readObjectFromFile first = .ok read₁)
    (parsed₂ : env.readObjectFromFile second = .ok read₂)
    (sameName : (env.setDefaults read₂).name = (env.setDefaults read₁).name)
    (stored : (store.get? (env.setDefaults read₁).name).isSome)
    (conflicting : env.semanticDeepEqual (env.setDefaults read₁).spec
      (env.setDefaults read₂).spec = false) :
    ∃ report ∈ upgradeCRDFiles env reply files 0, ∃ crd response,
      (.update crd, response) ∈ report.calls ∧ crd.name = (env.setDefaults read₁).name := by
  rw [(replay_upgradeCRDFiles validate replayed).1]
  by_contra noUpdate
  push_neg at noUpdate
  obtain ⟨old, found⟩ := Option.isSome_iff_exists.mp stored
  have settled := (passes_of_no_update validate noUpdate).2
  have equal₁ := settled first member₁ read₁ old parsed₁ rfl found
  have equal₂ := settled second member₂ read₂ old parsed₂ sameName found
  rw [symmetric] at equal₁
  rw [transitive _ _ _ equal₁ equal₂] at conflicting
  cases conflicting

theorem upgradeCRDFiles_conflicting_files_update_sample :
    (∀ a b, sampleCRDEnv.semanticDeepEqual a b = sampleCRDEnv.semanticDeepEqual b a) ∧
    (∀ a b c, sampleCRDEnv.semanticDeepEqual a b = true →
      sampleCRDEnv.semanticDeepEqual b c = true → sampleCRDEnv.semanticDeepEqual a c = true) ∧
    sampleCRDStore.replay (fun _ _ => none)
        ((upgradeCRDFiles sampleCRDEnv
          (fun call => .ok ⟨sparkApplicationCRDName, (call + 1) / 2, ()⟩)
          ["crds/a.yaml", "crds/b.yaml"] 0).flatMap FileReport.calls) =
      some ((sampleCRDStore.put ⟨sparkApplicationCRDName, 1, ()⟩).put
        ⟨sparkApplicationCRDName, 2, ()⟩) ∧
    ∃ report ∈ upgradeCRDFiles sampleCRDEnv
        (fun call => .ok ⟨sparkApplicationCRDName, (call + 1) / 2, ()⟩)
        ["crds/a.yaml", "crds/b.yaml"] 0, ∃ crd response,
      (.update crd, response) ∈ report.calls ∧ crd.name = sparkApplicationCRDName := by
  have symmetric : ∀ a b, sampleCRDEnv.semanticDeepEqual a b =
      sampleCRDEnv.semanticDeepEqual b a := fun a b => by
    simp only [sampleCRDEnv]
    exact Bool.beq_comm
  have transitive : ∀ a b c, sampleCRDEnv.semanticDeepEqual a b = true →
      sampleCRDEnv.semanticDeepEqual b c = true → sampleCRDEnv.semanticDeepEqual a c = true := by
    simp only [sampleCRDEnv, beq_iff_eq]
    exact fun _ _ _ => Eq.trans
  have replayed : sampleCRDStore.replay (fun _ _ => none)
      ((upgradeCRDFiles sampleCRDEnv
        (fun call => .ok ⟨sparkApplicationCRDName, (call + 1) / 2, ()⟩)
        ["crds/a.yaml", "crds/b.yaml"] 0).flatMap FileReport.calls) =
      some ((sampleCRDStore.put ⟨sparkApplicationCRDName, 1, ()⟩).put
        ⟨sparkApplicationCRDName, 2, ()⟩) := rfl
  exact ⟨symmetric, transitive, replayed, upgradeCRDFiles_conflicting_files_update (fun _ _ => none)
    symmetric transitive replayed (show "crds/a.yaml" ∈ ["crds/a.yaml", "crds/b.yaml"] by simp)
    (show "crds/b.yaml" ∈ ["crds/a.yaml", "crds/b.yaml"] by simp) rfl rfl rfl rfl rfl⟩

/-- The name of the ScheduledSparkApplication CRD. -/
def scheduledSparkApplicationCRDName : String :=
  "scheduledsparkapplications.sparkoperator.k8s.io"

/-- A cluster holding both CRDs of the operator, each with Spec `0`. -/
def sampleTwoCRDStore : CRDStore Nat Unit :=
  sampleCRDStore.put ⟨scheduledSparkApplicationCRDName, 0, ()⟩

/-- `crds/scheduled.yaml` parses to the ScheduledSparkApplication CRD, every other file to the SparkApplication CRD, each with Spec `1`. -/
def sampleTwoCRDEnv : UpgradeEnv Nat Unit :=
  { sampleCRDEnv with
    readObjectFromFile := fun crdFile =>
      .ok ⟨if crdFile = "crds/scheduled.yaml" then scheduledSparkApplicationCRDName
        else sparkApplicationCRDName, 1, ()⟩ }

/-- The server's answers to a run over both files from `sampleTwoCRDStore`: each Get, then each Update. -/
def sampleTwoCRDReplies (call : Nat) : Except String (CustomResourceDefinition Nat Unit) :=
  .ok ⟨if call < 2 then sparkApplicationCRDName else scheduledSparkApplicationCRDName,
    call % 2, ()⟩

/--
When the files name distinct CRDs, every run the server answers leaves under
each parsed file's name what upgrading that CRD alone from the initial store
should: the stored CRD, or the stored CRD with the file's Spec when the Specs
differ semantically and the server admits the change.  No other file, and no
order of the files, plays a part.
-/
theorem upgradeCRDFiles_final_store {env : UpgradeEnv Spec Rest}
    {reply : Nat → Except String (CustomResourceDefinition Spec Rest)} {files : List String}
    {store final : CRDStore Spec Rest}
    (distinct : (parsedNames env files).Nodup)
    (replayed : store.replay validate
      ((upgradeCRDFiles env reply files 0).flatMap FileReport.calls) = some final) :
    ∀ crdFile ∈ files, ∀ read, env.readObjectFromFile crdFile = .ok read →
      final.get? (env.setDefaults read).name =
        upgradedCRD validate env (env.setDefaults read)
          (store.get? (env.setDefaults read).name) := by
  rw [(replay_upgradeCRDFiles validate replayed).2]
  exact get?_passes_of_parsed validate distinct store

theorem upgradeCRDFiles_final_store_two_crds :
    (parsedNames sampleTwoCRDEnv ["crds/a.yaml", "crds/scheduled.yaml"]).Nodup ∧
      sampleTwoCRDStore.replay (fun _ _ => none)
          ((upgradeCRDFiles sampleTwoCRDEnv sampleTwoCRDReplies
            ["crds/a.yaml", "crds/scheduled.yaml"] 0).flatMap FileReport.calls) =
        some ((sampleTwoCRDStore.put ⟨sparkApplicationCRDName, 1, ()⟩).put
          ⟨scheduledSparkApplicationCRDName, 1, ()⟩) ∧
      ∀ crdFile ∈ ["crds/a.yaml", "crds/scheduled.yaml"], ∀ read,
        sampleTwoCRDEnv.readObjectFromFile crdFile = .ok read →
        ((sampleTwoCRDStore.put ⟨sparkApplicationCRDName, 1, ()⟩).put
            ⟨scheduledSparkApplicationCRDName, 1, ()⟩).get? (sampleTwoCRDEnv.setDefaults read).name =
          upgradedCRD (fun _ _ => none) sampleTwoCRDEnv (sampleTwoCRDEnv.setDefaults read)
            (sampleTwoCRDStore.get? (sampleTwoCRDEnv.setDefaults read).name) := by
  have distinct : (parsedNames sampleTwoCRDEnv ["crds/a.yaml", "crds/scheduled.yaml"]).Nodup := by
    decide
  have replayed : sampleTwoCRDStore.replay (fun _ _ => none)
      ((upgradeCRDFiles sampleTwoCRDEnv sampleTwoCRDReplies
        ["crds/a.yaml", "crds/scheduled.yaml"] 0).flatMap FileReport.calls) =
      some ((sampleTwoCRDStore.put ⟨sparkApplicationCRDName, 1, ()⟩).put
        ⟨scheduledSparkApplicationCRDName, 1, ()⟩) := rfl
  exact ⟨distinct, replayed, upgradeCRDFiles_final_store (fun _ _ => none) distinct replayed⟩

end CRDStore

end SparkOperator
