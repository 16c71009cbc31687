import SparkOperator.Go

namespace SparkOperator

/-!
# The CRD upgrade of the hook

`upgradeCRDs` walks the CRD directory with `filepath.Walk`, collects every
entry that `os.Lstat` does not report as a directory and whose name ends in
`.yaml` (symbolic links included, never followed), then file by file reads
the CRD, defaults it, fetches the stored CRD of that name and updates its Spec
when the two Specs differ.  A failure on a file is logged and the loop goes on;
only a failed walk ends the function early.  The readers, defaulting and
semantic equality of k8s.io are parameters bundled in `UpgradeEnv`, and the
API server's replies are an arbitrary oracle indexed by call number.
-/

/-- The type of a non-directory entry, as `os.Lstat` reports it. -/
inductive FileType where
  | regular
  | symlink
  | namedPipe
  | socket
  | device
  deriving DecidableEq

/--
A directory tree as `filepath.Walk` reads it.  An entry that `os.Lstat`
cannot read, or a directory that `readDirNames` cannot list, carries the error.
-/
inductive FileTree where
  | file (name : String) (type : FileType)
  | dir (name : String) (entries : List FileTree)
  | failed (name : String) (err : String)

/-- The name of an entry in its directory. -/
def FileTree.name : FileTree → String
  | .file name _ => name
  | .dir name _ => name
  | .failed name _ => name

/-- `filepath.Join(path, name)` for an entry name, which has no separator. -/
def joinPath (path name : String) : String :=
  path ++ "/" ++ name

/--
The backward scan of `filepath.Ext` over the path's characters from the last:
the suffix from the last dot, or nothing when a separator or the start comes
first.
-/
def extScan : List Char → List Char → String
  | [], _ => ""
  | '/' :: _, _ => ""
  | '.' :: _, suffix => String.mk ('.' :: suffix)
  | c :: rest, suffix => extScan rest (c :: suffix)

/-- `filepath.Ext`. -/
def ext (path : String) : String :=
  extScan path.toList.reverse []

example : ext "crds/sparkoperator.k8s.io_sparkapplications.yaml" = ".yaml" := by
  decide

example : ext "crds.d/README" = "" := by
  decide

mutual

/--
`filepath.Walk(path, fn)` from the entry at `path`, with the callback of
`upgradeCRDs`: the paths of the non-directory `.yaml` entries in walk order,
or the first error the walk hands to the callback, which returns it.
-/
def walkCRDFiles (path : String) : FileTree → Except String (List String)
  | .file _ _ => .ok (if ext path = ".yaml" then [path] else [])
  | .dir _ entries => walkEntries path entries
  | .failed _ err => .error err

/-- The loop of `walk` over the entries of the directory at `path`, stopping at the first error. -/
def walkEntries (path : String) : List FileTree → Except String (List String)
  | [] => .ok []
  | entry :: rest => do
    let found ← walkCRDFiles (joinPath path entry.name) entry
    let later ← walkEntries path rest
    pure (found ++ later)

end

/-- What `os.Lstat`, and for a directory `readDirNames`, said of an entry. -/
inductive EntryInfo where
  | file (type : FileType)
  | dir
  | failed (err : String)
  deriving DecidableEq

/-- The error the walk hands to the callback for an entry, if any. -/
def EntryInfo.error? : EntryInfo → Option String
  | .failed err => some err
  | _ => none

mutual

/-- Every entry of the tree at `path`, in walk order, each directory before its entries. -/
def FileTree.listing (path : String) : FileTree → List (String × EntryInfo)
  | .file _ type => [(path, .file type)]
  | .dir _ entries => (path, .dir) :: FileTree.listingEntries path entries
  | .failed _ err => [(path, .failed err)]

/-- The listings of the entries of the directory at `path`, one after the other. -/
def FileTree.listingEntries (path : String) : List FileTree → List (String × EntryInfo)
  | [] => []
  | entry :: rest =>
    entry.listing (joinPath path entry.name) ++ FileTree.listingEntries path rest

end

/-- The path of an entry the callback of `upgradeCRDs` collects: not a directory, and of extension `.yaml`. -/
def crdCandidate : String × EntryInfo → Option String
  | (path, .file _) => if ext path = ".yaml" then some path else none
  | _ => none

/-- What a walk over a listing returns with that callback: the first error handed to it, or every collected path. -/
def walkOutcome (listing : List (String × EntryInfo)) : Except String (List String) :=
  match listing.findSome? (·.2.error?) with
  | some err => .error err
  | none => .ok (listing.filterMap crdCandidate)

/-- Walking two listings one after the other is walking their concatenation. -/
theorem walkOutcome_append (first second : List (String × EntryInfo)) :
    walkOutcome (first ++ second) = (do
      let found ← walkOutcome first
      let later ← walkOutcome second
      pure (found ++ later)) := by
  unfold walkOutcome
  rw [List.findSome?_append]
  cases (first.findSome? (·.2.error?)) <;> cases (second.findSome? (·.2.error?)) <;>
    simp [List.filterMap_append]

/-- The directory itself hands the callback no error and is not collected. -/
@[simp] theorem walkOutcome_dir_cons (path : String) (listing : List (String × EntryInfo)) :
    walkOutcome ((path, .dir) :: listing) = walkOutcome listing := by
  simp [walkOutcome, List.findSome?_cons, EntryInfo.error?, crdCandidate]

mutual

/-- The callback-driven walk returns what the listing of the tree says. -/
theorem walkCRDFiles_eq_walkOutcome (path : String) :
    (entry : FileTree) → walkCRDFiles path entry = walkOutcome (entry.listing path)
  | .file _ _ => by
    simp only [walkCRDFiles, FileTree.listing, walkOutcome, List.findSome?_cons,
      EntryInfo.error?, List.findSome?_nil, List.filterMap_cons, crdCandidate]
    split_ifs <;> rfl
  | .dir _ entries => by
    rw [walkCRDFiles, FileTree.listing, walkOutcome_dir_cons,
      walkEntries_eq_walkOutcome path entries]
  | .failed _ _ => rfl

/-- The loop over a directory's entries returns what their listings say. -/
theorem walkEntries_eq_walkOutcome (path : String) :
    (entries : List FileTree) →
      walkEntries path entries = walkOutcome (FileTree.listingEntries path entries)
  | [] => rfl
  | entry :: rest => by
    rw [walkEntries, FileTree.listingEntries, walkOutcome_append,
      walkCRDFiles_eq_walkOutcome _ entry, walkEntries_eq_walkOutcome path rest]

end

/-- The part of `apiextensionsv1.CustomResourceDefinition` that the function reads; `rest` is the rest of the object. -/
structure CustomResourceDefinition (Spec Rest : Type) where
  name : String
  spec : Spec
  rest : Rest
  deriving DecidableEq

/-- A call of the client in the loop. -/
inductive CRDRequest (Spec Rest : Type) where
  | get (name : String)
  | update (crd : CustomResourceDefinition Spec Rest)
  deriving DecidableEq

/-- What `upgradeCRDs` takes from outside the excerpt. -/
structure UpgradeEnv (Spec Rest : Type) where
  /-- The error of `ctrl.GetConfig()`, if any. -/
  getConfigError : Option String
  /-- The error of `client.New`, if any. -/
  newClientError : Option String
  /--
  `util.ReadObjectFromFile`, for reads that return: on a named pipe with no
  writer, `os.ReadFile` blocks, and the hook with it.
  -/
  readObjectFromFile : String → Except String (CustomResourceDefinition Spec Rest)
  /-- `apiextensionsv1.SetDefaults_CustomResourceDefinition`. -/
  setDefaults : CustomResourceDefinition Spec Rest → CustomResourceDefinition Spec Rest
  /-- `equality.Semantic.DeepEqual` on Specs. -/
  semanticDeepEqual : Spec → Spec → Bool

/-- One client call with the reply it received. -/
abbrev CRDCall (Spec Rest : Type) :=
  CRDRequest Spec Rest × Except String (CustomResourceDefinition Spec Rest)

/-- What the loop did with one file: the file and the client calls it made. -/
structure FileReport (Spec Rest : Type) where
  file : String
  calls : List (CRDCall Spec Rest)

/-- How `upgradeCRDs` ends without reaching the files. -/
inductive UpgradeFailure where
  /-- `os.Exit(1)`, when no kube config is found. -/
  | exit (code : Nat)
  | error (message : String)
  deriving DecidableEq

section

variable {Spec Rest : Type}

/--
One pass of the loop over `crdFiles`, its calls answered by `reply` from call
number `call` on: a file that does not parse is skipped; otherwise its
defaulted CRD is fetched by name, and the stored object, its Spec replaced, is
sent back when the Specs are not semantically equal.
-/
def upgradeCRDFile (env : UpgradeEnv Spec Rest)
    (reply : Nat → Except String (CustomResourceDefinition Spec Rest))
    (crdFile : String) (call : Nat) : List (CRDCall Spec Rest) :=
  match env.readObjectFromFile crdFile with
  | .error _ => []
  | .ok read =>
    let crd := env.setDefaults read
    match reply call with
    | .error err => [(.get crd.name, .error err)]
    | .ok oldCrd =>
      if env.semanticDeepEqual oldCrd.spec crd.spec then
        [(.get crd.name, .ok oldCrd)]
      else
        [(.get crd.name, .ok oldCrd), (.update { oldCrd with spec := crd.spec }, reply (call + 1))]

/-- The loop over `crdFiles`, from call number `call` on. -/
def upgradeCRDFiles (env : UpgradeEnv Spec Rest)
    (reply : Nat → Except String (CustomResourceDefinition Spec Rest)) :
    List String → Nat → List (FileReport Spec Rest)
  | [], _ => []
  | crdFile :: rest, call =>
    let calls := upgradeCRDFile env reply crdFile call
    ⟨crdFile, calls⟩ :: upgradeCRDFiles env reply rest (call + calls.length)

/-- `upgradeCRDs` with `crdsPath` and the tree found there: what the loop did with each file, or how it ended early. -/
def upgradeCRDs (env : UpgradeEnv Spec Rest)
    (reply : Nat → Except String (CustomResourceDefinition Spec Rest))
    (crdsPath : String) (root : FileTree) :
    Except UpgradeFailure (List (FileReport Spec Rest)) :=
  match env.getConfigError, env.newClientError with
  | some _, _ => .error (.exit 1)
  | none, some err => .error (.error ("failed to create k8s client: " ++ err))
  | none, none =>
    match walkCRDFiles crdsPath root with
    | .error err => .error (.error ("failed to walk crds path: " ++ err))
    | .ok crdFiles => .ok (upgradeCRDFiles env reply crdFiles 0)

/-- What handling one CRD file means, in the calls recorded for it. -/
structure FileHandled (env : UpgradeEnv Spec Rest) (report : FileReport Spec Rest) : Prop where
  /-- A file that does not parse is skipped without a call. -/
  unparsed : ∀ err, env.readObjectFromFile report.file = .error err → report.calls = []
  /-- A file that parses is fetched first, by the name of its defaulted CRD. -/
  fetched : ∀ read, env.readObjectFromFile report.file = .ok read →
    ∃ fetchReply, report.calls.head? = some (.get (env.setDefaults read).name, fetchReply)
  /--
  An Update is sent exactly when the file parses, the fetch succeeds and the
  stored Spec is not semantically equal to the defaulted one; it carries the
  stored object with only its Spec replaced.
  -/
  updated : ∀ newCrd, (∃ updateReply, (.update newCrd, updateReply) ∈ report.calls) ↔
    ∃ read stored, env.readObjectFromFile report.file = .ok read ∧
      (.get (env.setDefaults read).name, .ok stored) ∈ report.calls ∧
      env.semanticDeepEqual stored.spec (env.setDefaults read).spec = false ∧
      newCrd = { stored with spec := (env.setDefaults read).spec }
  /-- Nothing is sent but the fetch and the Update. -/
  atMostTwoCalls : report.calls.length ≤ 2

/-- One pass of the loop handles its file, whatever the replies. -/
theorem upgradeCRDFile_handled (env : UpgradeEnv Spec Rest)
    (reply : Nat → Except String (CustomResourceDefinition Spec Rest))
    (crdFile : String) (call : Nat) :
    FileHandled env ⟨crdFile, upgradeCRDFile env reply crdFile call⟩ := by
  cases parsed : env.readObjectFromFile crdFile with
  | error err =>
    constructor <;> simp [upgradeCRDFile, parsed]
  | ok read =>
    cases fetched : reply call with
    | error err =>
      constructor <;> simp [upgradeCRDFile, parsed, fetched]
    | ok stored =>
      by_cases same : env.semanticDeepEqual stored.spec (env.setDefaults read).spec
      · constructor <;> simp [upgradeCRDFile, parsed, fetched, same]
      · constructor <;> simp [upgradeCRDFile, parsed, fetched, same]

/-- The replies recorded in one pass are the oracle's, at consecutive call numbers. -/
theorem upgradeCRDFile_replies (env : UpgradeEnv Spec Rest)
    (reply : Nat → Except String (CustomResourceDefinition Spec Rest))
    (crdFile : String) (call : Nat) :
    (upgradeCRDFile env reply crdFile call).map Prod.snd =
      (List.range' call (upgradeCRDFile env reply crdFile call).length).map reply := by
  cases parsed : env.readObjectFromFile crdFile with
  | error err =>
    simp [upgradeCRDFile, parsed]
  | ok read =>
    cases fetched : reply call with
    | error err =>
      simp [upgradeCRDFile, parsed, fetched, List.range']
    | ok stored =>
      by_cases same : env.semanticDeepEqual stored.spec (env.setDefaults read).spec <;>
        simp [upgradeCRDFile, parsed, fetched, same, List.range']

/-- Every file gets its pass, in order, whatever became of the files before it. -/
theorem upgradeCRDFiles_files (env : UpgradeEnv Spec Rest)
    (reply : Nat → Except String (CustomResourceDefinition Spec Rest))
    (files : List String) (call : Nat) :
    (upgradeCRDFiles env reply files call).map FileReport.file = files := by
  induction files generalizing call with
  | nil => rfl
  | cons crdFile rest inductionHypothesis =>
    simp only [upgradeCRDFiles, List.map_cons, inductionHypothesis]

/-- The replies recorded over the loop are the oracle's, at consecutive call numbers from `call`. -/
theorem upgradeCRDFiles_replies (env : UpgradeEnv Spec Rest)
    (reply : Nat → Except String (CustomResourceDefinition Spec Rest))
    (files : List String) (call : Nat) :
    ((upgradeCRDFiles env reply files call).flatMap FileReport.calls).map Prod.snd =
      (List.range' call
        ((upgradeCRDFiles env reply files call).flatMap FileReport.calls).length).map reply := by
  induction files generalizing call with
  | nil => rfl
  | cons crdFile rest inductionHypothesis =>
    simp only [upgradeCRDFiles, List.flatMap_cons, List.map_append, List.length_append,
      inductionHypothesis, upgradeCRDFile_replies]
    rw [← List.map_append, List.range'_append_1, Nat.add_comm]

/-- Every pass of the loop handles its file. -/
theorem upgradeCRDFiles_handled (env : UpgradeEnv Spec Rest)
    (reply : Nat → Except String (CustomResourceDefinition Spec Rest))
    (files : List String) (call : Nat) :
    ∀ report ∈ upgradeCRDFiles env reply files call, FileHandled env report := by
  induction files generalizing call with
  | nil => simp [upgradeCRDFiles]
  | cons crdFile rest inductionHypothesis =>
    simp only [upgradeCRDFiles, List.mem_cons, forall_eq_or_imp]
    exact ⟨upgradeCRDFile_handled env reply crdFile call, inductionHypothesis _⟩

/-- Once the client exists, `upgradeCRDs` is the walk over the listing of the tree, then the loop from call number zero. -/
theorem upgradeCRDs_of_client (env : UpgradeEnv Spec Rest)
    (reply : Nat → Except String (CustomResourceDefinition Spec Rest))
    (crdsPath : String) (root : FileTree)
    (configured : env.getConfigError = none) (connected : env.newClientError = none) :
    upgradeCRDs env reply crdsPath root =
      match walkOutcome (root.listing crdsPath) with
      | .error err => .error (.error ("failed to walk crds path: " ++ err))
      | .ok crdFiles => .ok (upgradeCRDFiles env reply crdFiles 0) := by
  simp only [upgradeCRDs, configured, connected, walkCRDFiles_eq_walkOutcome]

/-- What `upgradeCRDs` does, once the client exists, with the tree at `crdsPath`. -/
structure UpgradeBehaviour (env : UpgradeEnv Spec Rest)
    (reply : Nat → Except String (CustomResourceDefinition Spec Rest))
    (crdsPath : String) (root : FileTree) : Prop where
  /-- It fails exactly when the walk hands the callback an error. -/
  failsOnlyOnWalk : (∃ failure, upgradeCRDs env reply crdsPath root = .error failure) ↔
    ∃ entry ∈ root.listing crdsPath, entry.2.error?.isSome
  /-- Otherwise every entry that is not a directory and has extension `.yaml` gets a pass, in walk order. -/
  everyCandidate : ∀ reports, upgradeCRDs env reply crdsPath root = .ok reports →
    reports.map FileReport.file = (root.listing crdsPath).filterMap crdCandidate
  /-- The replies recorded are the API server's, in the order of the calls. -/
  repliesInOrder : ∀ reports, upgradeCRDs env reply crdsPath root = .ok reports →
    (reports.flatMap FileReport.calls).map Prod.snd =
      (List.range (reports.flatMap FileReport.calls).length).map reply
  /-- Each pass handles its file. -/
  eachHandled : ∀ reports, upgradeCRDs env reply crdsPath root = .ok reports →
    ∀ report ∈ reports, FileHandled env report

/--
Once the client exists, for every tree and every pattern of read, Get and
Update failures, `upgradeCRDs` fails only on a failed walk, and otherwise
handles each non-directory `.yaml` entry in walk order.
-/
theorem upgradeCRDs_handles_every_candidate (env : UpgradeEnv Spec Rest)
    (reply : Nat → Except String (CustomResourceDefinition Spec Rest))
    (crdsPath : String) (root : FileTree)
    (configured : env.getConfigError = none) (connected : env.newClientError = none) :
    UpgradeBehaviour env reply crdsPath root := by
  have ran := upgradeCRDs_of_client env reply crdsPath root configured connected
  unfold walkOutcome at ran
  cases walked : (root.listing crdsPath).findSome? (·.2.error?) with
  | some err =>
    rw [walked] at ran
    have failedEntry : ∃ entry ∈ root.listing crdsPath, entry.2.error?.isSome :=
      List.findSome?_isSome_iff.mp (by simp [walked])
    refine ⟨iff_of_true ⟨_, ran⟩ failedEntry, ?_, ?_, ?_⟩ <;>
      intro _ returned <;> simp [ran] at returned
  | none =>
    rw [walked] at ran
    have noFailure : ¬ ∃ entry ∈ root.listing crdsPath, entry.2.error?.isSome := by
      simpa [List.findSome?_eq_none_iff, Option.isSome_iff_ne_none] using walked
    refine ⟨iff_of_false (by simp [ran]) noFailure, ?_, ?_, ?_⟩ <;>
      intro reports returned <;>
      simp only [ran, Except.ok.injEq] at returned <;>
      subst returned
    · exact upgradeCRDFiles_files env reply _ 0
    · rw [List.range_eq_range']
      exact upgradeCRDFiles_replies env reply _ 0
    · exact upgradeCRDFiles_handled env reply _ 0

/-- A CRD directory with a README and one CRD file. -/
def sampleCRDTree : FileTree :=
  .dir "crds" [.file "README.md" .regular, .file "sparkapplications.yaml" .regular]

/-- A cluster reached without error, where every file parses to the same CRD and defaulting changes nothing. -/
def sampleUpgradeEnv : UpgradeEnv Nat Unit where
  getConfigError := none
  newClientError := none
  readObjectFromFile := fun _ => .ok ⟨"sparkapplications.sparkoperator.k8s.io", 1, ()⟩
  setDefaults := id
  semanticDeepEqual := fun stored read => stored == read

theorem upgradeCRDs_handles_every_candidate_sample :
    sampleUpgradeEnv.getConfigError = none ∧ sampleUpgradeEnv.newClientError = none ∧
      UpgradeBehaviour sampleUpgradeEnv
        (fun _ => .ok ⟨"sparkapplications.sparkoperator.k8s.io", 0, ()⟩) "crds" sampleCRDTree :=
  ⟨rfl, rfl, upgradeCRDs_handles_every_candidate _ _ _ _ rfl rfl⟩

/-- The entries the words "every regular file with extension .yaml" take: regular files only. -/
def regularYamlFile : String × EntryInfo → Option String
  | (path, .file .regular) => if ext path = ".yaml" then some path else none
  | _ => none

/-- A CRD directory whose one entry is a symbolic link `crd.yaml`, as a mounted ConfigMap volume lists its files. -/
def symlinkedCRDTree : FileTree :=
  .dir "crds" [.file "crd.yaml" .symlink]

/--
`os.Lstat` reports a symbolic link as a non-directory, so the loop takes it:
in no environment are the files processed just the regular `.yaml` files.
-/
theorem upgradeCRDs_processes_symlinked_yaml :
    ¬ ∃ env : UpgradeEnv Unit Unit, env.getConfigError = none ∧ env.newClientError = none ∧
      ∀ reply reports, upgradeCRDs env reply "crds" symlinkedCRDTree = .ok reports →
        reports.map FileReport.file =
          (symlinkedCRDTree.listing "crds").filterMap regularYamlFile := by
  rintro ⟨env, configured, connected, regularOnly⟩
  have ran : upgradeCRDs env (fun _ => .error "") "crds" symlinkedCRDTree =
      .ok (upgradeCRDFiles env (fun _ => .error "") ["crds/crd.yaml"] 0) := by
    rw [upgradeCRDs_of_client _ _ _ _ configured connected]
    rfl
  have processed := regularOnly _ _ ran
  rw [upgradeCRDFiles_files] at processed
  exact absurd processed (by decide)

end

end SparkOperator
