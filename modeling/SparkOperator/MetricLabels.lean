import Mathlib.Data.List.Dedup
import SparkOperator.Resources

namespace SparkOperator

/-!
# Metric label values

`newSparkAppMetrics` normalises the configured label names once, and
`fetchMetricLabels` maps an application's labels onto them before every
metric call.  The application's label keys are normalised too, so two keys
such as `app-id` and `app_id` can land on one name; which of their values
survives is then decided by the order in which `range` visits the map.

The main result says what the label map is: one key per distinct configured
name, each holding the value of the last application label that normalises to
it, or `"Unknown"`; and it is the same for every iteration order exactly when
no two colliding application labels disagree.
-/

variable (util : Util)

/-- The field of `sparkAppMetrics` that `exportMetrics` reads: the label names its vectors carry. -/
structure SparkAppMetrics where
  labels : List String

/-- `newSparkAppMetrics`, reduced to the field `exportMetrics` reads. -/
def newSparkAppMetrics (labels : List String) : SparkAppMetrics where
  labels := labels.map (util.createValidMetricNameLabel "")

/-- One step of the first loop of `fetchMetricLabels`. -/
def addValidSpecLabel
    (valid : GoMap String String) (entry : String × String) :
    GoMap String String :=
  valid.set (util.createValidMetricNameLabel "" entry.1) entry.2

/-- The first loop of `fetchMetricLabels`: the application labels under their normalised keys. -/
def validSpecLabels (specLabels : GoMap String String) : GoMap String String :=
  specLabels.entries.foldl (addValidSpecLabel util) GoMap.empty

/-- One step of the second loop of `fetchMetricLabels`. -/
def addMetricLabel
    (valid : GoMap String String)
    (metricLabels : GoMap String String) (label : String) :
    GoMap String String :=
  match valid.get? label with
  | some value => metricLabels.set label value
  | none => metricLabels.set label "Unknown"

/-- `fetchMetricLabels(specLabels, labels)`. -/
def fetchMetricLabels
    (specLabels : GoMap String String) (labels : List String) :
    GoMap String String :=
  labels.foldl (addMetricLabel (validSpecLabels util specLabels)) GoMap.empty

/-- The value of the last entry, in iteration order, whose key normalises to `label`. -/
def lastNormalisedValue
    (label : String) (entries : List (String × String)) : Option String :=
  (entries.reverse.find?
      (fun entry => util.createValidMetricNameLabel "" entry.1 = label)).map Prod.snd

/--
No two application labels whose keys normalise to the same configured name
carry different values.
-/
def LabelValuesAgree (labels : List String) (specLabels : GoMap String String) : Prop :=
  ∀ first ∈ specLabels.entries, ∀ second ∈ specLabels.entries,
    util.createValidMetricNameLabel "" first.1 =
        util.createValidMetricNameLabel "" second.1 →
      util.createValidMetricNameLabel "" first.1 ∈ labels →
      first.2 = second.2

/-- The first loop keeps, for every normalised key, the last value written to it. -/
theorem get?_foldl_addValidSpecLabel
    (label : String) (entries : List (String × String))
    (valid : GoMap String String) :
    (entries.foldl (addValidSpecLabel util) valid).get? label =
      (lastNormalisedValue util label entries).or (valid.get? label) := by
  induction entries generalizing valid with
  | nil =>
      simp [lastNormalisedValue]
  | cons entry rest inductionHypothesis =>
      by_cases hit : util.createValidMetricNameLabel "" entry.1 = label
      · simp only [List.foldl_cons, inductionHypothesis, addValidSpecLabel,
          GoMap.get?_set, hit, if_true, lastNormalisedValue, List.reverse_cons,
          List.find?_append]
        cases rest.reverse.find?
            (fun entry => util.createValidMetricNameLabel "" entry.1 = label) <;>
          simp [hit]
      · simp [inductionHypothesis, lastNormalisedValue, List.find?_append,
          addValidSpecLabel, hit, Ne.symm hit]

@[simp] theorem get?_validSpecLabels
    (specLabels : GoMap String String) (label : String) :
    (validSpecLabels util specLabels).get? label =
      lastNormalisedValue util label specLabels.entries := by
  simp [validSpecLabels, get?_foldl_addValidSpecLabel]

/-- The value the second loop writes for a configured name. -/
theorem addMetricLabel_eq_set
    (valid metricLabels : GoMap String String) (label : String) :
    addMetricLabel valid metricLabels label =
      metricLabels.set label ((valid.get? label).getD "Unknown") := by
  unfold addMetricLabel
  split <;> simp_all

/-- The second loop writes every configured name and nothing else. -/
theorem get?_foldl_addMetricLabel
    (valid : GoMap String String) (labels : List String)
    (metricLabels : GoMap String String) (label : String) :
    (labels.foldl (addMetricLabel valid) metricLabels).get? label =
      if label ∈ labels then some ((valid.get? label).getD "Unknown")
      else metricLabels.get? label := by
  induction labels generalizing metricLabels with
  | nil =>
      simp
  | cons first rest inductionHypothesis =>
      by_cases hit : label = first
      · subst hit
        simp [inductionHypothesis, addMetricLabel_eq_set]
      · simp [inductionHypothesis, addMetricLabel_eq_set, hit]

/-- The second loop adds exactly the configured names to the keys. -/
theorem mem_keys_foldl_addMetricLabel
    (valid : GoMap String String) (labels : List String)
    (metricLabels : GoMap String String) (label : String) :
    label ∈ (labels.foldl (addMetricLabel valid) metricLabels).keys ↔
      label ∈ metricLabels.keys ∨ label ∈ labels := by
  induction labels generalizing metricLabels with
  | nil =>
      simp
  | cons first rest inductionHypothesis =>
      simp only [List.foldl_cons, inductionHypothesis, addMetricLabel_eq_set,
        GoMap.keys_set, List.mem_cons]
      split_ifs with present
      · exact ⟨Or.imp_right Or.inr, fun member =>
          member.elim Or.inl (Or.elim · (fun same => Or.inl (same ▸ present)) Or.inr)⟩
      · simp only [List.mem_append, List.mem_singleton]
        tauto

/-- The second loop's result depends only on the values it reads for the configured names. -/
theorem foldl_addMetricLabel_congr
    {valid valid' : GoMap String String} (labels : List String)
    (sameValues : ∀ label ∈ labels, valid.get? label = valid'.get? label)
    (metricLabels : GoMap String String) :
    labels.foldl (addMetricLabel valid) metricLabels =
      labels.foldl (addMetricLabel valid') metricLabels := by
  induction labels generalizing metricLabels with
  | nil =>
      rfl
  | cons first rest inductionHypothesis =>
      have headSame := sameValues first (List.mem_cons_self first rest)
      simp only [List.foldl_cons, addMetricLabel_eq_set, headSame]
      exact inductionHypothesis
        (fun label member => sameValues label (List.mem_cons_of_mem first member)) _

/-- The last matching value is the value of some matching entry. -/
theorem lastNormalisedValue_eq_some
    {label value : String} {entries : List (String × String)}
    (found : lastNormalisedValue util label entries = some value) :
    ∃ entry ∈ entries,
      util.createValidMetricNameLabel "" entry.1 = label ∧ entry.2 = value := by
  simp only [lastNormalisedValue, Option.map_eq_some'] at found
  obtain ⟨entry, located, rfl⟩ := found
  exact ⟨entry, List.mem_reverse.mp (List.mem_of_find?_eq_some located),
    by simpa using List.find?_some located, rfl⟩

/-- Without a matching entry there is no last matching value. -/
theorem lastNormalisedValue_eq_none
    {label : String} {entries : List (String × String)} :
    lastNormalisedValue util label entries = none ↔
      ∀ entry ∈ entries, util.createValidMetricNameLabel "" entry.1 ≠ label := by
  simp [lastNormalisedValue, List.find?_eq_none]

/--
When colliding labels agree, the last matching value is the same in every
iteration order.
-/
theorem lastNormalisedValue_perm
    {labels : List String} {specLabels specLabels' : GoMap String String}
    (agree : LabelValuesAgree util labels specLabels)
    (samePairs : specLabels'.entries.Perm specLabels.entries)
    {label : String} (configured : label ∈ labels) :
    lastNormalisedValue util label specLabels'.entries =
      lastNormalisedValue util label specLabels.entries := by
  cases found : lastNormalisedValue util label specLabels.entries with
  | none =>
      rw [lastNormalisedValue_eq_none] at found ⊢
      exact fun entry member => found entry (samePairs.subset member)
  | some value =>
      cases found' : lastNormalisedValue util label specLabels'.entries with
      | none =>
          rw [lastNormalisedValue_eq_none] at found'
          obtain ⟨entry, member, normalises, -⟩ :=
            lastNormalisedValue_eq_some util found
          exact absurd normalises (found' entry (samePairs.symm.subset member))
      | some value' =>
          obtain ⟨entry, member, normalises, rfl⟩ :=
            lastNormalisedValue_eq_some util found
          obtain ⟨entry', member', normalises', rfl⟩ :=
            lastNormalisedValue_eq_some util found'
          have collide := normalises'.trans normalises.symm
          exact congrArg some (agree entry' (samePairs.subset member') entry member
            collide (normalises' ▸ configured))

/-- The entry a `range` visits last decides the normalised value of its key. -/
theorem lastNormalisedValue_append_singleton
    {label : String} (rest : List (String × String)) {entry : String × String}
    (normalises : util.createValidMetricNameLabel "" entry.1 = label) :
    lastNormalisedValue util label (rest ++ [entry]) = some entry.2 := by
  simp [lastNormalisedValue, normalises]

/-- The label map keeps one key per distinct configured name. -/
theorem keys_fetchMetricLabels_perm
    (specLabels : GoMap String String) (labels : List String) :
    (fetchMetricLabels util specLabels labels).keys.Perm labels.dedup :=
  (List.perm_ext_iff_of_nodup (GoMap.nodup_keys _) (List.nodup_dedup labels)).mpr
    fun label => by
      simp [fetchMetricLabels, mem_keys_foldl_addMetricLabel]

/-- The value of the label map at every name. -/
theorem get?_fetchMetricLabels
    (specLabels : GoMap String String) (labels : List String) (label : String) :
    (fetchMetricLabels util specLabels labels).get? label =
      if label ∈ labels then
        some ((lastNormalisedValue util label specLabels.entries).getD "Unknown")
      else
        none := by
  simp [fetchMetricLabels, get?_foldl_addMetricLabel]

/-- Agreeing colliding labels make the label map independent of the iteration order. -/
theorem fetchMetricLabels_perm
    {labels : List String} {specLabels reordered : GoMap String String}
    (agree : LabelValuesAgree util labels specLabels)
    (samePairs : reordered.entries.Perm specLabels.entries) :
    fetchMetricLabels util reordered labels =
      fetchMetricLabels util specLabels labels :=
  foldl_addMetricLabel_congr labels
    (fun label configured => by
      simp [lastNormalisedValue_perm util agree samePairs configured])
    GoMap.empty

/-- Two colliding labels that disagree give two iteration orders with different label maps. -/
theorem fetchMetricLabels_order_dependent
    {labels : List String} {specLabels : GoMap String String}
    (disagree : ¬ LabelValuesAgree util labels specLabels) :
    ∃ first second : GoMap String String,
      first.entries.Perm specLabels.entries ∧
        second.entries.Perm specLabels.entries ∧
        fetchMetricLabels util first labels ≠ fetchMetricLabels util second labels := by
  simp only [LabelValuesAgree, not_forall, exists_prop] at disagree
  obtain ⟨a, memberA, b, memberB, collide, configured, differ⟩ := disagree
  obtain ⟨lastA, permA, restA, shapeA⟩ := GoMap.exists_visited_last memberA
  obtain ⟨lastB, permB, restB, shapeB⟩ := GoMap.exists_visited_last memberB
  refine ⟨lastA, lastB, permA, permB, fun same => differ ?_⟩
  have atLabel := congrArg
    (fun metricLabels => metricLabels.get? (util.createValidMetricNameLabel "" a.1)) same
  simpa [get?_fetchMetricLabels, configured, shapeA, shapeB,
    lastNormalisedValue_append_singleton util restA rfl,
    lastNormalisedValue_append_singleton util restB collide.symm] using atLabel

/--
What `fetchMetricLabels` returns for the names of `newSparkAppMetrics`: one
key per distinct configured name; at each name the value of the last
application label that normalises to it, or `"Unknown"`; and the same map for
every iteration order exactly when colliding application labels agree.
-/
theorem fetchMetricLabels_newSparkAppMetrics
    (labels : List String) (specLabels : GoMap String String) :
    let sm := newSparkAppMetrics util labels
    (fetchMetricLabels util specLabels sm.labels).keys.Perm sm.labels.dedup ∧
      (∀ label, (fetchMetricLabels util specLabels sm.labels).get? label =
        if label ∈ sm.labels then
          some ((lastNormalisedValue util label specLabels.entries).getD "Unknown")
        else
          none) ∧
      (LabelValuesAgree util sm.labels specLabels ↔
        ∀ reordered : GoMap String String,
          reordered.entries.Perm specLabels.entries →
            fetchMetricLabels util reordered sm.labels =
              fetchMetricLabels util specLabels sm.labels) := by
  intro sm
  refine ⟨keys_fetchMetricLabels_perm util specLabels sm.labels,
    get?_fetchMetricLabels util specLabels sm.labels,
    fun agree _ samePairs => fetchMetricLabels_perm util agree samePairs,
    fun orderFree => ?_⟩
  by_contra disagree
  obtain ⟨first, second, permFirst, permSecond, differ⟩ :=
    fetchMetricLabels_order_dependent util disagree
  exact differ ((orderFree first permFirst).trans (orderFree second permSecond).symm)

/--
Whatever `CreateValidMetricNameLabel` does, a configured name listed twice
gives the label map fewer keys than the vectors have label names.
-/
theorem fetchMetricLabels_repeated_label_name :
    ¬ ∃ util : Util, ∀ (labels : List String) (specLabels : GoMap String String),
      (fetchMetricLabels util specLabels (newSparkAppMetrics util labels).labels).keys.length =
        (newSparkAppMetrics util labels).labels.length := by
  rintro ⟨util, sameCount⟩
  have repeated := sameCount ["namespace", "namespace"] GoMap.empty
  simp [fetchMetricLabels, newSparkAppMetrics, addMetricLabel_eq_set,
    GoMap.keys_set] at repeated

end SparkOperator
