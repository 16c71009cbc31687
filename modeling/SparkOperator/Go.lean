import Mathlib.Data.List.Nodup
import Mathlib.Data.List.Perm.Basic

namespace SparkOperator

/-!
# Go maps and runtime panics

A Go `map[K]V` has distinct keys and no order of its own: every `range` over
it visits the entries in an order the runtime picks afresh.  The model lists
the entries in the order of one such `range`.  Two maps whose entry lists are
permutations of each other are the same Go map visited in two orders, so a
statement over every map is also a statement over every iteration order.

Code that can panic returns `Except RuntimePanic`; a panic ends the handler
that raised it.
-/

/-- The run-time errors the modelled code can raise. -/
inductive RuntimePanic where
  /-- A field read through a nil pointer. -/
  | nilPointerDereference
  /-- A single-value type assertion `x.(T)` on a value whose dynamic type is not `T`. -/
  | failedTypeAssertion
  /-- `time.NewTicker` called with a non-positive interval. -/
  | nonPositiveTickerInterval
  /-- `close` of a channel that is already closed. -/
  | closeOfClosedChannel
  deriving Repr, DecidableEq

/-- Read through a pointer: a nil one panics. -/
def deref {α : Type} : Option α → Except RuntimePanic α
  | some value => .ok value
  | none => .error .nilPointerDereference

/-- A value that was returned is handed on. -/
@[simp] theorem ok_bind {ε α β : Type} (value : α) (next : α → Except ε β) :
    (Except.ok value >>= next) = next value :=
  rfl

/-- A panic ends the computation. -/
@[simp] theorem error_bind {ε α β : Type} (failure : ε) (next : α → Except ε β) :
    (Except.error failure >>= next) = Except.error failure :=
  rfl

@[simp] theorem pure_eq_ok {ε α : Type} (value : α) :
    (pure value : Except ε α) = Except.ok value :=
  rfl

@[simp] theorem deref_some {α : Type} (value : α) : deref (some value) = .ok value :=
  rfl

@[simp] theorem deref_none {α : Type} : deref (none : Option α) = .error .nilPointerDereference :=
  rfl

/-- A Go map, listed in the order one `range` visits its entries. -/
structure GoMap (K V : Type) where
  entries : List (K × V)
  nodupKeys : (entries.map Prod.fst).Nodup
  deriving DecidableEq

namespace GoMap

variable {K V : Type}

/-- The empty map that `make(map[K]V)` builds. -/
def empty : GoMap K V :=
  ⟨[], List.nodup_nil⟩

instance : Inhabited (GoMap K V) :=
  ⟨empty⟩

/-- The keys of a map, in iteration order. -/
def keys (m : GoMap K V) : List K :=
  m.entries.map Prod.fst

@[simp] theorem keys_empty : (empty : GoMap K V).keys = [] :=
  rfl

/-- A map's keys are distinct. -/
theorem nodup_keys (m : GoMap K V) : m.keys.Nodup :=
  m.nodupKeys

/-- Any entry of a map can be the last one a `range` visits. -/
theorem exists_visited_last
    {m : GoMap K V} {entry : K × V}
    (member : entry ∈ m.entries) :
    ∃ reordered : GoMap K V,
      reordered.entries.Perm m.entries ∧
        ∃ rest, reordered.entries = rest ++ [entry] := by
  obtain ⟨before, after, split⟩ := List.append_of_mem member
  have samePairs : ((before ++ after) ++ [entry]).Perm m.entries := by
    rw [split]
    exact (List.perm_append_singleton entry _).trans List.perm_middle.symm
  exact ⟨⟨_, (samePairs.map Prod.fst).nodup_iff.mpr m.nodupKeys⟩, samePairs, _, rfl⟩

variable [DecidableEq K]

/-- The lookup `value, ok := m[key]`, with `ok` read as `Option.isSome`. -/
def get? (m : GoMap K V) (key : K) : Option V :=
  m.entries.lookup key

/-- Overwrite the entry of `key`, or add one after the others. -/
def setEntry (key : K) (value : V) : List (K × V) → List (K × V)
  | [] => [(key, value)]
  | (k, v) :: rest =>
      if k = key then
        (key, value) :: rest
      else
        (k, v) :: setEntry key value rest

/-- Assignment keeps every key and adds `key` when it was missing. -/
theorem map_fst_setEntry
    (key : K) (value : V) (entries : List (K × V)) :
    (setEntry key value entries).map Prod.fst =
      if key ∈ entries.map Prod.fst then
        entries.map Prod.fst
      else
        entries.map Prod.fst ++ [key] := by
  induction entries with
  | nil =>
      simp [setEntry]
  | cons entry rest inductionHypothesis =>
      obtain ⟨k, v⟩ := entry
      by_cases same : k = key
      · subst same
        simp [setEntry]
      · have keyNe : key ≠ k := Ne.symm same
        simp only [setEntry, same, if_false, List.map_cons,
          inductionHypothesis, List.mem_cons, keyNe, false_or]
        split_ifs <;> rfl

/-- Assignment never duplicates a key. -/
theorem nodup_setEntry
    {key : K} {value : V} {entries : List (K × V)}
    (distinct : (entries.map Prod.fst).Nodup) :
    ((setEntry key value entries).map Prod.fst).Nodup := by
  rw [map_fst_setEntry]
  split_ifs with present
  · exact distinct
  · exact distinct.append (List.nodup_singleton key)
      (List.disjoint_singleton.mpr present)

/-- One step of a lookup, as an `if`. -/
theorem lookup_cons_eq_ite (k k' : K) (v : V) (rest : List (K × V)) :
    ((k', v) :: rest).lookup k = if k = k' then some v else rest.lookup k := by
  by_cases hit : k = k'
  · subst hit
    simp
  · have differs : (k == k') = false := by simpa using hit
    rw [List.lookup_cons, differs, if_neg hit]

/-- Reading after an assignment sees the assigned value at its key only. -/
theorem lookup_setEntry
    (key k : K) (value : V) (entries : List (K × V)) :
    (setEntry key value entries).lookup k =
      if k = key then some value else entries.lookup k := by
  induction entries with
  | nil =>
      simp [setEntry, lookup_cons_eq_ite]
  | cons entry rest inductionHypothesis =>
      obtain ⟨k', v⟩ := entry
      by_cases same : k' = key
      · subst same
        by_cases hit : k = k' <;> simp [setEntry, lookup_cons_eq_ite, hit]
      · by_cases hit : k = k'
        · subst hit
          simp [setEntry, lookup_cons_eq_ite, same]
        · simp [setEntry, lookup_cons_eq_ite, same, hit, inductionHypothesis]

/-- The assignment `m[key] = value`. -/
def set (m : GoMap K V) (key : K) (value : V) : GoMap K V :=
  ⟨setEntry key value m.entries, nodup_setEntry m.nodupKeys⟩

@[simp] theorem get?_empty (k : K) :
    (empty : GoMap K V).get? k = none :=
  rfl

@[simp] theorem get?_set (m : GoMap K V) (key k : K) (value : V) :
    (m.set key value).get? k =
      if k = key then some value else m.get? k :=
  lookup_setEntry key k value m.entries

/-- Assigning a key the value a lookup already finds changes nothing. -/
theorem setEntry_of_lookup
    {key : K} {value : V} {entries : List (K × V)}
    (found : entries.lookup key = some value) :
    setEntry key value entries = entries := by
  induction entries with
  | nil =>
      cases found
  | cons entry rest inductionHypothesis =>
      obtain ⟨k, v⟩ := entry
      rw [lookup_cons_eq_ite] at found
      by_cases same : k = key
      · subst same
        simp only [if_true, Option.some.injEq] at found
        simp [setEntry, found]
      · simp only [Ne.symm same, if_false] at found
        simp [setEntry, same, inductionHypothesis found]

/-- The assignment `m[key] = value` of the value `m[key]` already holds leaves the map as it is. -/
theorem set_of_get? {m : GoMap K V} {key : K} {value : V}
    (found : m.get? key = some value) :
    m.set key value = m := by
  obtain ⟨entries, nodupKeys⟩ := m
  simpa [set] using setEntry_of_lookup found

/-- The keys after an assignment, in iteration order. -/
theorem keys_set (m : GoMap K V) (key : K) (value : V) :
    (m.set key value).keys =
      if key ∈ m.keys then m.keys else m.keys ++ [key] :=
  map_fst_setEntry key value m.entries

/-- In a list with distinct keys, a lookup finds exactly the listed pairs. -/
theorem lookup_eq_some_iff_mem
    {entries : List (K × V)}
    (distinct : (entries.map Prod.fst).Nodup)
    {k : K} {v : V} :
    entries.lookup k = some v ↔ (k, v) ∈ entries := by
  induction entries with
  | nil =>
      simp
  | cons entry rest inductionHypothesis =>
      obtain ⟨k', v'⟩ := entry
      simp only [List.map_cons, List.nodup_cons, List.mem_map] at distinct
      by_cases hit : k = k'
      · subst hit
        have absent : (k, v) ∉ rest := fun member =>
          distinct.1 ⟨(k, v), member, rfl⟩
        simp [lookup_cons_eq_ite, absent, eq_comm]
      · simp [lookup_cons_eq_ite, hit, inductionHypothesis distinct.2]

/-- `delete(m, key)`. -/
def erase (m : GoMap K V) (key : K) : GoMap K V where
  entries := m.entries.filter (·.1 ≠ key)
  nodupKeys := m.nodupKeys.sublist ((List.filter_sublist _).map Prod.fst)

@[simp] theorem get?_erase (m : GoMap K V) (key k : K) :
    (m.erase key).get? k = if k = key then none else m.get? k := by
  refine Option.ext fun v => ?_
  simp only [Option.mem_def, get?, lookup_eq_some_iff_mem (m.erase key).nodupKeys]
  split_ifs with same
  · simp [erase, same]
  · simp [erase, same, lookup_eq_some_iff_mem m.nodupKeys]

/-- A key that a lookup finds is a key of the map. -/
theorem mem_keys_of_get?_eq_some {m : GoMap K V} {k : K} {v : V}
    (found : m.get? k = some v) :
    k ∈ m.keys :=
  List.mem_map_of_mem Prod.fst ((lookup_eq_some_iff_mem m.nodupKeys).mp found)

/--
When every key of `m` stays a key of `m'`, the entries of `m'` whose key maps
to `value` in `m` are as many as the entries of `m` holding `value`.
-/
theorem countP_get?_eq_countP
    [DecidableEq V] (m m' : GoMap K V) (value : V)
    (kept : ∀ k ∈ m.keys, k ∈ m'.keys) :
    m'.entries.countP (fun entry => m.get? entry.1 = some value) =
      m.entries.countP (fun entry => entry.2 = value) := by
  have byKey : ∀ other : GoMap K V,
      other.entries.countP (fun entry => m.get? entry.1 = some value) =
        (other.keys.filter fun k => m.get? k = some value).length := fun other => by
    rw [keys, List.filter_map, List.length_map, List.countP_eq_length_filter]
    rfl
  have sameValue : m.entries.countP (fun entry => entry.2 = value) =
      m.entries.countP (fun entry => m.get? entry.1 = some value) :=
    List.countP_congr fun entry member => by
      have listed : m.get? entry.1 = some entry.2 :=
        (lookup_eq_some_iff_mem m.nodupKeys).mpr member
      simp only [decide_eq_true_eq, listed, Option.some.injEq, eq_comm]
  rw [byKey m', sameValue, byKey m]
  refine List.Perm.length_eq
    ((List.perm_ext_iff_of_nodup ((nodup_keys m').filter _) ((nodup_keys m).filter _)).mpr
      fun k => ?_)
  simp only [List.mem_filter, decide_eq_true_eq]
  exact ⟨fun ⟨_, found⟩ => ⟨mem_keys_of_get?_eq_some found, found⟩,
    fun ⟨_, found⟩ => ⟨kept k (mem_keys_of_get?_eq_some found), found⟩⟩

/-- The index expression `m[key]` on a map field that may be nil: a nil map has no entries. -/
def index? (m : Option (GoMap K V)) (key : K) : Option V :=
  (m.getD empty).get? key

/-- A map field that is set is read as that map. -/
@[simp] theorem index?_some (m : GoMap K V) (key : K) :
    index? (some m) key = m.get? key :=
  rfl

/-- A map field made first when it is nil is read as the field itself. -/
@[simp] theorem get?_getD_empty (m : Option (GoMap K V)) (key : K) :
    (m.getD empty).get? key = index? m key :=
  rfl

end GoMap

end SparkOperator
