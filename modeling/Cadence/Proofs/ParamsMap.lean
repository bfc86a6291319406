import Mathlib
import Cadence.Document.Forms

/-!
# Parameters as a finite map

Parameters are built from a batch of pairs and then changed by writing a value under a key,
removing a key, or writing another batch of pairs in order. Each of these is a sequence of
writes, a key with the value it is given or with none for a removal. A key then holds the
value of its last write (`Params.valueAfter`): the value of the last pair for it that no
removal follows, and nothing when there is none, two pairs of one batch included.

This module shows that the map follows its writes, one change at a time
(`Params.Realizes.apply`) and over a whole history (`Params.Realizes.applyAll`), and that
every view of the map reads the same map: a key is contained exactly when it holds a value, a
write and a removal answer the value the key held, the size counts the keys that hold a value,
and the entries, keys and values list the held values, one entry per key. The document form of
parameters reads back as the same map.

Main statement: `Params.applyAll_lastWriteWins`.
-/

namespace Cadence

namespace Params

/-! ### Writes -/

/-- What `key` holds after the writes of `history`, each a key and the value written there,
none for a removal: the value of the last write to the key, none if it was never written. -/
def valueAfter (history : List (String × Option String)) (key : String) : Option String :=
  (history.reverse.find? fun write => write.1 == key).bind Prod.snd

/-- A last write decides its own key and leaves the others. -/
theorem valueAfter_append_write (history : List (String × Option String)) (written : String)
    (value : Option String) (key : String) :
    valueAfter (history ++ [(written, value)]) key =
      if written = key then value else valueAfter history key := by
  unfold valueAfter
  by_cases same : written = key
  · simp [same]
  · simp [same]

/-- A key that holds a value was written. -/
theorem mem_keys_of_valueAfter_isSome {history : List (String × Option String)} {key : String}
    (holds : (valueAfter history key).isSome) : key ∈ history.map Prod.fst := by
  unfold valueAfter at holds
  cases found : history.reverse.find? (fun write => write.1 == key) with
  | none => simp [found] at holds
  | some write =>
    have mem := List.mem_reverse.1 (List.mem_of_find?_eq_some found)
    have named : write.1 = key := by simpa using List.find?_some found
    exact List.mem_map.2 ⟨write, mem, named⟩

/-- The written keys that hold a value after the writes of `history`, each once. -/
def heldKeys (history : List (String × Option String)) : List String :=
  (history.map Prod.fst).dedup.filter fun key => (valueAfter history key).isSome

theorem mem_heldKeys_iff (history : List (String × Option String)) (key : String) :
    key ∈ heldKeys history ↔ (valueAfter history key).isSome := by
  rw [heldKeys, List.mem_filter, List.mem_dedup]
  exact ⟨fun ⟨_, holds⟩ => by simpa using holds,
    fun holds => ⟨mem_keys_of_valueAfter_isSome holds, by simpa using holds⟩⟩

/-- The writes of a batch of pairs, in order. -/
def batchWrites (pairs : List (String × String)) : List (String × Option String) :=
  pairs.map fun pair => (pair.1, some pair.2)

@[simp] theorem batchWrites_nil : batchWrites [] = [] := rfl

@[simp] theorem batchWrites_cons (pair : String × String) (pairs : List (String × String)) :
    batchWrites (pair :: pairs) = (pair.1, some pair.2) :: batchWrites pairs := rfl

/-- A change of parameters. -/
inductive Change where
  /-- Writes `value` under `key`. -/
  | put (key value : String)
  /-- Removes `key`. -/
  | remove (key : String)
  /-- Writes the pairs in order. -/
  | extend (pairs : List (String × String))

/-- The writes a change makes, in order. -/
def Change.writes : Change → List (String × Option String)
  | .put key value => [(key, some value)]
  | .remove key => [(key, none)]
  | .extend pairs => batchWrites pairs

/-- The parameters after a change. -/
def apply (p : Params) : Change → Params
  | .put key value => (p.put key value).2
  | .remove key => (p.remove key).2
  | .extend pairs => p.extend pairs

/-- The parameters after each change in turn. -/
def applyAll (p : Params) (changes : List Change) : Params := changes.foldl apply p

/-- The writes of parameters built from `init` and then changed by `changes`. -/
def history (init : List (String × String)) (changes : List Change) :
    List (String × Option String) :=
  batchWrites init ++ changes.flatMap Change.writes

/-! ### The map follows its writes -/

theorem get?_empty (key : String) : empty.get? key = none := by
  simp [get?, empty, Std.TreeMap.get?_eq_getElem?]

theorem get?_put (p : Params) (written value key : String) :
    (p.put written value).2.get? key = if written = key then some value else p.get? key := by
  simp only [get?, put, Std.TreeMap.get?_eq_getElem?, Std.TreeMap.getElem?_insert,
    compare_eq_iff_eq]

theorem get?_remove (p : Params) (removed key : String) :
    (p.remove removed).2.get? key = if removed = key then none else p.get? key := by
  simp only [get?, remove, Std.TreeMap.get?_eq_getElem?, Std.TreeMap.getElem?_erase,
    compare_eq_iff_eq]

/-- The parameters hold, under every key, what the writes of `history` leave there. -/
def Realizes (p : Params) (history : List (String × Option String)) : Prop :=
  ∀ key, p.get? key = valueAfter history key

theorem realizes_empty : empty.Realizes [] := get?_empty

theorem Realizes.put {p : Params} {history : List (String × Option String)}
    (realizes : p.Realizes history) (key value : String) :
    (p.put key value).2.Realizes (history ++ [(key, some value)]) := by
  intro other
  rw [get?_put, valueAfter_append_write, realizes other]

theorem Realizes.remove {p : Params} {history : List (String × Option String)}
    (realizes : p.Realizes history) (key : String) :
    (p.remove key).2.Realizes (history ++ [(key, none)]) := by
  intro other
  rw [get?_remove, valueAfter_append_write, realizes other]

/-- A batch is written pair by pair, so of two pairs with one key the later wins. -/
theorem Realizes.extend {p : Params} {history : List (String × Option String)}
    (realizes : p.Realizes history) (pairs : List (String × String)) :
    (p.extend pairs).Realizes (history ++ batchWrites pairs) := by
  induction pairs generalizing p history with
  | nil => simpa [Params.extend] using realizes
  | cons pair pairs inductionHypothesis =>
    have written := inductionHypothesis (realizes.put pair.1 pair.2)
    simpa [Params.extend, List.foldl_cons] using written

/-- One change keeps the parameters in step with the history, extended by the change's writes. -/
theorem Realizes.apply {p : Params} {history : List (String × Option String)}
    (realizes : p.Realizes history) (change : Change) :
    (p.apply change).Realizes (history ++ change.writes) := by
  cases change with
  | put key value => exact realizes.put key value
  | remove key => exact realizes.remove key
  | extend pairs => exact realizes.extend pairs

/-- A whole sequence of changes keeps the parameters in step with the history. -/
theorem Realizes.applyAll {p : Params} {history : List (String × Option String)}
    (realizes : p.Realizes history) (changes : List Change) :
    (p.applyAll changes).Realizes (history ++ changes.flatMap Change.writes) := by
  induction changes generalizing p history with
  | nil => simpa [Params.applyAll] using realizes
  | cons change changes inductionHypothesis =>
    have changed := inductionHypothesis (realizes.apply change)
    simpa [Params.applyAll, List.foldl_cons] using changed

theorem realizes_ofList (pairs : List (String × String)) :
    (ofList pairs).Realizes (batchWrites pairs) := by
  simpa [ofList] using realizes_empty.extend pairs

theorem realizes_history (init : List (String × String)) (changes : List Change) :
    ((ofList init).applyAll changes).Realizes (history init changes) :=
  (realizes_ofList init).applyAll changes

/-! ### Views of the map -/

theorem containsKey_eq (p : Params) (key : String) : p.containsKey key = (p.get? key).isSome := by
  simp only [containsKey, get?, Std.TreeMap.contains_eq_isSome_getElem?,
    Std.TreeMap.get?_eq_getElem?]

theorem mem_toList_iff (p : Params) (key value : String) :
    (key, value) ∈ p.toList ↔ p.get? key = some value := by
  simp only [toList, get?, Std.TreeMap.mem_toList_iff_getElem?_eq_some,
    Std.TreeMap.get?_eq_getElem?]

/-- No key has two entries. -/
theorem nodup_keys_toList (p : Params) : (p.toList.map Prod.fst).Nodup := by
  rw [List.Nodup, List.pairwise_map]
  exact p.entries.distinct_keys_toList.imp fun distinct same =>
    distinct (compare_eq_iff_eq.2 same)

theorem keys_eq (p : Params) : p.keys = p.toList.map Prod.fst :=
  p.entries.map_fst_toList_eq_keys.symm

theorem values_eq (p : Params) : p.values = p.toList.map Prod.snd := by
  simp only [values, toList, Std.TreeMap.values, Std.TreeMap.toList, Std.DTreeMap.values,
    Std.DTreeMap.Const.toList, Std.DTreeMap.Internal.Impl.Const.toList_eq_toListModel_map,
    Std.DTreeMap.Internal.Impl.values_eq_map_snd, List.map_map]
  rfl

theorem size_eq_length_toList (p : Params) : p.size = p.toList.length :=
  p.entries.length_toList.symm

theorem isEmpty_iff (p : Params) : p.isEmpty = true ↔ p.size = 0 := by
  simp [isEmpty, size, Std.TreeMap.isEmpty_eq_size_eq_zero]

/-- The keys of the entries are the keys that hold a value. -/
theorem mem_keys_toList_iff (p : Params) (key : String) :
    key ∈ p.toList.map Prod.fst ↔ (p.get? key).isSome := by
  constructor
  · intro listed
    obtain ⟨⟨other, value⟩, mem, rfl⟩ := List.mem_map.1 listed
    simp [(p.mem_toList_iff other value).1 mem]
  · intro holds
    obtain ⟨value, held⟩ := Option.isSome_iff_exists.1 holds
    exact List.mem_map.2 ⟨(key, value), (p.mem_toList_iff key value).2 held, rfl⟩

/-- The size counts the written keys that hold a value. -/
theorem Realizes.size_eq {p : Params} {history : List (String × Option String)}
    (realizes : p.Realizes history) : p.size = (heldKeys history).length := by
  have counted : (heldKeys history).Nodup := (List.nodup_dedup _).filter _
  -- both lists name each held key once
  have same : (p.toList.map Prod.fst).Perm (heldKeys history) := by
    rw [List.perm_ext_iff_of_nodup p.nodup_keys_toList counted]
    intro key
    rw [mem_keys_toList_iff, realizes key, mem_heldKeys_iff]
  rw [size_eq_length_toList, ← List.length_map (f := Prod.fst), same.length_eq]

/-! ### The document form -/

/-- Reading the texts of the entries of a map gives the entries back. -/
theorem mapM_readText (entries : List (String × String)) :
    ((entries.map fun (k, v) => (k, Document.text v)).mapM fun (k, v) => do
        return (k, ← v.readText)) = .ok entries := by
  induction entries with
  | nil => rfl
  | cons entry entries inductionHypothesis =>
    simp only [List.map_cons, List.mapM_cons, inductionHypothesis]
    rfl

/-- The entries of parameters, written as a batch, give the same parameters. -/
theorem realizes_batchWrites_toList (p : Params) : p.Realizes (batchWrites p.toList) := by
  intro key
  unfold valueAfter batchWrites
  cases found : (p.toList.map fun pair => (pair.1, some pair.2)).reverse.find?
      (fun write => write.1 == key) with
  | none =>
    -- no entry has the key, so the key holds nothing
    cases held : p.get? key with
    | none => rfl
    | some value =>
      have listed : (key, some value) ∈ p.toList.map fun pair => (pair.1, some pair.2) :=
        List.mem_map.2 ⟨(key, value), (p.mem_toList_iff key value).2 held, rfl⟩
      have unnamed := List.find?_eq_none.1 found (key, some value) (List.mem_reverse.2 listed)
      simp at unnamed
  | some write =>
    have named : write.1 = key := by simpa using List.find?_some found
    obtain ⟨⟨other, value⟩, mem, rfl⟩ := List.mem_map.1 (List.mem_reverse.1
      (List.mem_of_find?_eq_some found))
    simp only at named
    subst named
    simpa using (p.mem_toList_iff other value).1 mem

/-- The document form of parameters reads back as parameters with the same entries. -/
theorem ofDocument_toDocument (p : Params) :
    ∃ q, ofDocument p.toDocument = .ok q ∧ q.toList = p.toList := by
  refine ⟨ofList p.toList, ?_, ?_⟩
  · simp only [ofDocument, toDocument, mapM_readText]
    rfl
  · have same : ∀ key, (ofList p.toList).entries[key]? = p.entries[key]? := fun key => by
      have := (realizes_ofList p.toList) key
      rw [← realizes_batchWrites_toList p key] at this
      simpa [get?, Std.TreeMap.get?_eq_getElem?] using this
    exact (Std.TreeMap.Equiv.of_forall_constGet?_eq same).toList_eq

/-! ### Last write wins -/

/-- Parameters changed by any sequence of writes, removals and batches behave as the finite map of
their last writes, through every accessor and the document form. -/
theorem applyAll_lastWriteWins (init : List (String × String)) (changes : List Change) :
    let p := (ofList init).applyAll changes
    let writes := history init changes
    (∀ key, p.get? key = valueAfter writes key) ∧
      (∀ key, p.containsKey key = (p.get? key).isSome) ∧
      (∀ key value, (p.put key value).1 = valueAfter writes key ∧
        (p.remove key).1 = valueAfter writes key) ∧
      p.size = (heldKeys writes).length ∧
      (p.isEmpty = true ↔ p.size = 0) ∧
      (∀ key value, (key, value) ∈ p.toList ↔ valueAfter writes key = some value) ∧
      (p.toList.map Prod.fst).Nodup ∧
      p.keys = p.toList.map Prod.fst ∧ p.values = p.toList.map Prod.snd ∧
      ∃ q, ofDocument p.toDocument = .ok q ∧ q.toList = p.toList := by
  intro p writes
  have realizes : p.Realizes writes := realizes_history init changes
  refine ⟨realizes, p.containsKey_eq, fun key _ => ⟨realizes key, realizes key⟩,
    realizes.size_eq, p.isEmpty_iff, fun key value => ?_, p.nodup_keys_toList, p.keys_eq,
    p.values_eq, p.ofDocument_toDocument⟩
  rw [mem_toList_iff, realizes key]

end Params

end Cadence
