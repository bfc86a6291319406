import Cadence.Proofs.ParamsMap
import Cadence.Store.Settings

/-!
# The parameters of a kind of record

The parameters that open records of a kind are written one key at a time: the connection
settings, the password and the clustering flag when they are set, every index under its own
name, and last the kind's database and identifier field. Since a later write to a key replaces an
earlier one, the map holds every written entry only because no two of its keys are equal.

This module shows that the twenty-two keys are distinct, so the parameters hold exactly the
written entries (`Settings.entriesFor`), each once, and that two kinds of record get the same
parameters except under the database and identifier keys.

Main statement: `Params.forKind_exact_map`.
-/

namespace Cadence

namespace Settings

/-- The entries that every kind of record gets: host name, port and timeout in decimal, the TLS
flag as `true` or `false`, the password when one is set, `true` under the clustering key when the
store is clustered, and every index under its own name. -/
def sharedEntries (s : Settings) : List (String × String) :=
  [(Keys.hostname, s.hostname), (Keys.port, toString s.port),
      (Keys.ssl, if s.ssl then "true" else "false"), (Keys.timeout, toString s.timeoutMs)] ++
    (s.password.map fun password => (Keys.password, password)).toList ++
    (if s.clustered then [(Keys.clustered, "true")] else []) ++
    Keys.indexNames.map fun name => (name, name)

/-- The entries of the parameters for records of `kind`: the shared ones, then the kind's
database and identifier field. -/
def entriesFor (s : Settings) (kind : RecordKind) : List (String × String) :=
  s.sharedEntries ++ [(Keys.dbName, kind.databaseName), (Keys.idName, kind.idName)]

/-- Every key that parameters of a kind of record may have, in the order they are written. -/
def parameterKeys : List String :=
  [Keys.hostname, Keys.port, Keys.ssl, Keys.timeout, Keys.password, Keys.clustered] ++
    Keys.indexNames ++ [Keys.dbName, Keys.idName]

/-- No two keys of the parameters are equal. -/
theorem parameterKeys_nodup : parameterKeys.Nodup := by
  decide +kernel

/-- The keys of the entries for a kind are some of the parameter keys, in their order. -/
theorem keys_entriesFor_sublist (s : Settings) (kind : RecordKind) :
    ((s.entriesFor kind).map Prod.fst).Sublist parameterKeys := by
  have password : ((s.password.map fun password => (Keys.password, password)).toList.map
      Prod.fst).Sublist [Keys.password] := by
    cases s.password <;> simp
  have clustered : ((if s.clustered then [(Keys.clustered, "true")] else []).map
      Prod.fst).Sublist [Keys.clustered] := by
    cases s.clustered <;> simp
  simp only [entriesFor, sharedEntries, List.map_append]
  -- the connection and layout keys stand as they are; the optional ones may be left out
  exact ((((List.Sublist.refl _).append password).append clustered).append
    (List.Sublist.refl _)).append (List.Sublist.refl _)

theorem nodup_keys_entriesFor (s : Settings) (kind : RecordKind) :
    ((s.entriesFor kind).map Prod.fst).Nodup :=
  parameterKeys_nodup.sublist (keys_entriesFor_sublist s kind)

end Settings

namespace Params

/-- Writing the entries of a batch with distinct keys leaves each key with its entry's value and
no other key with a value. -/
theorem valueAfter_batchWrites_eq_some_iff {pairs : List (String × String)}
    (distinct : (pairs.map Prod.fst).Nodup) (key value : String) :
    valueAfter (batchWrites pairs) key = some value ↔ (key, value) ∈ pairs := by
  induction pairs using List.reverseRecOn with
  | nil => simp [valueAfter]
  | append_singleton pairs last ih =>
    rw [List.map_append, List.nodup_append] at distinct
    have earlier := ih distinct.1
    have batch : batchWrites (pairs ++ [last]) = batchWrites pairs ++ [(last.1, some last.2)] := by
      simp [batchWrites]
    rw [batch, valueAfter_append_write, List.mem_append, List.mem_singleton]
    by_cases same : last.1 = key
    · -- the last key is written once, so no earlier entry has it
      subst same
      have fresh : (last.1, value) ∉ pairs := fun mem =>
        distinct.2.2 last.1 (List.mem_map.2 ⟨_, mem, rfl⟩) last.1 (by simp) rfl
      simp [fresh, Prod.ext_iff, eq_comm]
    · have other : (key, value) ≠ last := fun equal => same (by rw [← equal])
      simp [same, earlier, other]

/-- The parameters for a kind of record are the map of its entries. -/
theorem forKind_eq_ofList (kind : RecordKind) (s : Settings) :
    forKind kind s = ofList (s.entriesFor kind) := by
  obtain ⟨hostname, port, ssl, timeoutMs, password, clustered⟩ := s
  cases ssl <;> cases password <;> cases clustered <;> rfl

theorem realizes_forKind (kind : RecordKind) (s : Settings) :
    (forKind kind s).Realizes (batchWrites (s.entriesFor kind)) := by
  rw [forKind_eq_ofList]
  exact realizes_ofList _

/-- The parameters for a kind hold exactly its entries. -/
theorem get?_forKind_eq_some_iff (kind : RecordKind) (s : Settings) (key value : String) :
    (forKind kind s).get? key = some value ↔ (key, value) ∈ s.entriesFor kind := by
  rw [realizes_forKind kind s key]
  exact valueAfter_batchWrites_eq_some_iff (s.nodup_keys_entriesFor kind) key value

/-- The entries of the parameters for a kind are its entries, each once. -/
theorem toList_forKind_perm (kind : RecordKind) (s : Settings) :
    (forKind kind s).toList.Perm (s.entriesFor kind) := by
  have listed : (s.entriesFor kind).Nodup := (s.nodup_keys_entriesFor kind).of_map _
  have entries : (forKind kind s).toList.Nodup := (forKind kind s).nodup_keys_toList.of_map _
  rw [List.perm_ext_iff_of_nodup entries listed]
  rintro ⟨key, value⟩
  rw [mem_toList_iff, get?_forKind_eq_some_iff]

/-- Two kinds of record get the same parameters under every key but the database and the
identifier field. -/
theorem get?_forKind_of_shared {key : String} (notDb : key ≠ Keys.dbName)
    (notId : key ≠ Keys.idName) (kind other : RecordKind) (s : Settings) :
    (forKind kind s).get? key = (forKind other s).get? key := by
  have layout : ∀ k : RecordKind,
      (forKind k s).get? key = valueAfter (batchWrites s.sharedEntries) key := by
    intro k
    have writes : batchWrites (s.entriesFor k) = batchWrites s.sharedEntries ++
        [(Keys.dbName, some k.databaseName)] ++ [(Keys.idName, some k.idName)] := by
      simp [Settings.entriesFor, batchWrites]
    rw [realizes_forKind k s key, writes, valueAfter_append_write, if_neg (Ne.symm notId),
      valueAfter_append_write, if_neg (Ne.symm notDb)]
  rw [layout kind, layout other]

/-- The parameters for a kind of record are exactly the map of its distinct entries, and two kinds
differ only under the database and identifier keys. -/
theorem forKind_exact_map (kind : RecordKind) (s : Settings) :
    ((s.entriesFor kind).map Prod.fst).Nodup ∧
    (forKind kind s).toList.Perm (s.entriesFor kind) ∧
    (∀ key value, (forKind kind s).get? key = some value ↔ (key, value) ∈ s.entriesFor kind) ∧
    (forKind kind s).size =
      20 + (if s.password.isSome then 1 else 0) + (if s.clustered then 1 else 0) ∧
    ∀ other key, key ≠ Keys.dbName → key ≠ Keys.idName →
      (forKind kind s).get? key = (forKind other s).get? key := by
  refine ⟨s.nodup_keys_entriesFor kind, toList_forKind_perm kind s,
    get?_forKind_eq_some_iff kind s, ?_, fun other key notDb notId =>
      get?_forKind_of_shared notDb notId kind other s⟩
  rw [size_eq_length_toList, (toList_forKind_perm kind s).length_eq]
  simp only [Settings.entriesFor, Settings.sharedEntries, List.length_append, List.length_map]
  cases s.password <;> cases s.clustered <;> rfl

end Params

end Cadence
