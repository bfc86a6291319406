import Mathlib
import Cadence.Proofs.Vocabulary

/-!
# The document form of a job

A job is written as a record of its ten fields, its frequency and granularity by their names
and its status by its stored token, an absent optional value as null. The reader of a map first
visits its entries in order, reading the value of each key that names a field and skipping every
other key; it then takes the fields in declaration order, where an optional field that is absent
or null is none and an absent required field is an error.

This module shows that the form of every job reads back as the job (`Job.ofDocument_toDocument`)
and what the reader makes of any map: keys that name no field change nothing
(`Job.ofDocument_filter_fieldNames`), an optional field is none exactly when it is absent or
null (`Job.optionalField_eq_none_iff`), and a missing required field is an error: once every
present field reads, the error names the first missing required field in declaration order
(`Job.ofDocument_map_firstMissing`), while a present field whose value does not read is
reported before anything that is missing (`Job.ofDocument_map_of_unread`).

Main statement: `Job.document_roundTrip_fields`.
-/

namespace Cadence

/-- A bind that gives a value ran its first step to a value. -/
theorem bind_eq_ok {ε α β : Type} {x : Except ε α} {f : α → Except ε β} {b : β} :
    x >>= f = .ok b ↔ ∃ a, x = .ok a ∧ f a = .ok b := by
  cases x <;> simp [bind, Except.bind]

/-! ### Reading the forms of values -/

namespace Document

theorem readSigned_ofWord (w : Word) : readSigned (.ofWord w) = .ok w := by
  obtain ⟨val, isWord⟩ := w
  by_cases nonneg : 0 ≤ val
  · have same : ((val.toNat : Nat) : Int) = val := Int.toNat_of_nonneg nonneg
    have fits : ((val.toNat : Nat) : Int) ≤ Word.greatest := same ▸ isWord.2
    simp only [ofWord, Number.ofWord, if_pos nonneg, readSigned, dif_pos fits]
    simp [same]
  · simp [ofWord, Number.ofWord, nonneg, readSigned]

theorem readCount_ofCount (c : Count) : readCount (.ofCount c) = .ok c := by
  simp [readCount, ofCount, readNatural, c.le_bound, Except.map]

theorem readOption_of_ne_null {α : Type} {read : Document → Decode α} {d : Document}
    (notNull : d ≠ .null) : readOption read d = (read d).map some := by
  cases d with
  | null => exact absurd rfl notNull
  | _ => rfl

/-- An optional value reads back when its form is never null and reads back. -/
theorem readOption_ofOption {α : Type} {read : Document → Decode α} {form : α → Document}
    (roundTrip : ∀ x, read (form x) = .ok x) (notNull : ∀ x, form x ≠ .null) (x : Option α) :
    readOption read (.ofOption form x) = .ok x := by
  cases x with
  | none => rfl
  | some y =>
    rw [ofOption, readOption_of_ne_null (notNull y), roundTrip]
    rfl

end Document

namespace Job

/-! ### Fields -/

/-- The keys of a job's record, one per field, in declaration order. -/
def fieldNames : List String :=
  ["job_id", "name", "frequency", "granularity", "granularity_range", "hours_of_lag",
    "timeseries_range", "status", "effective_query_time", "effective_run_time"]

/-- The keys of the fields a record must hold, those whose values are not optional, in
declaration order. -/
def requiredFields : List String :=
  ["name", "frequency", "granularity", "granularity_range", "hours_of_lag", "status"]

/-- The first required field, in declaration order, that a record's entries lack. -/
def firstMissing (entries : List (String × Document)) : Option String :=
  requiredFields.find? fun key => (entries.lookup key).isNone

/-- An entry of a record reads: its key names no field, or its value reads as that field's. -/
def EntryReads (entry : String × Document) : Prop :=
  ∀ check, fieldCheck entry.1 = some check → check entry.2 = .ok ()

theorem isSome_fieldCheck_iff (key : String) : (fieldCheck key).isSome ↔ key ∈ fieldNames := by
  unfold fieldCheck
  split <;> simp_all [fieldNames]

/-! ### The form of a job -/

/-- The form of a job has one entry per field, in declaration order; the frequency and the
granularity are written by name and the status by its stored token. -/
theorem toDocument_entries (job : Job) :
    ∃ entries, job.toDocument = .map entries ∧ entries.map Prod.fst = fieldNames ∧
      entries.lookup "frequency" = some (.text job.frequency.name) ∧
      entries.lookup "granularity" = some (.text job.granularity.name) ∧
      entries.lookup "status" = some (.text job.status.storedToken) :=
  ⟨_, rfl, rfl, by simp [List.lookup, Frequency.toDocument],
    by simp [List.lookup, Granularity.toDocument], by simp [List.lookup, JobStatus.toDocument]⟩

/-- The form of every job reads back as the job. -/
theorem ofDocument_toDocument (job : Job) : ofDocument job.toDocument = .ok job := by
  have words := Document.readOption_ofOption Document.readSigned_ofWord
    fun w => by simp [Document.ofWord]
  have counts := Document.readOption_ofOption Document.readCount_ofCount
    fun c => by simp [Document.ofCount]
  simp [ofDocument, toDocument, checkEntries, fieldCheck, checkWith, requiredField,
    optionalField, List.lookup, words, counts, Document.readCount_ofCount, Document.readText,
    Granularity.nameCodec.ofDocument_toDocument, Frequency.nameCodec.ofDocument_toDocument,
    JobStatus.nameCodec.ofDocument_toDocument]
  rfl

/-! ### Keys that name no field -/

theorem lookup_filter_fieldNames (entries : List (String × Document)) {key : String}
    (known : key ∈ fieldNames) :
    (entries.filter fun entry => entry.1 ∈ fieldNames).lookup key = entries.lookup key := by
  induction entries with
  | nil => rfl
  | cons entry rest inductionHypothesis =>
    obtain ⟨other, value⟩ := entry
    by_cases otherKnown : other ∈ fieldNames
    · simp [otherKnown, List.lookup_cons, inductionHypothesis]
    · have different : key ≠ other := fun same => otherKnown (same ▸ known)
      simp [otherKnown, List.lookup_cons, inductionHypothesis,
        beq_false_of_ne different]

theorem checkEntries_filter_fieldNames (entries : List (String × Document)) :
    checkEntries fieldCheck (entries.filter fun entry => entry.1 ∈ fieldNames) =
      checkEntries fieldCheck entries := by
  induction entries with
  | nil => rfl
  | cons entry rest inductionHypothesis =>
    obtain ⟨key, value⟩ := entry
    by_cases known : key ∈ fieldNames
    · simp [known, checkEntries, inductionHypothesis]
    · have unchecked : fieldCheck key = none :=
        Option.not_isSome_iff_eq_none.1 fun checked => known ((isSome_fieldCheck_iff key).1 checked)
      simp [known, checkEntries, unchecked, inductionHypothesis]

/-- Entries whose keys name no field are skipped. -/
theorem ofDocument_filter_fieldNames (entries : List (String × Document)) :
    ofDocument (.map (entries.filter fun entry => entry.1 ∈ fieldNames)) =
      ofDocument (.map entries) := by
  simp (disch := decide +kernel) only [ofDocument, checkEntries_filter_fieldNames,
    requiredField, optionalField, lookup_filter_fieldNames]

/-! ### Reading a map -/

/-- A map that reads as a job read every field to the job's value. -/
theorem ofDocument_map_eq_ok {entries : List (String × Document)} {job : Job}
    (read : ofDocument (.map entries) = .ok job) :
    checkEntries fieldCheck entries = .ok () ∧
      optionalField entries "job_id" Document.readSigned = .ok job.id ∧
      requiredField entries "name" Document.readText = .ok job.name ∧
      requiredField entries "frequency" Frequency.ofDocument = .ok job.frequency ∧
      requiredField entries "granularity" Granularity.ofDocument = .ok job.granularity ∧
      requiredField entries "granularity_range" Document.readCount = .ok job.granularityRange ∧
      requiredField entries "hours_of_lag" Document.readCount = .ok job.hoursOfLag ∧
      optionalField entries "timeseries_range" Document.readCount = .ok job.timeseriesRange ∧
      requiredField entries "status" JobStatus.ofDocument = .ok job.status ∧
      optionalField entries "effective_query_time" Document.readSigned =
        .ok job.effectiveQueryTime ∧
      optionalField entries "effective_run_time" Document.readSigned =
        .ok job.effectiveRunTime := by
  simp only [ofDocument, bind_eq_ok, pure, Except.pure] at read
  obtain ⟨⟨⟩, checked, id, idRead, name, nameRead, frequency, frequencyRead, granularity,
    granularityRead, range, rangeRead, lag, lagRead, baseline, baselineRead, status, statusRead,
    query, queryRead, run, runRead, built⟩ := read
  cases built
  exact ⟨checked, idRead, nameRead, frequencyRead, granularityRead, rangeRead, lagRead,
    baselineRead, statusRead, queryRead, runRead⟩

/-- An optional field reads as none exactly when it is absent or null. -/
theorem optionalField_eq_none_iff {α : Type} {entries : List (String × Document)} {key : String}
    {read : Document → Decode α} {x : Option α}
    (fieldRead : optionalField entries key read = .ok x) :
    x = none ↔ entries.lookup key = none ∨ entries.lookup key = some .null := by
  unfold optionalField at fieldRead
  cases found : entries.lookup key with
  | none =>
    rw [found] at fieldRead
    cases fieldRead
    simp
  | some d =>
    simp only [found] at fieldRead
    by_cases null : d = .null
    · subst null
      cases fieldRead
      simp
    · rw [Document.readOption_of_ne_null null] at fieldRead
      cases valued : read d with
      | error e => rw [valued] at fieldRead; cases fieldRead
      | ok v =>
        rw [valued] at fieldRead
        cases fieldRead
        simp [null]

theorem lookup_isSome_of_requiredField {α : Type} {entries : List (String × Document)}
    {key : String} {read : Document → Decode α} {x : α}
    (fieldRead : requiredField entries key read = .ok x) : (entries.lookup key).isSome := by
  unfold requiredField at fieldRead
  cases found : entries.lookup key with
  | none => rw [found] at fieldRead; cases fieldRead
  | some _ => rfl

/-- A map that reads as a job holds every required field. -/
theorem lookup_isSome_of_ofDocument {entries : List (String × Document)} {job : Job}
    (read : ofDocument (.map entries) = .ok job) :
    ∀ key ∈ requiredFields, (entries.lookup key).isSome := by
  obtain ⟨-, -, name, frequency, granularity, range, lag, -, status, -, -⟩ :=
    ofDocument_map_eq_ok read
  intro key required
  simp only [requiredFields, List.mem_cons, List.not_mem_nil, or_false] at required
  rcases required with rfl | rfl | rfl | rfl | rfl | rfl
  exacts [lookup_isSome_of_requiredField name, lookup_isSome_of_requiredField frequency,
    lookup_isSome_of_requiredField granularity, lookup_isSome_of_requiredField range,
    lookup_isSome_of_requiredField lag, lookup_isSome_of_requiredField status]

/-! ### Errors -/

theorem checkEntries_eq_ok_iff (entries : List (String × Document)) :
    checkEntries fieldCheck entries = .ok () ↔ ∀ entry ∈ entries, EntryReads entry := by
  induction entries with
  | nil => simp [checkEntries]
  | cons entry rest inductionHypothesis =>
    obtain ⟨key, value⟩ := entry
    cases checked : fieldCheck key with
    | none =>
      have skipped : EntryReads (key, value) := fun check known => by
        rw [checked] at known
        cases known
      simp [checkEntries, checked, inductionHypothesis, skipped]
    | some check =>
      simp only [checkEntries, checked, bind_eq_ok, inductionHypothesis, List.forall_mem_cons,
        EntryReads, Option.some.injEq, forall_eq']
      constructor
      · rintro ⟨⟨⟩, valueRead, restRead⟩
        exact ⟨valueRead, restRead⟩
      · rintro ⟨valueRead, restRead⟩
        exact ⟨(), valueRead, restRead⟩

/-- The first entry whose value does not read is the error of the visit. -/
theorem checkEntries_of_unread {front : List (String × Document)}
    (frontRead : ∀ entry ∈ front, EntryReads entry) {key : String} {value : Document}
    {check : Document → Decode Unit} (known : fieldCheck key = some check) {e : DecodeError}
    (unread : check value = .error e) (back : List (String × Document)) :
    checkEntries fieldCheck (front ++ (key, value) :: back) = .error e := by
  induction front with
  | nil => simp [checkEntries, known, unread, bind, Except.bind]
  | cons entry rest inductionHypothesis =>
    obtain ⟨other, otherValue⟩ := entry
    have restRead :=
      inductionHypothesis fun entry mem => frontRead entry (List.mem_cons_of_mem _ mem)
    cases checked : fieldCheck other with
    | none => simp [checkEntries, checked, restRead]
    | some otherCheck =>
      have otherRead := frontRead (other, otherValue) List.mem_cons_self otherCheck checked
      simp [checkEntries, checked, otherRead, restRead, bind, Except.bind]

/-- A present field whose value does not read is reported before any missing field. -/
theorem ofDocument_map_of_unread {front : List (String × Document)}
    (frontRead : ∀ entry ∈ front, EntryReads entry) {key : String} {value : Document}
    {check : Document → Decode Unit} (known : fieldCheck key = some check) {e : DecodeError}
    (unread : check value = .error e) (back : List (String × Document)) :
    ofDocument (.map (front ++ (key, value) :: back)) = .error e := by
  simp only [ofDocument, checkEntries_of_unread frontRead known unread back, bind, Except.bind]

/-- Once every entry reads, an optional field reads. -/
theorem optionalField_ok {α : Type} {entries : List (String × Document)}
    (allRead : ∀ entry ∈ entries, EntryReads entry) (key : String)
    {read : Document → Decode α}
    (known : fieldCheck key = some (checkWith (Document.readOption read))) :
    ∃ x, optionalField entries key read = .ok x := by
  unfold optionalField
  cases found : entries.lookup key with
  | none => exact ⟨none, rfl⟩
  | some d =>
    obtain ⟨front, back, rfl, -⟩ := List.lookup_eq_some_iff.1 found
    have valueRead := allRead (key, d) (List.mem_append_right front List.mem_cons_self) _ known
    unfold checkWith at valueRead
    cases optionRead : Document.readOption read d with
    | error e => rw [optionRead] at valueRead; cases valueRead
    | ok x => exact ⟨x, optionRead⟩

/-- Once every entry reads, a present required field reads. -/
theorem requiredField_ok {α : Type} {entries : List (String × Document)}
    (allRead : ∀ entry ∈ entries, EntryReads entry) (key : String)
    {read : Document → Decode α}
    (known : fieldCheck key = some (checkWith read)) (present : entries.lookup key ≠ none) :
    ∃ x, requiredField entries key read = .ok x := by
  unfold requiredField
  cases found : entries.lookup key with
  | none => exact absurd found present
  | some d =>
    obtain ⟨front, back, rfl, -⟩ := List.lookup_eq_some_iff.1 found
    have valueRead := allRead (key, d) (List.mem_append_right front List.mem_cons_self) _ known
    unfold checkWith at valueRead
    cases fieldRead : read d with
    | error e => rw [fieldRead] at valueRead; cases valueRead
    | ok x => exact ⟨x, fieldRead⟩

theorem requiredField_of_missing {α : Type} {entries : List (String × Document)} {key : String}
    {read : Document → Decode α} (missing : entries.lookup key = none) :
    requiredField entries key read = .error (.missingField key) := by
  simp [requiredField, missing]

/-- Once every entry reads, the error is the first missing required field, in declaration
order. The fields are read in that order, the optional ones always to a value. -/
theorem ofDocument_map_firstMissing {entries : List (String × Document)}
    (allRead : ∀ entry ∈ entries, EntryReads entry) {key : String}
    (first : firstMissing entries = some key) :
    ofDocument (.map entries) = .error (.missingField key) := by
  have checked := (checkEntries_eq_ok_iff entries).2 allRead
  obtain ⟨id, idRead⟩ := optionalField_ok allRead "job_id" rfl
  obtain ⟨baseline, baselineRead⟩ := optionalField_ok allRead "timeseries_range" rfl
  unfold firstMissing requiredFields at first
  simp only [ofDocument, checked, idRead, baselineRead, bind, Except.bind]
  -- the required fields in the reader's order: the first absent one is `key`, and each present
  -- one before it reads
  by_cases name : entries.lookup "name" = none
  · simp only [List.find?_cons, name, Option.isNone_none] at first
    cases first
    rw [requiredField_of_missing name]
  obtain ⟨nameValue, nameRead⟩ := requiredField_ok allRead "name" rfl name
  by_cases frequency : entries.lookup "frequency" = none
  · simp [name, frequency] at first
    cases first
    rw [nameRead, requiredField_of_missing frequency]
  obtain ⟨frequencyValue, frequencyRead⟩ := requiredField_ok allRead "frequency" rfl frequency
  by_cases granularity : entries.lookup "granularity" = none
  · simp [name, frequency, granularity] at first
    cases first
    rw [nameRead, frequencyRead, requiredField_of_missing granularity]
  obtain ⟨granularityValue, granularityRead⟩ :=
    requiredField_ok allRead "granularity" rfl granularity
  by_cases range : entries.lookup "granularity_range" = none
  · simp [name, frequency, granularity, range] at first
    cases first
    rw [nameRead, frequencyRead, granularityRead, requiredField_of_missing range]
  obtain ⟨rangeValue, rangeRead⟩ := requiredField_ok allRead "granularity_range" rfl range
  by_cases lag : entries.lookup "hours_of_lag" = none
  · simp [name, frequency, granularity, range, lag] at first
    cases first
    rw [nameRead, frequencyRead, granularityRead, rangeRead, requiredField_of_missing lag]
  obtain ⟨lagValue, lagRead⟩ := requiredField_ok allRead "hours_of_lag" rfl lag
  by_cases status : entries.lookup "status" = none
  · simp [name, frequency, granularity, range, lag, status] at first
    cases first
    rw [nameRead, frequencyRead, granularityRead, rangeRead, lagRead,
      requiredField_of_missing status]
  -- every required field is present, so none is the first missing
  simp [name, frequency, granularity, range, lag, status] at first

/-- Once every entry reads and every required field is present, the map reads as a job. -/
theorem ofDocument_map_of_complete {entries : List (String × Document)}
    (allRead : ∀ entry ∈ entries, EntryReads entry) (complete : firstMissing entries = none) :
    ∃ job, ofDocument (.map entries) = .ok job := by
  have present : ∀ key ∈ requiredFields, entries.lookup key ≠ none := by
    intro key required missing
    have found := List.find?_eq_none.1 complete key required
    simp [missing] at found
  have checked := (checkEntries_eq_ok_iff entries).2 allRead
  obtain ⟨id, idRead⟩ := optionalField_ok allRead "job_id" rfl
  obtain ⟨name, nameRead⟩ := requiredField_ok allRead "name" rfl
    (present "name" (by simp [requiredFields]))
  obtain ⟨frequency, frequencyRead⟩ := requiredField_ok allRead "frequency" rfl
    (present "frequency" (by simp [requiredFields]))
  obtain ⟨granularity, granularityRead⟩ := requiredField_ok allRead "granularity" rfl
    (present "granularity" (by simp [requiredFields]))
  obtain ⟨range, rangeRead⟩ := requiredField_ok allRead "granularity_range" rfl
    (present "granularity_range" (by simp [requiredFields]))
  obtain ⟨lag, lagRead⟩ := requiredField_ok allRead "hours_of_lag" rfl
    (present "hours_of_lag" (by simp [requiredFields]))
  obtain ⟨baseline, baselineRead⟩ := optionalField_ok allRead "timeseries_range" rfl
  obtain ⟨status, statusRead⟩ := requiredField_ok allRead "status" rfl
    (present "status" (by simp [requiredFields]))
  obtain ⟨query, queryRead⟩ := optionalField_ok allRead "effective_query_time" rfl
  obtain ⟨run, runRead⟩ := optionalField_ok allRead "effective_run_time" rfl
  exact ⟨⟨id, name, frequency, granularity, range, lag, baseline, status, query, run⟩, by
    simp only [ofDocument, checked, idRead, nameRead, frequencyRead, granularityRead, rangeRead,
      lagRead, baselineRead, statusRead, queryRead, runRead, bind, Except.bind, pure,
      Except.pure]⟩

/-! ### The document form -/

/-- A job's document form has its ten fields and reads back as the job; reading a map skips unknown
keys and refuses the first unreadable field, then the first missing required one. -/
theorem document_roundTrip_missingFields :
    (∀ job : Job, ofDocument job.toDocument = .ok job) ∧
    (∀ job : Job, ∃ entries, job.toDocument = .map entries ∧
      entries.map Prod.fst = fieldNames ∧
      entries.lookup "frequency" = some (.text job.frequency.name) ∧
      entries.lookup "granularity" = some (.text job.granularity.name) ∧
      entries.lookup "status" = some (.text job.status.storedToken)) ∧
    (∀ job : Job, Text.asciiLower job.frequency.name = job.frequency.name ∧
      Text.asciiLower job.granularity.name = job.granularity.name ∧
      job.status.storedToken = Text.asciiUpper job.status.displayName) ∧
    (∀ entries : List (String × Document),
      ofDocument (.map (entries.filter fun entry => entry.1 ∈ fieldNames)) =
        ofDocument (.map entries)) ∧
    (∀ entries job, ofDocument (.map entries) = .ok job →
      (job.id = none ↔
        entries.lookup "job_id" = none ∨ entries.lookup "job_id" = some .null) ∧
      (job.timeseriesRange = none ↔ entries.lookup "timeseries_range" = none ∨
        entries.lookup "timeseries_range" = some .null) ∧
      (job.effectiveQueryTime = none ↔ entries.lookup "effective_query_time" = none ∨
        entries.lookup "effective_query_time" = some .null) ∧
      (job.effectiveRunTime = none ↔ entries.lookup "effective_run_time" = none ∨
        entries.lookup "effective_run_time" = some .null) ∧
      ∀ key ∈ requiredFields, (entries.lookup key).isSome) ∧
    (∀ entries : List (String × Document), (∀ entry ∈ entries, EntryReads entry) →
      (firstMissing entries = none → ∃ job, ofDocument (.map entries) = .ok job) ∧
      ∀ key, firstMissing entries = some key →
        ofDocument (.map entries) = .error (.missingField key)) ∧
    (∀ front key value back check e, (∀ entry ∈ front, EntryReads entry) →
      fieldCheck key = some check → check value = .error e →
      ofDocument (.map (front ++ (key, value) :: back)) = .error e) := by
  refine ⟨ofDocument_toDocument, toDocument_entries, ?_, ofDocument_filter_fieldNames,
    ?_, ?_, ?_⟩
  · intro job
    exact ⟨Frequency.nameCodec.asciiLower_name _, Granularity.nameCodec.asciiLower_name _,
      JobStatus.storedToken_eq_asciiUpper _⟩
  · intro entries job read
    obtain ⟨-, idRead, -, -, -, -, -, baselineRead, -, queryRead, runRead⟩ :=
      ofDocument_map_eq_ok read
    exact ⟨optionalField_eq_none_iff idRead, optionalField_eq_none_iff baselineRead,
      optionalField_eq_none_iff queryRead, optionalField_eq_none_iff runRead,
      lookup_isSome_of_ofDocument read⟩
  · intro entries allRead
    exact ⟨ofDocument_map_of_complete allRead,
      fun _ first => ofDocument_map_firstMissing allRead first⟩
  · intro front key value back check e frontRead known unread
    exact ofDocument_map_of_unread frontRead known unread back

/-- A record that lacks the required frequency but whose name is a number is refused for the
name, not for the missing frequency. -/
theorem ofDocument_unreadName_before_missingFrequency :
    [("name", Document.number (.natural 5))].lookup "frequency" = none ∧
      ofDocument (.map [("name", .number (.natural 5))]) =
        .error (.invalidType (.number (.natural 5)) "a string") :=
  ⟨rfl, rfl⟩

end Job

end Cadence
