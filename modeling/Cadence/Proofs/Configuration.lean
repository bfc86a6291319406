import Cadence.Proofs.Numeral
import Cadence.Proofs.JobDocument
import Cadence.Config.Lookback
import Cadence.Store.Settings

/-!
# Configuration read from a lookup

Lookback counts and store settings are read from a lookup, such as the process environment,
one key at a time in a fixed order. An absent key keeps its default; a present value reads by
the grammar of its setting, trimmed of blanks; and the first value that does not read stops the
whole reading with an error that names its key, the value as it was found and why it was
refused.

This module states those rules without the reading (`Lookup.ReadsOr`, `Lookup.Accepted`,
`Lookup.Refused`) and proves that both readers follow them: the lookback over its four keys by
induction on the list of granularities, the store settings step by step over their four checked
keys.

Main statements: `Lookback.ofLookup_counts_or_first_refusal` and
`Settings.ofLookup_settings_or_first_refusal`.
-/

namespace Cadence

/-- Running a step after a computation that fails fails, or the computation ran to a value and
the step failed. -/
theorem bind_eq_error {ε α β : Type} {x : Except ε α} {f : α → Except ε β} {e : ε} :
    x >>= f = .error e ↔ x = .error e ∨ ∃ a, x = .ok a ∧ f a = .error e := by
  cases x <;> simp [bind, Except.bind]

namespace Lookup

variable {α : Type}

/-- The value found under a key, if any, reads as `v`: the default when nothing was found, and
otherwise what `reads` relates the value to. -/
def ReadsOr (found : Option String) (default : α) (reads : String → α → Prop) (v : α) : Prop :=
  match found with
  | none => v = default
  | some raw => reads raw v

/-- Nothing was found under a key, or what was found reads as something. -/
def Accepted (found : Option String) (reads : String → α → Prop) : Prop :=
  ∀ raw, found = some raw → ∃ v, reads raw v

/-- The value found under `key` is refused with `error`, which names the key, the value as it
was found, and a reason that `refusal` gives for that value. -/
def Refused (found : Option String) (key : String) (refusal : String → InvalidReason → Prop)
    (error : ConfigError) : Prop :=
  ∃ raw reason, found = some raw ∧ refusal raw reason ∧ error = .invalid key raw reason

/-- A value is refused as a numeral within `bound` for the reason that reading it gives, once
trimmed of blanks. -/
def NumeralRefusal (bound : Nat) (raw : String) (reason : InvalidReason) : Prop :=
  ∃ e, Text.parseUnsigned bound (Text.trimBlank raw) = .error e ∧ reason = .numeral e

/-- Reads the value found under a key with `parse`, or gives the default when nothing was found. -/
def read (found : Option String) (default : α) (parse : String → Except ConfigError α) :
    Except ConfigError α :=
  match found with
  | none => .ok default
  | some raw => parse raw

section Read

variable {found : Option String} {default : α} {parse : String → Except ConfigError α}
  {reads : String → α → Prop}

theorem read_eq_ok_iff (parse_ok : ∀ raw v, parse raw = .ok v ↔ reads raw v) {v : α} :
    read found default parse = .ok v ↔ ReadsOr found default reads v := by
  cases found with
  | none => simp [read, ReadsOr, eq_comm]
  | some raw => exact parse_ok raw v

theorem read_eq_error_iff {key : String} {refusal : String → InvalidReason → Prop}
    (parse_error : ∀ raw e, parse raw = .error e ↔
      ∃ reason, refusal raw reason ∧ e = .invalid key raw reason) {e : ConfigError} :
    read found default parse = .error e ↔ Refused found key refusal e := by
  cases found with
  | none => simp [read, Refused]
  | some raw => simp [read, Refused, parse_error]

theorem exists_readsOr_iff : (∃ v, ReadsOr found default reads v) ↔ Accepted found reads := by
  cases found with
  | none => exact iff_of_true ⟨default, rfl⟩ (by simp [Accepted])
  | some raw => simp [Accepted, ReadsOr]

end Read

end Lookup

/-! ### Lookback counts -/

namespace Lookback

/-- A value reads as a configured count: trimmed of blanks, a numeral whose value is the count,
which is not zero. -/
def ReadsCount (raw : String) : Option Count → Prop
  | none => False
  | some c => Text.IsNumeral (Text.trimBlank raw) c.val ∧ 0 < c.val

/-- A value is refused as a count for the reason that reading it as a numeral within the bound
gives, or because it is zero. -/
def CountRefusal (raw : String) (reason : InvalidReason) : Prop :=
  Lookup.NumeralRefusal Count.bound raw reason ∨
    (Text.IsNumeral (Text.trimBlank raw) 0 ∧ reason = .notPositive)

theorem parseCount_eq_ok_iff {key raw : String} {c : Count} :
    parseCount key raw = .ok c ↔ ReadsCount raw (some c) := by
  unfold parseCount
  rw [ReadsCount, Text.isNumeral_iff_parseUnsigned c.le_bound]
  split
  next e refused => simp [refused]
  next zero =>
    simp only [zero, reduceCtorEq, false_iff, not_and, Except.ok.injEq]
    omega
  next n counted =>
    obtain ⟨value, bounded⟩ := c
    simp only [counted, Except.ok.injEq, Count.mk.injEq]
    constructor
    · rintro rfl
      exact ⟨rfl, Nat.succ_pos n⟩
    · rintro ⟨same, -⟩
      exact same

theorem parseCount_eq_error_iff {key raw : String} {e : ConfigError} :
    parseCount key raw = .error e ↔
      ∃ reason, CountRefusal raw reason ∧ e = .invalid key raw reason := by
  unfold parseCount CountRefusal Lookup.NumeralRefusal
  rw [Text.isNumeral_iff_parseUnsigned (Nat.zero_le Count.bound)]
  split
  next e refused => simp [refused, eq_comm]
  next zero => simp [zero, eq_comm]
  next n counted => simp [counted]

/-- Whether the lookup leaves the count of `g` readable. -/
def Accepts (lookup : String → Option String) (g : Granularity) : Prop :=
  Lookup.Accepted (lookup (key g)) ReadsCount

@[simp] theorem get_set (l : Lookback) (g other : Granularity) (c : Count) :
    (l.set g c).get other = if other = g then some c else l.get other := by
  cases g <;> cases other <;> rfl

theorem accepts_iff {lookup : String → Option String} {g : Granularity} :
    Accepts lookup g ↔ ∀ raw, lookup (key g) = some raw → ∃ c, parseCount (key g) raw = .ok c := by
  simp only [Accepts, Lookup.Accepted, parseCount_eq_ok_iff]
  constructor
  · intro accepted raw found
    obtain ⟨v, reads⟩ := accepted raw found
    cases v with
    | none => exact absurd reads id
    | some c => exact ⟨c, reads⟩
  · intro accepted raw found
    obtain ⟨c, reads⟩ := accepted raw found
    exact ⟨some c, reads⟩

/-- A key found in the lookup reads the same whatever the count was before. -/
theorem readsOr_of_found {found : Option String} {raw : String} (present : found = some raw)
    {before before' after : Option Count}
    (reads : Lookup.ReadsOr found before ReadsCount after) :
    Lookup.ReadsOr found before' ReadsCount after := by
  subst present
  exact reads

section Override

variable {lookup : String → Option String} {l : Lookback} {g : Granularity}
  {rest : List Granularity}

theorem override_cons_of_none (absent : lookup (key g) = none) :
    override lookup l (g :: rest) = override lookup l rest := by
  rw [override, absent]

theorem override_cons_of_some {raw : String} (found : lookup (key g) = some raw) :
    override lookup l (g :: rest) =
      parseCount (key g) raw >>= fun c => override lookup (l.set g c) rest := by
  rw [override, found]

end Override

/-- The first entry of a list of which `refused` holds, every entry before it `accepted`, is its
head or lies in its tail. -/
theorem exists_first_cons_iff {α : Type} {accepted refused : α → Prop} {first : α}
    {rest : List α} :
    (∃ pre x post, first :: rest = pre ++ x :: post ∧ (∀ y ∈ pre, accepted y) ∧ refused x) ↔
      refused first ∨ (accepted first ∧
        ∃ pre x post, rest = pre ++ x :: post ∧ (∀ y ∈ pre, accepted y) ∧ refused x) := by
  constructor
  · rintro ⟨pre, x, post, split, before, here⟩
    cases pre with
    | nil =>
      obtain ⟨rfl, -⟩ := List.cons.inj split
      exact .inl here
    | cons y pre =>
      obtain ⟨rfl, rfl⟩ := List.cons.inj split
      exact .inr ⟨before first (by simp), pre, x, post, rfl, fun z mem => before z (by simp [mem]),
        here⟩
  · rintro (here | ⟨head, pre, x, post, rfl, before, later⟩)
    · exact ⟨[], first, rest, rfl, by simp, here⟩
    · refine ⟨first :: pre, x, post, rfl, ?_, later⟩
      simp only [List.mem_cons, forall_eq_or_imp]
      exact ⟨head, before⟩

/-- Every key of the list that the lookup accepts gives an overriding run that succeeds. -/
theorem override_eq_ok_of_accepts {lookup : String → Option String} {gs : List Granularity}
    (accepted : ∀ g ∈ gs, Accepts lookup g) (l : Lookback) :
    ∃ l', override lookup l gs = .ok l' := by
  induction gs generalizing l with
  | nil => exact ⟨l, rfl⟩
  | cons g rest ih =>
    have later : ∀ g' ∈ rest, Accepts lookup g' := fun g' mem => accepted g' (by simp [mem])
    cases found : lookup (key g) with
    | none =>
      rw [override_cons_of_none found]
      exact ih later l
    | some raw =>
      obtain ⟨c, parsed⟩ := accepts_iff.1 (accepted g (by simp)) raw found
      obtain ⟨l', overridden⟩ := ih later (l.set g c)
      exact ⟨l', by rw [override_cons_of_some found, parsed]; exact overridden⟩

/-- An overriding run that succeeds gives every granularity of the list the count its key
reads as, or leaves it as it was when the key is absent, and leaves the others alone. -/
theorem get_of_override_eq_ok {lookup : String → Option String} {gs : List Granularity}
    {l l' : Lookback} (overridden : override lookup l gs = .ok l') (g : Granularity) :
    (g ∈ gs → Lookup.ReadsOr (lookup (key g)) (l.get g) ReadsCount (l'.get g)) ∧
      (g ∉ gs → l'.get g = l.get g) := by
  induction gs generalizing l with
  | nil =>
    cases overridden
    simp
  | cons first rest ih =>
    cases found : lookup (key first) with
    | none =>
      rw [override_cons_of_none found] at overridden
      have later := ih overridden
      by_cases here : g = first
      · subst here
        refine ⟨fun _ => ?_, fun notMem => absurd List.mem_cons_self notMem⟩
        by_cases again : g ∈ rest
        · exact later.1 again
        · simp [Lookup.ReadsOr, found, later.2 again]
      · simpa [here] using later
    | some raw =>
      rw [override_cons_of_some found] at overridden
      obtain ⟨c, parsed, overridden⟩ := bind_eq_ok.1 overridden
      have later := ih overridden
      by_cases here : g = first
      · subst here
        refine ⟨fun _ => ?_, fun notMem => absurd List.mem_cons_self notMem⟩
        by_cases again : g ∈ rest
        · exact readsOr_of_found found (later.1 again)
        · rw [later.2 again, get_set, if_pos rfl]
          simp only [Lookup.ReadsOr, found]
          exact parseCount_eq_ok_iff.1 parsed
      · simpa [here] using later

/-- An overriding run fails exactly when some key of the list is refused, every key before it
being accepted; the error is that key's. -/
theorem override_eq_error_iff {lookup : String → Option String} {e : ConfigError}
    {gs : List Granularity} (l : Lookback) :
    override lookup l gs = .error e ↔
      ∃ pre g post, gs = pre ++ g :: post ∧ (∀ g' ∈ pre, Accepts lookup g') ∧
        Lookup.Refused (lookup (key g)) (key g) CountRefusal e := by
  induction gs generalizing l with
  | nil => simp [override]
  | cons first rest ih =>
    rw [exists_first_cons_iff]
    cases found : lookup (key first) with
    | none =>
      -- an absent key is accepted and refused with nothing
      rw [override_cons_of_none found, ih]
      simp [Accepts, Lookup.Accepted, Lookup.Refused, found]
    | some raw =>
      rw [override_cons_of_some found, bind_eq_error, parseCount_eq_error_iff, accepts_iff]
      simp only [ih, exists_and_right, found, Option.some.injEq, forall_eq']
      simp [Lookup.Refused]

/-- Lookback counts are read key by key, with defaults for absent keys, or refused with the first
key in order whose value is no positive 32-bit numeral. -/
theorem ofLookup_counts_or_first_refusal (lookup : String → Option String) :
    ((∃ l, ofLookup lookup = .ok l) ↔ ∀ g, Accepts lookup g) ∧
    (∀ l, ofLookup lookup = .ok l →
      ∀ g, Lookup.ReadsOr (lookup (key g)) (defaults.get g) ReadsCount (l.get g)) ∧
    (∀ e, ofLookup lookup = .error e ↔
      ∃ pre g post, [.hour, .day, .week, .month] = pre ++ g :: post ∧
        (∀ g' ∈ pre, Accepts lookup g') ∧ Lookup.Refused (lookup (key g)) (key g) CountRefusal e) := by
  have every : ∀ g, g ∈ Granularity.all := fun g => by cases g <;> decide
  refine ⟨⟨?_, fun accepted => override_eq_ok_of_accepts (fun g _ => accepted g) defaults⟩,
    fun l read g => (get_of_override_eq_ok read g).1 (every g),
    fun e => override_eq_error_iff defaults⟩
  rintro ⟨l, read⟩ g raw found
  have reads := (get_of_override_eq_ok read g).1 (every g)
  simp only [Lookup.ReadsOr, found] at reads
  exact ⟨_, reads⟩

end Lookback

/-! ### Store settings -/

namespace Settings

/-- A value reads as the number `n`: trimmed of blanks, a numeral of value `n` at most
`bound`. -/
def ReadsNumber (bound : Nat) (raw : String) (n : Nat) : Prop :=
  Text.IsNumeral (Text.trimBlank raw) n ∧ n ≤ bound

/-- The words of a flag: `true`, `1` and `yes` for true; `false`, `0`, `no` and the empty word
for false. -/
def flagWords : Bool → List String
  | true => ["true", "1", "yes"]
  | false => ["false", "0", "no", ""]

/-- A value reads as the flag `b`: trimmed of blanks and with ASCII capitals made small, it is
a word for `b`. -/
def ReadsFlag (raw : String) (b : Bool) : Prop :=
  Text.asciiLower (Text.trimBlank raw) ∈ flagWords b

/-- A value that reads as no flag is refused as not a boolean. -/
def FlagRefusal (raw : String) (reason : InvalidReason) : Prop :=
  (∀ b, ¬ ReadsFlag raw b) ∧ reason = .notBoolean

theorem parseNumber_eq_ok_iff {key raw : String} {bound n : Nat} :
    parseNumber key raw bound = .ok n ↔ ReadsNumber bound raw n := by
  rw [ReadsNumber, ← Text.parseUnsigned_eq_ok_iff]
  unfold parseNumber
  split
  next m parsed => simp [parsed]
  next e refused => simp [refused]

theorem parseNumber_eq_error_iff {key raw : String} {bound : Nat} {e : ConfigError} :
    parseNumber key raw bound = .error e ↔
      ∃ reason, Lookup.NumeralRefusal bound raw reason ∧ e = .invalid key raw reason := by
  unfold parseNumber Lookup.NumeralRefusal
  split
  next m parsed => simp [parsed]
  next refusal refused => simp [refused, eq_comm]

theorem parseFlag_eq_ok_iff {key raw : String} {b : Bool} :
    parseFlag key raw = .ok b ↔ ReadsFlag raw b := by
  unfold parseFlag ReadsFlag
  split <;> cases b <;> simp_all [flagWords]

/-- A flag is refused only as not a boolean. -/
theorem eq_notBoolean_of_parseFlag {key raw : String} {e : ConfigError}
    (refused : parseFlag key raw = .error e) : e = .invalid key raw .notBoolean := by
  unfold parseFlag at refused
  split at refused <;> simp_all

theorem parseFlag_eq_error_iff {key raw : String} {e : ConfigError} :
    parseFlag key raw = .error e ↔ ∃ reason, FlagRefusal raw reason ∧ e = .invalid key raw reason := by
  constructor
  · intro refused
    refine ⟨.notBoolean, ⟨fun b reads => ?_, rfl⟩, eq_notBoolean_of_parseFlag refused⟩
    have parsed : parseFlag key raw = .ok b := parseFlag_eq_ok_iff.2 reads
    rw [refused] at parsed
    cases parsed
  · rintro ⟨reason, ⟨noFlag, rfl⟩, rfl⟩
    cases parsed : parseFlag key raw with
    | error e => rw [eq_notBoolean_of_parseFlag parsed]
    | ok b => exact absurd (parseFlag_eq_ok_iff.1 parsed) (noFlag b)

/-- The reading of port, TLS flag, timeout and clustering flag, one key after the other; the
host name and the password are taken as found. -/
theorem ofLookup_eq (lookup : String → Option String) :
    ofLookup lookup = do
      let port ← Lookup.read (lookup portKey) defaults.port (parseNumber portKey · Text.u16Bound)
      let ssl ← Lookup.read (lookup sslKey) defaults.ssl (parseFlag sslKey)
      let timeoutMs ←
        Lookup.read (lookup timeoutKey) defaults.timeoutMs (parseNumber timeoutKey · Text.u64Bound)
      let clustered ← Lookup.read (lookup clusteredKey) defaults.clustered (parseFlag clusteredKey)
      return {
        hostname := (lookup hostnameKey).getD defaults.hostname, port, ssl, timeoutMs,
        password := (lookup passwordKey).filter (fun p => !p.isEmpty), clustered } := by
  -- the reading steps into each case of a found value; so does every read
  unfold ofLookup Lookup.read
  cases lookup portKey <;> cases lookup sslKey <;> cases lookup timeoutKey <;>
    cases lookup clusteredKey <;> rfl

section Reads

variable {found : Option String} {key : String}

theorem readNumber_eq_ok_iff {bound default n : Nat} :
    Lookup.read found default (parseNumber key · bound) = .ok n ↔
      Lookup.ReadsOr found default (ReadsNumber bound) n :=
  Lookup.read_eq_ok_iff fun _ _ => parseNumber_eq_ok_iff

theorem readNumber_eq_error_iff {bound default : Nat} {e : ConfigError} :
    Lookup.read found default (parseNumber key · bound) = .error e ↔
      Lookup.Refused found key (Lookup.NumeralRefusal bound) e :=
  Lookup.read_eq_error_iff fun _ _ => parseNumber_eq_error_iff

theorem readFlag_eq_ok_iff {default b : Bool} :
    Lookup.read found default (parseFlag key) = .ok b ↔ Lookup.ReadsOr found default ReadsFlag b :=
  Lookup.read_eq_ok_iff fun _ _ => parseFlag_eq_ok_iff

theorem readFlag_eq_error_iff {default : Bool} {e : ConfigError} :
    Lookup.read found default (parseFlag key) = .error e ↔ Lookup.Refused found key FlagRefusal e :=
  Lookup.read_eq_error_iff fun _ _ => parseFlag_eq_error_iff

end Reads

/-- The password kept from the lookup is the value found, unless it is empty. -/
theorem filter_password_eq_some_iff (found : Option String) (p : String) :
    found.filter (fun p => !p.isEmpty) = some p ↔ found = some p ∧ p ≠ "" := by
  simp [Option.filter_eq_some_iff, String.isEmpty_eq_false_iff]

/-- A reading that succeeds gives the host name and password as found, the password only when
it is not empty, and every checked field as its value reads, or its default when its key is
absent. -/
theorem ofLookup_eq_ok_iff (lookup : String → Option String) (s : Settings) :
    ofLookup lookup = .ok s ↔
      s.hostname = (lookup hostnameKey).getD defaults.hostname ∧
        Lookup.ReadsOr (lookup portKey) defaults.port (ReadsNumber Text.u16Bound) s.port ∧
        Lookup.ReadsOr (lookup sslKey) defaults.ssl ReadsFlag s.ssl ∧
        Lookup.ReadsOr (lookup timeoutKey) defaults.timeoutMs (ReadsNumber Text.u64Bound)
          s.timeoutMs ∧
        (∀ p, s.password = some p ↔ lookup passwordKey = some p ∧ p ≠ "") ∧
        Lookup.ReadsOr (lookup clusteredKey) defaults.clustered ReadsFlag s.clustered := by
  rw [ofLookup_eq]
  simp only [bind_eq_ok, readNumber_eq_ok_iff, readFlag_eq_ok_iff, pure, Except.pure,
    Except.ok.injEq]
  constructor
  · rintro ⟨port, readsPort, ssl, readsSsl, timeoutMs, readsTimeout, clustered, readsClustered,
      rfl⟩
    exact ⟨rfl, readsPort, readsSsl, readsTimeout, filter_password_eq_some_iff _, readsClustered⟩
  · rintro ⟨hostname, readsPort, readsSsl, readsTimeout, password, readsClustered⟩
    refine ⟨s.port, readsPort, s.ssl, readsSsl, s.timeoutMs, readsTimeout, s.clustered,
      readsClustered, ?_⟩
    -- the password kept is the one the settings hold
    have kept : (lookup passwordKey).filter (fun p => !p.isEmpty) = s.password :=
      Option.ext fun p => by rw [filter_password_eq_some_iff, password]
    rw [← hostname, kept]

/-- The reading succeeds exactly when every checked key is absent or holds a value that
reads. -/
theorem exists_ofLookup_eq_ok_iff (lookup : String → Option String) :
    (∃ s, ofLookup lookup = .ok s) ↔
      Lookup.Accepted (lookup portKey) (ReadsNumber Text.u16Bound) ∧
        Lookup.Accepted (lookup sslKey) ReadsFlag ∧
        Lookup.Accepted (lookup timeoutKey) (ReadsNumber Text.u64Bound) ∧
        Lookup.Accepted (lookup clusteredKey) ReadsFlag := by
  constructor
  · rintro ⟨s, read⟩
    obtain ⟨-, readsPort, readsSsl, readsTimeout, -, readsClustered⟩ :=
      (ofLookup_eq_ok_iff lookup s).1 read
    exact ⟨Lookup.exists_readsOr_iff.1 ⟨_, readsPort⟩, Lookup.exists_readsOr_iff.1 ⟨_, readsSsl⟩,
      Lookup.exists_readsOr_iff.1 ⟨_, readsTimeout⟩, Lookup.exists_readsOr_iff.1 ⟨_, readsClustered⟩⟩
  · rintro ⟨acceptsPort, acceptsSsl, acceptsTimeout, acceptsClustered⟩
    obtain ⟨port, readsPort⟩ : ∃ port, Lookup.ReadsOr (lookup portKey) defaults.port
        (ReadsNumber Text.u16Bound) port := Lookup.exists_readsOr_iff.2 acceptsPort
    obtain ⟨ssl, readsSsl⟩ : ∃ ssl, Lookup.ReadsOr (lookup sslKey) defaults.ssl ReadsFlag ssl :=
      Lookup.exists_readsOr_iff.2 acceptsSsl
    obtain ⟨timeoutMs, readsTimeout⟩ : ∃ timeoutMs, Lookup.ReadsOr (lookup timeoutKey)
        defaults.timeoutMs (ReadsNumber Text.u64Bound) timeoutMs :=
      Lookup.exists_readsOr_iff.2 acceptsTimeout
    obtain ⟨clustered, readsClustered⟩ : ∃ clustered, Lookup.ReadsOr (lookup clusteredKey)
        defaults.clustered ReadsFlag clustered := Lookup.exists_readsOr_iff.2 acceptsClustered
    exact ⟨_, (ofLookup_eq_ok_iff lookup ⟨_, port, ssl, timeoutMs, _, clustered⟩).2
      ⟨rfl, readsPort, readsSsl, readsTimeout, filter_password_eq_some_iff _, readsClustered⟩⟩

/-- A reading that fails stops at the first refused key in the order port, TLS, timeout,
clustering. -/
theorem ofLookup_eq_error_iff (lookup : String → Option String) (e : ConfigError) :
    ofLookup lookup = .error e ↔
      Lookup.Refused (lookup portKey) portKey (Lookup.NumeralRefusal Text.u16Bound) e ∨
      (Lookup.Accepted (lookup portKey) (ReadsNumber Text.u16Bound) ∧
        Lookup.Refused (lookup sslKey) sslKey FlagRefusal e) ∨
      (Lookup.Accepted (lookup portKey) (ReadsNumber Text.u16Bound) ∧
        Lookup.Accepted (lookup sslKey) ReadsFlag ∧
        Lookup.Refused (lookup timeoutKey) timeoutKey (Lookup.NumeralRefusal Text.u64Bound) e) ∨
      (Lookup.Accepted (lookup portKey) (ReadsNumber Text.u16Bound) ∧
        Lookup.Accepted (lookup sslKey) ReadsFlag ∧
        Lookup.Accepted (lookup timeoutKey) (ReadsNumber Text.u64Bound) ∧
        Lookup.Refused (lookup clusteredKey) clusteredKey FlagRefusal e) := by
  rw [ofLookup_eq]
  simp only [bind_eq_error, readNumber_eq_ok_iff, readFlag_eq_ok_iff, readNumber_eq_error_iff,
    readFlag_eq_error_iff, pure, Except.pure, reduceCtorEq, and_false, exists_false, or_false,
    exists_and_right, Lookup.exists_readsOr_iff]
  -- each later refusal stands behind the acceptance of the keys before it
  simp only [and_or_left]

/-- The written form shows whether a password is set, never its text. -/
theorem redacted_with_password (s : Settings) (p q : String) :
    redacted { s with password := some p } = redacted { s with password := some q } :=
  rfl

/-- Store settings take each value found or its default, or are refused with the first unreadable
key in the order port, TLS, timeout, clustering; their written form hides the password. -/
theorem ofLookup_settings_or_first_refusal (lookup : String → Option String) :
    ((∃ s, ofLookup lookup = .ok s) ↔
      Lookup.Accepted (lookup portKey) (ReadsNumber Text.u16Bound) ∧
        Lookup.Accepted (lookup sslKey) ReadsFlag ∧
        Lookup.Accepted (lookup timeoutKey) (ReadsNumber Text.u64Bound) ∧
        Lookup.Accepted (lookup clusteredKey) ReadsFlag) ∧
    (∀ s, ofLookup lookup = .ok s ↔
      s.hostname = (lookup hostnameKey).getD defaults.hostname ∧
        Lookup.ReadsOr (lookup portKey) defaults.port (ReadsNumber Text.u16Bound) s.port ∧
        Lookup.ReadsOr (lookup sslKey) defaults.ssl ReadsFlag s.ssl ∧
        Lookup.ReadsOr (lookup timeoutKey) defaults.timeoutMs (ReadsNumber Text.u64Bound)
          s.timeoutMs ∧
        (∀ p, s.password = some p ↔ lookup passwordKey = some p ∧ p ≠ "") ∧
        Lookup.ReadsOr (lookup clusteredKey) defaults.clustered ReadsFlag s.clustered) ∧
    (∀ e, ofLookup lookup = .error e ↔
      Lookup.Refused (lookup portKey) portKey (Lookup.NumeralRefusal Text.u16Bound) e ∨
      (Lookup.Accepted (lookup portKey) (ReadsNumber Text.u16Bound) ∧
        Lookup.Refused (lookup sslKey) sslKey FlagRefusal e) ∨
      (Lookup.Accepted (lookup portKey) (ReadsNumber Text.u16Bound) ∧
        Lookup.Accepted (lookup sslKey) ReadsFlag ∧
        Lookup.Refused (lookup timeoutKey) timeoutKey (Lookup.NumeralRefusal Text.u64Bound) e) ∨
      (Lookup.Accepted (lookup portKey) (ReadsNumber Text.u16Bound) ∧
        Lookup.Accepted (lookup sslKey) ReadsFlag ∧
        Lookup.Accepted (lookup timeoutKey) (ReadsNumber Text.u64Bound) ∧
        Lookup.Refused (lookup clusteredKey) clusteredKey FlagRefusal e)) ∧
    ∀ (s : Settings) (p q : String),
      redacted { s with password := some p } = redacted { s with password := some q } :=
  ⟨exists_ofLookup_eq_ok_iff lookup, ofLookup_eq_ok_iff lookup, ofLookup_eq_error_iff lookup,
    redacted_with_password⟩

end Settings

end Cadence
