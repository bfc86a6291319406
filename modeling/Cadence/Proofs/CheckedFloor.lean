import Cadence.Proofs.Buckets

/-!
# Where the checked floor of words fails

`Minutes.floorChecked` finds the start of the bucket that holds a minute count in four checked
word steps: the offset `minutes - anchor`, its Euclidean quotient by the unit, that quotient
times the unit, and the anchor plus that product. Each intermediate value is a function of the
offset and its Euclidean remainder `rest`, which lies in `[0, |unit|)` for a unit of either
sign: the product is `offset - rest` and the sum is `minutes - rest`. So the region where each
step fails can be stated on the inputs alone, and the result, when there is one, is the last
count at or before `minutes` that is a whole number of units away from the anchor.

Main statements: `Minutes.floorChecked_map_val` gives the outcome of every input: the fault of
the first failing step, or the exact floor. `Minutes.isGreatest_floor` says which count that
floor is, for negative units as well as positive ones, and
`Minutes.floorChecked_first_fault_or_greatest` puts the two together with the messages the
faults stop the program with.
-/

namespace Cadence

namespace Word

/-- A Euclidean quotient of words by a nonzero divisor is a word, except the least word divided
by `-1`: the quotient is no larger than the dividend in absolute value, and only `2 ^ 63`
escapes the words from there. -/
theorem isWord_ediv_iff {a d : Int} (dividend : IsWord a) (divisor : IsWord d) (nonzero : d ≠ 0) :
    IsWord (a / d) ↔ ¬ (a = least ∧ d = -1) := by
  have shrinks := Int.natAbs_ediv_le_natAbs a d
  have split := Int.emod_def a d
  have restLower := Int.emod_nonneg a nonzero
  have restUpper := Int.emod_lt a nonzero
  unfold IsWord least greatest at *
  constructor
  · rintro ⟨-, quotientUpper⟩ ⟨rfl, rfl⟩
    -- `least / -1 = 2 ^ 63`
    norm_num at quotientUpper
  · intro notMinusOne
    -- Only the quotient `2 ^ 63` lies within `|a|` and outside the words; it forces `d = -1`.
    refine ⟨by omega, ?_⟩
    by_contra escapes
    have top : a / d = 9223372036854775808 := by omega
    rw [top] at split
    omega

/-- A value no larger than the greatest word is a word exactly when it is not below the least. -/
theorem isWord_iff_not_lt_least {x : Int} (upper : x ≤ greatest) : IsWord x ↔ ¬ x < least := by
  rw [not_lt]
  exact ⟨And.left, fun lower => ⟨lower, upper⟩⟩

end Word

namespace Minutes

/-- The floor is the minute count less the Euclidean remainder of its offset from the anchor. -/
theorem floor_eq_sub_emod (minutes unit anchor : Int) :
    floor minutes unit anchor = minutes - (minutes - anchor) % unit := by
  unfold floor
  rw [Int.ediv_mul_self]
  omega

/-- A unit and its negation lay out the same buckets. -/
theorem floor_abs (minutes unit anchor : Int) :
    floor minutes |unit| anchor = floor minutes unit anchor := by
  rw [floor_eq_sub_emod, floor_eq_sub_emod, Int.emod_abs]

/-- The floor by a nonzero unit of either sign is the last count at or before the minute count
that is congruent to the anchor modulo the unit's absolute value. -/
theorem isGreatest_floor {unit : Int} (nonzero : unit ≠ 0) (minutes anchor : Int) :
    IsGreatest {x : Int | x ≤ minutes ∧ x ≡ anchor [ZMOD |unit|]} (floor minutes unit anchor) := by
  have pos : 0 < |unit| := abs_pos.2 nonzero
  rw [← floor_abs]
  refine ⟨⟨floor_le pos minutes anchor, ?_⟩, ?_⟩
  · exact (Int.modEq_iff_dvd.2 (Int.dvd_of_emod_eq_zero (floor_aligned minutes anchor))).symm
  · rintro x ⟨before, congruent⟩
    apply le_floor_of_aligned pos _ before
    exact Int.emod_eq_zero_of_dvd (Int.ModEq.dvd congruent.symm)

/-- The outcome of the checked floor on every input: the fault of the first step whose exact value
is not a word, or `minutes - rest`. -/
theorem floorChecked_map_val (minutes unit anchor : Word) :
    let offset := minutes.val - anchor.val
    let rest := offset % unit.val
    (floorChecked minutes unit anchor).map Word.val =
      if ¬ Word.IsWord offset then .error .subOverflow
      else if unit.val = 0 then .error .divByZero
      else if offset = Word.least ∧ unit.val = -1 then .error .divOverflow
      else if offset - rest < Word.least then .error .mulOverflow
      else if minutes.val - rest < Word.least then .error .addOverflow
      else .ok (minutes.val - rest) := by
  intro offset rest
  have offsetOf : Word.sub minutes anchor = Word.fit .subOverflow offset := rfl
  unfold floorChecked
  rw [offsetOf]
  by_cases subFits : Word.IsWord offset
  case neg =>
    simp only [Word.fit_of_not_isWord subFits, if_pos subFits]
    rfl
  simp only [Word.fit_of_isWord subFits, bind, Except.bind, if_neg (not_not.2 subFits),
    Word.divEuclid]
  by_cases zero : unit.val = 0
  case pos =>
    simp only [if_pos zero]
    rfl
  simp only [if_neg zero]
  by_cases tooLarge : offset = Word.least ∧ unit.val = -1
  case pos =>
    have escapes := (Word.isWord_ediv_iff subFits unit.isWord zero).not.2 (not_not.2 tooLarge)
    simp only [Word.fit_of_not_isWord escapes, if_pos tooLarge]
    rfl
  have quotientFits := (Word.isWord_ediv_iff subFits unit.isWord zero).2 tooLarge
  simp only [Word.fit_of_isWord quotientFits, if_neg tooLarge, Word.mul, Word.add]
  -- The product is the offset less its remainder and the sum the minute count less it; neither
  -- exceeds a word, so each fails exactly when it falls below the least word.
  have restLower : 0 ≤ rest := Int.emod_nonneg offset zero
  rw [show offset / unit.val * unit.val = offset - rest from Int.ediv_mul_self offset unit.val]
  have productFits : Word.IsWord (offset - rest) ↔ ¬ offset - rest < Word.least :=
    Word.isWord_iff_not_lt_least (le_trans (by omega) subFits.2)
  by_cases mulFault : offset - rest < Word.least
  case pos =>
    simp only [Word.fit_of_not_isWord (productFits.not.2 (not_not.2 mulFault)), if_pos mulFault]
    rfl
  simp only [Word.fit_of_isWord (productFits.2 mulFault), if_neg mulFault]
  rw [show anchor.val + (offset - rest) = minutes.val - rest by omega]
  have sumFits : Word.IsWord (minutes.val - rest) ↔ ¬ minutes.val - rest < Word.least :=
    Word.isWord_iff_not_lt_least (le_trans (by omega) minutes.isWord.2)
  by_cases addFault : minutes.val - rest < Word.least
  case pos =>
    simp only [Word.fit_of_not_isWord (sumFits.not.2 (not_not.2 addFault)), if_pos addFault]
    rfl
  simp only [Word.fit_of_isWord (sumFits.2 addFault), if_neg addFault]
  rfl

/-- Multiplying can fail although the floor itself is a word: with the anchor above zero the
product starts from a lower offset. Adding can fail after the product is a word. -/
example :
    floorChecked ⟨-9223372036854775703, by decide⟩ ⟨60, by decide⟩ ⟨100, by decide⟩ =
        .error .mulOverflow ∧
      floorChecked ⟨-9223372036854775808, by decide⟩ ⟨2, by decide⟩ ⟨-1, by decide⟩ =
        .error .addOverflow := by
  decide

/-- A successful floor has a nonzero unit and is the exact floor. -/
theorem floorChecked_ok {minutes unit anchor floored : Word}
    (ok : floorChecked minutes unit anchor = .ok floored) :
    unit.val ≠ 0 ∧ floored.val = floor minutes.val unit.val anchor.val := by
  have outcome := floorChecked_map_val minutes unit anchor
  rw [ok] at outcome
  dsimp only [Except.map] at outcome
  rw [floor_eq_sub_emod]
  -- Each fault branch contradicts the success and closes at the split; the last gives the value.
  split_ifs at outcome with subFault zero tooLarge mulFault addFault
  exact ⟨zero, Except.ok.inj outcome⟩

/-- The checked floor on all words: it stops exactly in the regions of its four steps, with the
message of the first, and otherwise returns `minutes - rest`, the last count at or before
`minutes` congruent to the anchor modulo `|unit|`, for a unit of either sign. -/
theorem floorChecked_first_fault_or_greatest (minutes unit anchor : Word) :
    let offset := minutes.val - anchor.val
    let rest := offset % unit.val
    (((floorChecked minutes unit anchor).map Word.val).mapError Fault.message =
      if ¬ Word.IsWord offset then .error "attempt to subtract with overflow"
      else if unit.val = 0 then .error "attempt to divide by zero"
      else if offset = Word.least ∧ unit.val = -1 then .error "attempt to divide with overflow"
      else if offset - rest < Word.least then .error "attempt to multiply with overflow"
      else if minutes.val - rest < Word.least then .error "attempt to add with overflow"
      else .ok (minutes.val - rest)) ∧
    ∀ floored : Word, floorChecked minutes unit anchor = .ok floored →
      IsGreatest {x : Int | x ≤ minutes.val ∧ x ≡ anchor.val [ZMOD |unit.val|]} floored.val := by
  intro offset rest
  constructor
  · have outcome := floorChecked_map_val minutes unit anchor
    dsimp only at outcome
    rw [outcome]
    split_ifs <;> rfl
  · intro floored ok
    obtain ⟨nonzero, exact⟩ := floorChecked_ok ok
    rw [exact]
    exact isGreatest_floor nonzero minutes.val anchor.val

end Minutes

end Cadence
