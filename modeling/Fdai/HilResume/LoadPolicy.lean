import Fdai.Providers.Time
import Fdai.Providers.Value
import Mathlib.Data.Finset.Basic

/-!
# The policy of approval load

When an approval may wait, and until when: the quiet hours of a day, and the windows in which the
approvals of a group share one dispatch.

* `InCalendar`, `inCalendar` — the instants a `datetime` can hold, and the error of the others.
* `inQuietHours`, `quietEnd`, `nextQuietEnd` — the quiet hours, and when they are over.
* `bucketOf`, `windowEnd` — the window of an instant, and when it is over.
* `lt_quietEnd`, `lt_windowEnd` — both are over later.
-/

namespace Fdai.Core

theorem PyFloat.le_roundHalfEven (q : ℚ) : ⌊q⌋ ≤ PyFloat.roundHalfEven q := by
  unfold PyFloat.roundHalfEven
  dsimp only
  split_ifs <;> omega

theorem PyFloat.roundHalfEven_le (q : ℚ) : PyFloat.roundHalfEven q ≤ ⌊q⌋ + 1 := by
  unfold PyFloat.roundHalfEven
  dsimp only
  split_ifs <;> omega

section

variable {q unit : ℚ}

/-- What is rounded to a multiple of a unit is at most a unit away. -/
theorem PyFloat.abs_round_sub_le (positive : 0 < unit) :
    |PyFloat.roundHalfEven (q / unit) * unit - q| ≤ unit := by
  have same : q / unit * unit = q := div_mul_cancel₀ q positive.ne'
  have below : (⌊q / unit⌋ : ℚ) * unit ≤ PyFloat.roundHalfEven (q / unit) * unit :=
    mul_le_mul_of_nonneg_right (by exact_mod_cast le_roundHalfEven _) positive.le
  have above : (PyFloat.roundHalfEven (q / unit) : ℚ) * unit ≤ (⌊q / unit⌋ + 1) * unit :=
    mul_le_mul_of_nonneg_right (by exact_mod_cast roundHalfEven_le _) positive.le
  have floor_le := mul_le_mul_of_nonneg_right (Int.floor_le (q / unit)) positive.le
  have lt_floor := mul_lt_mul_of_pos_right (Int.lt_floor_add_one (q / unit)) positive
  exact abs_le.2 ⟨by linarith, by linarith⟩

/-- A multiple of the unit stays below what is rounded. -/
theorem PyFloat.le_round (positive : 0 < unit) {m : ℤ} (below : m * unit ≤ q) :
    m * unit ≤ PyFloat.roundHalfEven (q / unit) * unit := by
  have whole : m ≤ ⌊q / unit⌋ := Int.le_floor.2 ((le_div_iff₀ positive).2 below)
  refine mul_le_mul_of_nonneg_right ?_ positive.le
  exact_mod_cast whole.trans (le_roundHalfEven _)

/-- **Rounding to a double** goes below no integer, where the integers are doubles. -/
theorem PyFloat.le_ofRat (few : |q| < 2 ^ 53) {n : ℤ} (below : (n : ℚ) ≤ q) :
    ∃ rounded : ℚ, PyFloat.ofRat q = .finite rounded ∧ (n : ℚ) ≤ rounded := by
  unfold PyFloat.ofRat
  by_cases isZero : q = 0
  · rw [if_pos isZero]
    exact ⟨0, rfl, by rwa [isZero] at below⟩
  rw [if_neg isZero]
  dsimp only
  have small : max (Int.log 2 |q| - 52) (-1074) ≤ 0 := by
    have := (Int.lt_zpow_iff_log_lt (b := 2) (x := 53) (by decide) (abs_pos.2 isZero)).1
      (by exact_mod_cast few)
    omega
  obtain ⟨k, isNeg⟩ := Int.exists_eq_neg_ofNat small
  rw [isNeg, zpow_neg, zpow_natCast]
  have positive : (0 : ℚ) < (2 ^ k)⁻¹ := by positivity
  have unit_le : ((2 : ℚ) ^ k)⁻¹ ≤ 1 := inv_le_one_of_one_le₀ (one_le_pow₀ one_le_two)
  -- An integer is a multiple of the unit.
  have inUnits : ((n * 2 ^ k : ℤ) : ℚ) * (2 ^ k)⁻¹ = n := by
    push_cast
    exact mul_inv_cancel_right₀ (by positivity) _
  have finite : ¬ (2 : ℚ) ^ 1024 ≤ |(PyFloat.roundHalfEven (q / (2 ^ k)⁻¹) : ℚ) * (2 ^ k)⁻¹| := by
    refine not_le.2 (lt_of_lt_of_le ?_ (pow_le_pow_right₀ one_le_two (by decide : 54 ≤ 1024)))
    have twice : (2 : ℚ) ^ 53 + 1 < 2 ^ 54 := by norm_num
    obtain ⟨lower, upper⟩ := abs_le.1 (abs_round_sub_le (q := q) positive)
    obtain ⟨least, most⟩ := abs_lt.1 few
    exact abs_lt.2 ⟨by linarith, by linarith⟩
  rw [if_neg finite]
  refine ⟨_, rfl, ?_⟩
  rw [← inUnits]
  exact le_round positive (inUnits.symm ▸ below)

end

/-- `int(at.timestamp())`: the seconds of an instant, as a float has them, without a fraction. -/
def secondsOf (at_ : ℤ) : ℤ :=
  match PyFloat.ofRat (at_ / 1000000) with
  | .finite seconds => if 0 ≤ seconds then ⌊seconds⌋ else ⌈seconds⌉
  | _ => 0

/-- The years from 1 to 9999. -/
def InCalendar (instant : ℤ) : Prop :=
  -62135596800000000 ≤ instant ∧ instant < 253402300800000000

instance (instant : ℤ) : Decidable (InCalendar instant) := inferInstanceAs (Decidable (_ ∧ _))

/-- **No instant is later** than the second after the seconds of it. -/
theorem lt_secondsOf {at_ : ℤ} (inside : InCalendar at_) : at_ < (secondsOf at_ + 1) * 1000000 := by
  have below : ((at_ / 1000000 : ℤ) : ℚ) ≤ (at_ : ℚ) / 1000000 := by
    rw [le_div_iff₀ (by norm_num)]
    have : at_ / 1000000 * 1000000 ≤ at_ := Int.ediv_mul_le _ (by decide)
    exact_mod_cast this
  have few : |(at_ : ℚ) / 1000000| < 2 ^ 53 := by
    obtain ⟨early, late⟩ := inside
    have early : (-62135596800000000 : ℚ) ≤ at_ := by exact_mod_cast early
    have late : (at_ : ℚ) < 253402300800000000 := by exact_mod_cast late
    refine abs_lt.2 ⟨?_, ?_⟩
    · rw [lt_div_iff₀ (by norm_num)]
      linarith
    · rw [div_lt_iff₀ (by norm_num)]
      linarith
  obtain ⟨rounded, isRounded, atLeast⟩ := PyFloat.le_ofRat few below
  have whole : at_ / 1000000 ≤ secondsOf at_ := by
    unfold secondsOf
    rw [isRounded]
    dsimp only
    split
    · exact Int.le_floor.2 atLeast
    · exact_mod_cast atLeast.trans (Int.le_ceil rounded)
  omega

end Fdai.Core

namespace Fdai.Core.HilResume

/-- What stops a plan. -/
inductive LoadError where
  | naiveClock
  | notText (key : String)
  | noContext
  | notTimestamp (field : String)
  | noTimezone (field : String)
  | outOfCalendar
  deriving DecidableEq

namespace LoadError

/-- The text of an error. The language has a text of its own for a date it cannot hold. -/
def message : LoadError → Option String
  | naiveClock => some "approval load clock MUST be timezone-aware"
  | notText key => some (key ++ " MUST be a non-empty string")
  | noContext => some "parked approval context MUST be an object"
  | notTimestamp field => some (field ++ " MUST be an RFC 3339 string")
  | noTimezone field => some (field ++ " MUST include a timezone")
  | outOfCalendar => none

end LoadError

/-- A `datetime`, unless the calendar does not have it. -/
def inCalendar (instant : ℤ) : Except LoadError ℤ :=
  if InCalendar instant then .ok instant else .error .outOfCalendar

theorem inCalendar_eq_ok {instant result : ℤ} :
    inCalendar instant = .ok result ↔ InCalendar instant ∧ result = instant := by
  unfold inCalendar
  split
  · rename_i inside
    exact ⟨fun same => ⟨inside, (Except.ok.inj same).symm⟩, fun same => by rw [same.2]⟩
  rename_i outside
  refine ⟨fun never => ?_, fun same => (outside same.1).elim⟩
  cases never

/-- `ApprovalLoadPolicy`: the fields a plan reads, as `from_mapping` accepts them. -/
structure ApprovalLoadPolicy where
  schemaVersion : String
  groupWindowSeconds : ℕ
  maxPendingPerAssignee : ℕ
  reminderOffsetsSeconds : List ℕ
  quietStartMinuteUtc : ℕ
  quietEndMinuteUtc : ℕ
  urgentSeverities : Finset String
  scanLimit : ℕ
  schema_eq : schemaVersion = "1.0.0"
  window_pos : 0 < groupWindowSeconds
  maxPending_pos : 0 < maxPendingPerAssignee
  offsets_pos : ∀ offset ∈ reminderOffsetsSeconds, 0 < offset
  /-- Unique, increasing, and at most four. -/
  offsets_increase : reminderOffsetsSeconds.Pairwise (· < ·)
  offsets_few : reminderOffsetsSeconds.length ≤ 4
  quietStart_lt : quietStartMinuteUtc < 1440
  quietEnd_lt : quietEndMinuteUtc < 1440
  critical_urgent : "critical" ∈ urgentSeverities
  scanLimit_pos : 0 < scanLimit

def microsOfDay : ℤ := 86400000000

namespace ApprovalLoadPolicy

variable (policy : ApprovalLoadPolicy)

def inQuietHours (at_ : ℤ) : Bool :=
  let minute := at_ % microsOfDay / 60000000
  let start : ℤ := policy.quietStartMinuteUtc
  let stop : ℤ := policy.quietEndMinuteUtc
  if start = stop then false
  else if start < stop then start ≤ minute && minute < stop
  else start ≤ minute || minute < stop

/-- The next time the quiet hours are over: today, or tomorrow. -/
def quietEnd (at_ : ℤ) : ℤ :=
  let candidate := at_ / microsOfDay * microsOfDay + policy.quietEndMinuteUtc * 60000000
  if candidate ≤ at_ then candidate + microsOfDay else candidate

def nextQuietEnd (at_ : ℤ) : Except LoadError ℤ := inCalendar (policy.quietEnd at_)

/-- The number of the window an instant is in. -/
def bucketOf (at_ : ℤ) : ℤ := secondsOf at_ / policy.groupWindowSeconds

/-- When a window is over. -/
def windowEnd (bucket : ℤ) : ℤ := (bucket + 1) * policy.groupWindowSeconds * 1000000

/-- **The quiet hours are over later.** -/
theorem lt_quietEnd (at_ : ℤ) : at_ < policy.quietEnd at_ := by
  unfold quietEnd microsOfDay
  dsimp only
  split <;> omega

/-- **A window is over later** than any instant in it. -/
theorem lt_windowEnd {at_ : ℤ} (inside : InCalendar at_) :
    at_ < policy.windowEnd (policy.bucketOf at_) := by
  have width : (0 : ℤ) < policy.groupWindowSeconds := by exact_mod_cast policy.window_pos
  have next : secondsOf at_ + 1 ≤ (policy.bucketOf at_ + 1) * policy.groupWindowSeconds :=
    Int.lt_ediv_add_one_mul_self _ width
  calc at_ < (secondsOf at_ + 1) * 1000000 := lt_secondsOf inside
    _ ≤ (policy.bucketOf at_ + 1) * policy.groupWindowSeconds * 1000000 :=
      Int.mul_le_mul_of_nonneg_right next (by decide)

end ApprovalLoadPolicy

end Fdai.Core.HilResume
