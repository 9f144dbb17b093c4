import Mathlib.Data.List.TakeDrop
import Fdai.Providers.Time

/-!
# Instants as text, and back

`isoformat` prints a day of the Gregorian calendar, and `fromIsoformat` counts its days again.

* `EraDay` — a day of an era of 400 years: its century, the leap cycle in it, the year in that and
  the day of the year. `civil_of_eraDay` says what `civil` makes of it.
* `daysFromCivil_civil` — the days are the same again.
* `InDatetimeRange` — the instants a `datetime` can name; `fromIsoformat_isoformat` reads each of
  them back.
-/

namespace Fdai.Core

/-! ## Days of an era -/

/-- A century of an era, a leap cycle of it, a year of that and a day of the year, all counted from
zero. A year begins in March; the last year of a cycle has 366 days, unless it ends one of the
first three centuries. -/
structure EraDay (century cycle year day : ℤ) : Prop where
  inEra : 0 ≤ century ∧ century ≤ 3
  inCentury : 0 ≤ cycle ∧ cycle ≤ 24
  inCycle : 0 ≤ year ∧ year ≤ 3
  inYear : 0 ≤ day ∧ day ≤ 365
  leap : day = 365 → year = 3 ∧ (cycle ≤ 23 ∨ century = 3)

/-- The number of the day in its era. -/
def eraDay (century cycle year day : ℤ) : ℤ := 36524 * century + 1461 * cycle + 365 * year + day

theorem exists_eraDay {n : ℤ} (nonneg : 0 ≤ n) (below : n < 146097) :
    ∃ century cycle year day, EraDay century cycle year day ∧
      n = eraDay century cycle year day := by
  have isCentury : ∃ century, century = min (n / 36524) 3 := ⟨_, rfl⟩
  obtain ⟨century, isCentury⟩ := isCentury
  have isYear : ∃ year, year = min ((n - 36524 * century) % 1461 / 365) 3 := ⟨_, rfl⟩
  obtain ⟨year, isYear⟩ := isYear
  refine ⟨century, (n - 36524 * century) / 1461, year,
    (n - 36524 * century) % 1461 - 365 * year, ⟨?_, ?_, ?_, ?_, ?_⟩, ?_⟩
  · omega
  · omega
  · omega
  · omega
  · omega
  · unfold eraDay
    omega

section

variable {century cycle year day : ℤ}

theorem EraDay.bounds (parts : EraDay century cycle year day) :
    0 ≤ eraDay century cycle year day ∧ eraDay century cycle year day < 146097 := by
  obtain ⟨hCentury, hCycle, hYear, hDay, leap⟩ := parts
  unfold eraDay
  refine ⟨by omega, ?_⟩
  by_cases isLeap : day = 365
  · obtain ⟨rfl, last⟩ := leap isLeap
    rcases last with last | last <;> omega
  · omega

/-- **The year of a day**: what is counted off for the leap days leaves 365 days a year. -/
theorem EraDay.yearOfEra (parts : EraDay century cycle year day) {n : ℤ}
    (same : n = eraDay century cycle year day) :
    (n - n / 1460 + n / 36524 - n / 146096) / 365 = 100 * century + 4 * cycle + year := by
  obtain ⟨hCentury, hCycle, hYear, hDay, leap⟩ := parts
  unfold eraDay at same
  -- one leap day a cycle, and one more from the 1460th day of a cycle on
  have cycles : n / 1460 = 25 * century + cycle ∧ 24 * century + cycle + 365 * year + day < 1460 ∨
      n / 1460 = 25 * century + cycle + 1 ∧
        1460 ≤ 24 * century + cycle + 365 * year + day := by omega
  have centuries : n / 36524 - n / 146096 = century := by
    have last : n = 146096 ∧ century = 3 ∨ n < 36524 * (century + 1) := by
      by_cases isLeap : day = 365
      · obtain ⟨rfl, h⟩ := leap isLeap
        rcases h with h | h <;> omega
      · omega
    have first : 36524 * century ≤ n := by omega
    clear cycles leap same
    rcases last with ⟨rfl, rfl⟩ | last
    · decide
    · omega
  have rest : ∃ k, n - n / 1460 + n / 36524 - n / 146096 =
      365 * (100 * century + 4 * cycle + year) + k ∧ 0 ≤ k ∧ k < 365 := by
    refine ⟨day - (n / 1460 - 25 * century - cycle), by omega, ?_, ?_⟩
    · rcases cycles with cycles | cycles <;> omega
    · rcases cycles with cycles | cycles <;> omega
  omega

/-- **The date of a day** of an era. -/
theorem civil_of_eraDay (parts : EraDay century cycle year day) {days era : ℤ}
    (same : days + 719468 = 146097 * era + eraDay century cycle year day) :
    civil days = (100 * century + 4 * cycle + year + era * 400 +
        (if 10 ≤ (5 * day + 2) / 153 then 1 else 0), ((5 * day + 2) / 153 + 2) % 12 + 1,
      day - (153 * ((5 * day + 2) / 153) + 2) / 5 + 1) := by
  obtain ⟨nonneg, below⟩ := parts.bounds
  have isYear := parts.yearOfEra rfl
  obtain ⟨hCentury, hCycle, hYear, -, -⟩ := parts
  have isEra : (days + 719468) / 146097 = era := by omega
  have isDay : (days + 719468) % 146097 = eraDay century cycle year day := by omega
  have fourth : (100 * century + 4 * cycle + year) / 4 = 25 * century + cycle := by omega
  have hundredth : (100 * century + 4 * cycle + year) / 100 = century := by omega
  have dayOfYear : eraDay century cycle year day - (365 * (100 * century + 4 * cycle + year) +
      (25 * century + cycle) - century) = day := by
    unfold eraDay
    omega
  unfold civil
  simp only [isEra, isDay, isYear, fourth, hundredth, dayOfYear]

theorem exists_era (days : ℤ) : ∃ era century cycle year day, EraDay century cycle year day ∧
    days + 719468 = 146097 * era + eraDay century cycle year day := by
  obtain ⟨century, cycle, year, day, parts, same⟩ :=
    exists_eraDay (Int.emod_nonneg (days + 719468) (by decide))
      (Int.emod_lt_of_pos (days + 719468) (by decide))
  exact ⟨(days + 719468) / 146097, century, cycle, year, day, parts, by omega⟩

/-- **The days of a date.** -/
theorem daysFromCivil_civil (days : ℤ) :
    daysFromCivil (civil days).1 (civil days).2.1 (civil days).2.2 = days := by
  obtain ⟨era, century, cycle, year, day, parts, split⟩ := exists_era days
  rw [civil_of_eraDay parts split]
  obtain ⟨hCentury, hCycle, hYear, hDay, -⟩ := parts
  unfold eraDay at split
  unfold daysFromCivil
  dsimp only
  generalize isMonth : (5 * day + 2) / 153 = month
  have months : 0 ≤ month ∧ month ≤ 11 := by omega
  have isYear : (if (month + 2) % 12 + 1 ≤ 2 then
        100 * century + 4 * cycle + year + era * 400 + (if 10 ≤ month then 1 else 0) - 1
      else 100 * century + 4 * cycle + year + era * 400 + if 10 ≤ month then 1 else 0) =
      100 * century + 4 * cycle + year + era * 400 := by
    by_cases late : 10 ≤ month
    · have early : (month + 2) % 12 + 1 ≤ 2 := by
        obtain rfl | rfl : month = 10 ∨ month = 11 := by omega
        · decide
        · decide
      rw [if_pos late, if_pos early]
      omega
    · have later : (month + 2) % 12 = month + 2 := Int.emod_eq_of_lt (by omega) (by omega)
      rw [if_neg late, if_neg (by omega)]
      omega
  rw [isYear]
  omega

/-- **A date** of the years that a `datetime` has. -/
theorem civil_bounds {days : ℤ} (first : -719162 ≤ days) (last : days ≤ 2932896) :
    (0 ≤ (civil days).1 ∧ (civil days).1 < 10000) ∧ (0 ≤ (civil days).2.1 ∧ (civil days).2.1 < 100) ∧
      0 ≤ (civil days).2.2 ∧ (civil days).2.2 < 100 := by
  obtain ⟨era, century, cycle, year, day, parts, split⟩ := exists_era days
  rw [civil_of_eraDay parts split]
  obtain ⟨hCentury, hCycle, hYear, hDay, -⟩ := parts
  unfold eraDay at split
  dsimp only
  generalize isMonth : (5 * day + 2) / 153 = month
  have months : 0 ≤ month ∧ month ≤ 11 := by omega
  refine ⟨?_, ?_, ?_⟩
  · by_cases late : 10 ≤ month
    · rw [if_pos late]
      omega
    · rw [if_neg late]
      omega
  · omega
  · omega

end

/-- The number that some characters say, one decimal digit each. -/
def digitsValue (chars : List Char) : ℤ :=
  chars.foldl (fun n digit => 10 * n + (digit.toNat - 48 : ℕ)) 0

theorem digitsAt_eq {text : String} {place width : ℕ} (before digits after : List Char)
    (split : text.toList = before ++ (digits ++ after)) (isPlace : before.length = place)
    (isWidth : digits.length = width) : digitsAt text place width = digitsValue digits := by
  subst isPlace isWidth
  unfold digitsAt digitsValue
  rw [split, List.drop_left, List.take_left]

def decimalDigit (n : ℤ) (place : ℕ) : Char := Char.ofNat (48 + n.toNat / 10 ^ place % 10)

theorem toNat_digit : ∀ digit < 10, (Char.ofNat (48 + digit)).toNat - 48 = digit := by decide

theorem decimalDigit_value (n : ℤ) (place : ℕ) :
    ((decimalDigit n place).toNat - 48 : ℕ) = n.toNat / 10 ^ place % 10 := by
  exact toNat_digit _ (Nat.mod_lt _ (by decide))

theorem toList_paddedDigits (width : ℕ) (n : ℤ) :
    (paddedDigits width n).toList = (List.range width).reverse.map (decimalDigit n) := by
  unfold paddedDigits
  rw [String.toList_ofList]
  rfl

theorem length_paddedDigits (width : ℕ) (n : ℤ) : (paddedDigits width n).toList.length = width := by
  rw [toList_paddedDigits, List.length_map, List.length_reverse, List.length_range]

/-- **Padded digits** say their number. -/
theorem digitsValue_two {n : ℤ} (nonneg : 0 ≤ n) (below : n < 100) :
    digitsValue (paddedDigits 2 n).toList = n := by
  rw [toList_paddedDigits]
  show (10 * (10 * 0 + ((decimalDigit n 1).toNat - 48 : ℕ)) +
    ((decimalDigit n 0).toNat - 48 : ℕ) : ℤ) = n
  rw [decimalDigit_value, decimalDigit_value]
  omega

theorem digitsValue_four {n : ℤ} (nonneg : 0 ≤ n) (below : n < 10000) :
    digitsValue (paddedDigits 4 n).toList = n := by
  rw [toList_paddedDigits]
  show (10 * (10 * (10 * (10 * 0 + ((decimalDigit n 3).toNat - 48 : ℕ)) +
    ((decimalDigit n 2).toNat - 48 : ℕ)) + ((decimalDigit n 1).toNat - 48 : ℕ)) +
    ((decimalDigit n 0).toNat - 48 : ℕ) : ℤ) = n
  simp only [decimalDigit_value]
  omega

theorem digitsValue_six {n : ℤ} (nonneg : 0 ≤ n) (below : n < 1000000) :
    digitsValue (paddedDigits 6 n).toList = n := by
  rw [toList_paddedDigits]
  show (10 * (10 * (10 * (10 * (10 * (10 * 0 + ((decimalDigit n 5).toNat - 48 : ℕ)) +
    ((decimalDigit n 4).toNat - 48 : ℕ)) + ((decimalDigit n 3).toNat - 48 : ℕ)) +
    ((decimalDigit n 2).toNat - 48 : ℕ)) + ((decimalDigit n 1).toNat - 48 : ℕ)) +
    ((decimalDigit n 0).toNat - 48 : ℕ) : ℤ) = n
  simp only [decimalDigit_value]
  omega

/-! ## Timestamps -/

/-- The instants that a `datetime` in UTC can name: the years 1 to 9999. -/
def InDatetimeRange (instant : ℤ) : Prop :=
  -62135596800000000 ≤ instant ∧ instant < 253402300800000000

instance : DecidablePred InDatetimeRange := fun _ => inferInstanceAs (Decidable (_ ∧ _))

/-- The characters of a timestamp. -/
theorem toList_timestamp (year month day hour minute second micros : String) :
    (year ++ "-" ++ month ++ "-" ++ day ++ "T" ++ hour ++ ":" ++ minute ++ ":" ++ second ++ micros ++
      "+00:00").toList = year.toList ++ '-' :: (month.toList ++ '-' :: (day.toList ++ 'T' ::
        (hour.toList ++ ':' :: (minute.toList ++ ':' :: (second.toList ++
          (micros ++ "+00:00").toList))))) := by
  simp only [String.toList_append, List.append_assoc]
  rfl

/-- **A timestamp is read back.** -/
theorem fromIsoformat_isoformat {instant : ℤ} (inRange : InDatetimeRange instant) :
    fromIsoformat (isoformat instant) = instant := by
  obtain ⟨first, last⟩ := inRange
  have days := daysFromCivil_civil (instant / 86400000000)
  have bounds : -719162 ≤ instant / 86400000000 ∧ instant / 86400000000 ≤ 2932896 := by omega
  obtain ⟨hYear, hMonth, hDay⟩ := civil_bounds bounds.1 bounds.2
  have text := toList_timestamp (paddedDigits 4 (civil (instant / 86400000000)).1)
    (paddedDigits 2 (civil (instant / 86400000000)).2.1)
    (paddedDigits 2 (civil (instant / 86400000000)).2.2)
    (paddedDigits 2 (instant % 86400000000 / 3600000000))
    (paddedDigits 2 (instant % 86400000000 / 60000000 % 60))
    (paddedDigits 2 (instant % 86400000000 / 1000000 % 60))
    (if instant % 86400000000 % 1000000 = 0 then ""
      else "." ++ paddedDigits 6 (instant % 86400000000 % 1000000))
  replace text : (isoformat instant).toList = _ := text
  generalize civil (instant / 86400000000) = date at days hYear hMonth hDay text
  generalize isMicros : instant % 86400000000 = micros at text
  have inDay : 0 ≤ micros ∧ micros < 86400000000 := by omega
  generalize isRest : ((if micros % 1000000 = 0 then "" else "." ++ paddedDigits 6
    (micros % 1000000)) ++ "+00:00").toList = rest at text
  generalize isYear : (paddedDigits 4 date.1).toList = year at text
  generalize isMonth : (paddedDigits 2 date.2.1).toList = month at text
  generalize isDay : (paddedDigits 2 date.2.2).toList = day at text
  generalize isHour : (paddedDigits 2 (micros / 3600000000)).toList = hour at text
  generalize isMinute : (paddedDigits 2 (micros / 60000000 % 60)).toList = minute at text
  generalize isSecond : (paddedDigits 2 (micros / 1000000 % 60)).toList = second at text
  have year4 : year.length = 4 := isYear ▸ length_paddedDigits 4 _
  have month2 : month.length = 2 := isMonth ▸ length_paddedDigits 2 _
  have day2 : day.length = 2 := isDay ▸ length_paddedDigits 2 _
  have hour2 : hour.length = 2 := isHour ▸ length_paddedDigits 2 _
  have minute2 : minute.length = 2 := isMinute ▸ length_paddedDigits 2 _
  have second2 : second.length = 2 := isSecond ▸ length_paddedDigits 2 _
  have atYear : digitsAt (isoformat instant) 0 4 = date.1 := by
    refine (digitsAt_eq [] year _ text rfl year4).trans ?_
    rw [← isYear]
    exact digitsValue_four hYear.1 hYear.2
  have atMonth : digitsAt (isoformat instant) 5 2 = date.2.1 := by
    rw [digitsAt_eq (year ++ ['-']) month ('-' :: (day ++ 'T' :: (hour ++ ':' :: (minute ++ ':' ::
      (second ++ rest))))) (text.trans (by simp)) (by simp [year4]) month2, ← isMonth]
    exact digitsValue_two hMonth.1 hMonth.2
  have atDay : digitsAt (isoformat instant) 8 2 = date.2.2 := by
    rw [digitsAt_eq (year ++ '-' :: (month ++ ['-'])) day ('T' :: (hour ++ ':' :: (minute ++ ':' ::
      (second ++ rest)))) (text.trans (by simp)) (by simp [year4, month2]) day2, ← isDay]
    exact digitsValue_two hDay.1 hDay.2
  have atHour : digitsAt (isoformat instant) 11 2 = micros / 3600000000 := by
    rw [digitsAt_eq (year ++ '-' :: (month ++ '-' :: (day ++ ['T']))) hour (':' :: (minute ++ ':' ::
      (second ++ rest))) (text.trans (by simp)) (by simp [year4, month2, day2]) hour2, ← isHour]
    exact digitsValue_two (by omega) (by omega)
  have atMinute : digitsAt (isoformat instant) 14 2 = micros / 60000000 % 60 := by
    rw [digitsAt_eq (year ++ '-' :: (month ++ '-' :: (day ++ 'T' :: (hour ++ [':'])))) minute
      (':' :: (second ++ rest)) (text.trans (by simp)) (by simp [year4, month2, day2, hour2])
      minute2, ← isMinute]
    exact digitsValue_two (by omega) (by omega)
  have atSecond : digitsAt (isoformat instant) 17 2 = micros / 1000000 % 60 := by
    rw [digitsAt_eq (year ++ '-' :: (month ++ '-' :: (day ++ 'T' :: (hour ++ ':' ::
      (minute ++ [':']))))) second rest (text.trans (by simp))
      (by simp [year4, month2, day2, hour2, minute2]) second2, ← isSecond]
    exact digitsValue_two (by omega) (by omega)
  -- the microseconds follow a point, if there are any
  have atMicros : (if (isoformat instant).toList[19]? = some '.' then
      digitsAt (isoformat instant) 20 6 else 0) = micros % 1000000 := by
    let before := year ++ '-' :: (month ++ '-' :: (day ++ 'T' :: (hour ++ ':' ::
      (minute ++ ':' :: second))))
    have before19 : before.length = 19 := by
      simp [before, year4, month2, day2, hour2, minute2, second2]
    have split : (isoformat instant).toList = before ++ rest := text.trans (by simp [before])
    by_cases whole : micros % 1000000 = 0
    · rw [if_pos whole] at isRest
      have plus : rest = ['+', '0', '0', ':', '0', '0'] := isRest.symm.trans (by rfl)
      rw [split, plus, List.getElem?_append_right (by omega), before19, whole]
      rfl
    rw [if_neg whole] at isRest
    generalize isDigits : (paddedDigits 6 (micros % 1000000)).toList = digits
    have digits6 : digits.length = 6 := isDigits ▸ length_paddedDigits 6 _
    have isPoint : rest = '.' :: (digits ++ ['+', '0', '0', ':', '0', '0']) := by
      rw [← isRest, ← isDigits]
      simp only [String.toList_append, List.append_assoc]
      rfl
    rw [isPoint] at split
    have point : (isoformat instant).toList[19]? = some '.' := by
      rw [split, List.getElem?_append_right (by omega), before19]
      rfl
    rw [if_pos point, digitsAt_eq (before ++ ['.']) digits ['+', '0', '0', ':', '0', '0']
      (split.trans (by simp)) (by simp [before19]) digits6, ← isDigits]
    exact digitsValue_six (by omega) (by omega)
  have whole : fromIsoformat (isoformat instant) = daysFromCivil date.1 date.2.1 date.2.2 *
      86400000000 + micros / 3600000000 * 3600000000 + micros / 60000000 % 60 * 60000000 +
      micros / 1000000 % 60 * 1000000 + micros % 1000000 := by
    unfold fromIsoformat
    rw [atYear, atMonth, atDay, atHour, atMinute, atSecond, atMicros]
  rw [whole, days]
  clear text whole atMicros atSecond atMinute atHour atDay atMonth atYear
  omega

def isTimestampChar (c : Char) : Bool := c.isDigit || c ∈ ['-', 'T', ':', '.', '+']

theorem isTimestampChar_paddedDigits (width : ℕ) (n : ℤ) :
    ∀ c ∈ (paddedDigits width n).toList, isTimestampChar c = true := by
  intro c isChar
  rw [toList_paddedDigits, List.mem_map] at isChar
  obtain ⟨place, -, rfl⟩ := isChar
  have digits : ∀ digit < 10, isTimestampChar (Char.ofNat (48 + digit)) = true := by decide
  exact digits _ (Nat.mod_lt _ (by decide))

theorem isTimestampChar_isoformat (instant : ℤ) :
    ∀ c ∈ (isoformat instant).toList, isTimestampChar c = true := by
  intro c isChar
  unfold isoformat at isChar
  simp only [String.toList_append, List.mem_append] at isChar
  have micros : c ∈ (if instant % 86400000000 % 1000000 = 0 then ""
      else "." ++ paddedDigits 6 (instant % 86400000000 % 1000000)).toList →
      isTimestampChar c = true := by
    intro isChar
    split at isChar
    · cases isChar
    rw [String.toList_append, List.mem_append] at isChar
    rcases isChar with isPoint | isDigit
    · obtain rfl := List.mem_singleton.1 isPoint
      rfl
    · exact isTimestampChar_paddedDigits _ _ c isDigit
  have marks : ∀ mark ∈ ["-", "T", ":", "+00:00"], mark.toList.all isTimestampChar = true := by
    decide
  rcases isChar with ((((((((((((digit | mark) | digit) | mark) | digit) | mark) | digit) | mark) |
    digit) | mark) | digit) | fraction) | mark)
  all_goals first
    | exact isTimestampChar_paddedDigits _ _ c digit
    | exact micros fraction
    | exact List.all_eq_true.1 (marks _ (by simp)) c mark

end Fdai.Core
