import Mathlib
import SchoolCatalog.Proofs.Calendar
import SchoolCatalog.Proofs.Store.Comparison

/-!
# The order of stamps

Stamps are compared as texts. A stamp is a list of numbers, each with zeros in front up to a width of
its own and a mark after it, from the year down to the microseconds; so comparing two stamps is
comparing these numbers one after the other, and the first that differs decides. The numbers of a later
instant are greater in this order: a day is known by its year and the days of the year before it, these
by the month and the days of the month before it, and the parts of a day likewise.

Results:
1. `decimals_lt_iff`: numbers of one width are ordered like their digits.
2. `Date.ofDays_lt`: later days have later dates, over all months and leap years.
3. `stampParts_strictMono`, `compare_stamps`: stamps are ordered like their instants.
-/

namespace SchoolCatalog

/-! ## Lists of one length -/

section Lists

variable {α : Type} [LinearOrder α] {a b c d : List α}

/-- Where the fronts have one length, what follows counts only if they are the same. -/
theorem append_lt_append_iff (h : a.length = b.length) :
    a ++ c < b ++ d ↔ a < b ∨ a = b ∧ c < d := by
  induction a generalizing b with
  | nil =>
    rw [List.eq_nil_of_length_eq_zero h.symm]
    simp
  | cons x xs ih =>
    obtain ⟨y, ys, rfl⟩ := List.exists_cons_of_length_eq_add_one h.symm
    rw [List.cons_append, List.cons_append, List.cons_lt_cons_iff, List.cons_lt_cons_iff,
      ih (Nat.succ.inj h), List.cons.injEq]
    tauto

end Lists

/-! ## Digits -/

/-- The last digits of a number, as many as the width says. -/
def decimals : Nat → Nat → List Char
  | 0, _ => []
  | width + 1, n => decimals width (n / 10) ++ [Nat.digitChar (n % 10)]

theorem length_decimals (width n : Nat) : (decimals width n).length = width := by
  induction width generalizing n with
  | zero => rfl
  | succ width ih => rw [decimals, List.length_append, ih, List.length_singleton]

theorem decimals_zero (width : Nat) : decimals width 0 = List.replicate width '0' := by
  induction width with
  | zero => rfl
  | succ width ih =>
    rw [decimals, ih, List.replicate_succ']
    rfl

/-- A number that is not too wide is written with zeros in front up to its width. -/
theorem zeroPadded_eq {width n : Nat} (hwidth : 0 < width) (hn : n < 10 ^ width) :
    zeroPadded width n = String.ofList (decimals width n) := by
  have hdigits : List.replicate (width - (Nat.toDigits 10 n).length) '0' ++ Nat.toDigits 10 n =
      decimals width n := by
    induction width generalizing n with
    | zero => exact absurd hwidth (Nat.lt_irrefl 0)
    | succ width ih =>
      rw [decimals]
      by_cases hsmall : n < 10
      · rw [Nat.toDigits_of_lt_base hsmall, Nat.div_eq_of_lt hsmall, Nat.mod_eq_of_lt hsmall,
          decimals_zero]
        rfl
      · have hwide : 0 < width := by
          rcases width with _ | width
          · exact absurd hn hsmall
          · exact Nat.succ_pos width
        rw [Nat.toDigits_of_base_le (by decide) (Nat.le_of_not_lt hsmall), ← ih hwide
          (Nat.div_lt_of_lt_mul (by rwa [Nat.pow_succ, Nat.mul_comm] at hn)), List.length_append,
          List.length_singleton, Nat.add_sub_add_right, List.append_assoc]
  rw [← hdigits]
  rfl

theorem digitChar_lt_iff : ∀ m < 10, ∀ n < 10, Nat.digitChar m < Nat.digitChar n ↔ m < n := by decide

/-- Digits of one width are ordered like the numbers. -/
theorem decimals_lt_iff {width m n : Nat} (hm : m < 10 ^ width) (hn : n < 10 ^ width) :
    decimals width m < decimals width n ↔ m < n := by
  induction width generalizing m n with
  | zero =>
    rw [Nat.pow_zero, Nat.lt_one_iff] at hm hn
    rw [hm, hn]
    exact iff_of_false (List.not_lt_nil _) (Nat.lt_irrefl 0)
  | succ width ih =>
    rw [Nat.pow_succ, Nat.mul_comm] at hm hn
    have hm' : m / 10 < 10 ^ width := Nat.div_lt_of_lt_mul hm
    have hn' : n / 10 < 10 ^ width := Nat.div_lt_of_lt_mul hn
    have hfronts : decimals width (m / 10) = decimals width (n / 10) ↔ m / 10 = n / 10 := by
      refine ⟨fun hsame => ?_, fun hsame => by rw [hsame]⟩
      have hnot := (ih hm' hn').not.1 (hsame ▸ lt_irrefl _)
      have hnot' := (ih hn' hm').not.1 (hsame ▸ lt_irrefl _)
      omega
    rw [decimals, decimals, append_lt_append_iff (by rw [length_decimals, length_decimals]), ih hm' hn',
      hfronts, List.cons_lt_cons_iff,
      digitChar_lt_iff _ (Nat.mod_lt m (by decide)) _ (Nat.mod_lt n (by decide))]
    simp only [List.not_lt_nil, and_false, or_false]
    omega

theorem decimals_inj {width m n : Nat} (hm : m < 10 ^ width) (hn : n < 10 ^ width) :
    decimals width m = decimals width n ↔ m = n := by
  refine ⟨fun hsame => ?_, fun hsame => by rw [hsame]⟩
  have hnot := (decimals_lt_iff hm hn).not.1 (hsame ▸ lt_irrefl _)
  have hnot' := (decimals_lt_iff hn hm).not.1 (hsame ▸ lt_irrefl _)
  omega

/-- Numbers with zeros in front up to widths, each with a mark after it, and an end. -/
def lined (ending : List Char) : List (Nat × Char) → List Nat → List Char
  | (width, mark) :: shape, n :: ns => decimals width n ++ mark :: lined ending shape ns
  | _, _ => ending

/-- Whether numbers are not too wide. -/
abbrev Fitting (shape : List (Nat × Char)) (ns : List Nat) : Prop :=
  List.Forall₂ (fun place n => n < 10 ^ place.1) shape ns

/-- Lines of one shape are ordered like their numbers, of which the first that differ decide. -/
theorem lined_lt_iff {ending : List Char} {shape : List (Nat × Char)} {ms ns : List Nat}
    (hms : Fitting shape ms) (hns : Fitting shape ns) :
    lined ending shape ms < lined ending shape ns ↔ ms < ns := by
  induction hms generalizing ns with
  | nil =>
    cases hns
    exact iff_of_false (lt_irrefl _) (lt_irrefl _)
  | @cons place m shape ms hm hms ih =>
    obtain ⟨n, rest, hn, hrest, rfl⟩ := List.forall₂_cons_left_iff.1 hns
    rw [lined, lined, append_lt_append_iff (by rw [length_decimals, length_decimals]),
      decimals_lt_iff hm hn, decimals_inj hm hn, List.cons_lt_cons_iff, List.cons_lt_cons_iff, ih hrest]
    simp only [lt_irrefl, true_and, false_or]

/-! ## Dates -/

namespace Date

/-- The days of the years before one, which is counted from zero. -/
def daysBefore (years : Nat) : Nat := 365 * years + years / 4 - years / 100 + years / 400

def yearLength (year : Nat) : Nat := if isLeap year then 366 else 365

theorem yearLength_eq (year : Nat) : yearLength year + (if year % 100 = 0 then 1 else 0) =
    365 + (if year % 4 = 0 then 1 else 0) + if year % 400 = 0 then 1 else 0 := by
  unfold yearLength isLeap
  by_cases h400 : year % 400 = 0
  · have h4 : year % 4 = 0 := by omega
    have h100 : year % 100 = 0 := by omega
    simp [h4, h100, h400]
  · by_cases h100 : year % 100 = 0
    · have h4 : year % 4 = 0 := by omega
      simp [h4, h100, h400]
    · by_cases h4 : year % 4 = 0 <;> simp [h4, h100, h400]

theorem daysBefore_succ (years : Nat) : daysBefore (years + 1) = daysBefore years + yearLength (years + 1) := by
  have hlength := yearLength_eq (years + 1)
  have hfour : (years + 1) / 4 = years / 4 + if (years + 1) % 4 = 0 then 1 else 0 := by
    split <;> omega
  have hcentury : (years + 1) / 100 = years / 100 + if (years + 1) % 100 = 0 then 1 else 0 := by
    split <;> omega
  have hera : (years + 1) / 400 = years / 400 + if (years + 1) % 400 = 0 then 1 else 0 := by
    split <;> omega
  have hfew : years / 100 ≤ years / 4 := by omega
  have hfew' : (years + 1) / 100 ≤ (years + 1) / 4 := by omega
  unfold daysBefore
  generalize yearLength (years + 1) = length at hlength ⊢
  omega

/-- The days before a year that is so many eras, centuries, groups of four years and years on. -/
theorem daysBefore_eq (eras : Nat) {centuries fours years : Nat} (hcenturies : centuries ≤ 3)
    (hfours : fours ≤ 24) (hyears : years ≤ 3) :
    daysBefore (eras * 400 + centuries * 100 + fours * 4 + years) =
      146097 * eras + 36524 * centuries + 1461 * fours + 365 * years := by
  have hfour : (eras * 400 + centuries * 100 + fours * 4 + years) / 4 =
      100 * eras + 25 * centuries + fours := by omega
  have hcentury : (eras * 400 + centuries * 100 + fours * 4 + years) / 100 = 4 * eras + centuries := by
    omega
  have hera : (eras * 400 + centuries * 100 + fours * 4 + years) / 400 = eras := by omega
  rw [daysBefore, hfour, hcentury, hera]
  omega

/-- A year has its last day only if it is a leap year. -/
theorem lt_yearLength (eras : Nat) {centuries fours years day : Nat} (hcenturies : centuries ≤ 3)
    (hfours : fours ≤ 24) (hyears : years ≤ 3) (hday : day ≤ 365)
    (hleap : day = 365 → years = 3 ∧ (fours = 24 → centuries = 3)) :
    day < yearLength (eras * 400 + centuries * 100 + fours * 4 + years + 1) := by
  have hlength := yearLength_eq (eras * 400 + centuries * 100 + fours * 4 + years + 1)
  have hfour : (eras * 400 + centuries * 100 + fours * 4 + years + 1) % 4 = 0 ↔ years = 3 := by omega
  have hcentury : (eras * 400 + centuries * 100 + fours * 4 + years + 1) % 100 = 0 ↔
      years = 3 ∧ fours = 24 := by omega
  have hera : (eras * 400 + centuries * 100 + fours * 4 + years + 1) % 400 = 0 ↔
      years = 3 ∧ fours = 24 ∧ centuries = 3 := by omega
  simp only [hfour, hcentury, hera] at hlength
  generalize yearLength _ = length at hlength ⊢
  split at hlength <;> split at hlength <;> split at hlength <;> omega

/-- The year of a day and the days of that year before it. -/
theorem ofDays_eq (days : Nat) : ∃ years day, days = daysBefore years + day ∧
    day < yearLength (years + 1) ∧
    ofDays days = ofDayOfYear (years + 1) 1 day (monthLengths (isLeap (years + 1))) := by
  have hinEra : days % 146097 < 146097 := Nat.mod_lt _ (by decide)
  generalize hera : days % 146097 = inEra at hinEra
  generalize hcenturies : min (inEra / 36524) 3 = centuries
  generalize hcentury : inEra - centuries * 36524 = inCentury
  generalize hyears : min (inCentury % 1461 / 365) 3 = years
  have hfours : inCentury / 1461 ≤ 24 := by omega
  refine ⟨days / 146097 * 400 + centuries * 100 + inCentury / 1461 * 4 + years,
    inCentury % 1461 - years * 365, ?_, ?_, ?_⟩
  · rw [daysBefore_eq _ (by omega) hfours (by omega)]
    omega
  · exact lt_yearLength _ (by omega) hfours (by omega) (by omega) (by omega)
  · rw [ofDays, hera, hcenturies, hcentury, hyears]

theorem daysBefore_mono : Monotone daysBefore :=
  monotone_nat_of_le_succ fun years => daysBefore_succ years ▸ Nat.le_add_right ..

/-- The numbers of a date, in the order in which they are written. -/
def parts (date : Date) : List Nat := [date.year, date.month, date.day]

theorem length_parts (date : Date) : date.parts.length = 3 := rfl

section Months

variable (year month : Nat) (lengths : List Nat)

theorem year_ofDayOfYear (day : Nat) : (ofDayOfYear year month day lengths).year = year := by
  induction lengths generalizing month day with
  | nil => rfl
  | cons length rest ih =>
    rw [ofDayOfYear]
    split
    next => rfl
    next => exact ih ..

theorem le_month_ofDayOfYear (day : Nat) : month ≤ (ofDayOfYear year month day lengths).month := by
  induction lengths generalizing month day with
  | nil => exact le_rfl
  | cons length rest ih =>
    rw [ofDayOfYear]
    split
    next => exact le_rfl
    next => exact (Nat.le_succ month).trans (ih ..)

/-- Later days of a year are in a later month, or later in the same. -/
theorem parts_ofDayOfYear_lt {day later : Nat} (h : day < later) :
    (ofDayOfYear year month day lengths).parts < (ofDayOfYear year month later lengths).parts := by
  induction lengths generalizing month day later with
  | nil => simpa [ofDayOfYear, parts, List.cons_lt_cons_iff] using h
  | cons length rest ih =>
    rw [ofDayOfYear, ofDayOfYear]
    by_cases hday : day < length
    · rw [if_pos hday]
      by_cases hlater : later < length
      · rw [if_pos hlater]
        simpa [parts, List.cons_lt_cons_iff] using h
      · have hnext := le_month_ofDayOfYear year (month + 1) rest (later - length)
        rw [if_neg hlater]
        simp only [parts, year_ofDayOfYear, List.cons_lt_cons_iff, lt_irrefl, true_and, false_or]
        exact .inl hnext
    · rw [if_neg hday, if_neg (by omega)]
      exact ih _ (by omega)

/-- A day that the months have is in one of them. -/
theorem ofDayOfYear_within {day : Nat} (hday : day < lengths.sum) (hshort : ∀ length ∈ lengths, length ≤ 31) :
    (ofDayOfYear year month day lengths).month < month + lengths.length ∧
      (ofDayOfYear year month day lengths).day ≤ 31 := by
  induction lengths generalizing month day with
  | nil => exact absurd hday (Nat.not_lt_zero day)
  | cons length rest ih =>
    obtain ⟨hlength, hrest⟩ := List.forall_mem_cons.1 hshort
    rw [List.sum_cons] at hday
    rw [ofDayOfYear, List.length_cons]
    split
    next hhere => exact ⟨by dsimp only; omega, by dsimp only; omega⟩
    next hhere =>
      obtain ⟨hmonth, hfits⟩ := @ih (month + 1) (day - length) (by omega) hrest
      exact ⟨by omega, hfits⟩

end Months

theorem sum_monthLengths (year : Nat) : (monthLengths (isLeap year)).sum = yearLength year := by
  unfold yearLength
  cases isLeap year <;> rfl

theorem monthLengths_le (leap : Bool) : ∀ length ∈ monthLengths leap, length ≤ 31 := by
  cases leap <;> decide

/-- Later days have later dates. -/
theorem ofDays_lt : StrictMono fun days => (ofDays days).parts := by
  intro days later h
  obtain ⟨years, day, hdays, -, hdate⟩ := ofDays_eq days
  obtain ⟨years', day', hlater, hshort, hdate'⟩ := ofDays_eq later
  dsimp only
  rw [hdate, hdate']
  rcases Nat.lt_trichotomy years years' with hyears | rfl | hyears
  · simp only [parts, year_ofDayOfYear, List.cons_lt_cons_iff]
    exact .inl (Nat.succ_lt_succ hyears)
  · exact parts_ofDayOfYear_lt _ _ _ (by omega)
  · -- the later day is before the next year begins, the other is not
    have hnext := daysBefore_mono (Nat.succ_le_of_lt hyears)
    rw [Nat.succ_eq_add_one, daysBefore_succ] at hnext
    omega

/-- The dates of the years that have stamps are not too wide. -/
theorem ofDays_fits {days : Nat} (h : days < 3652059) :
    (ofDays days).year < 10 ^ 4 ∧ (ofDays days).month < 10 ^ 2 ∧ (ofDays days).day < 10 ^ 2 := by
  obtain ⟨years, day, hdays, hshort, hdate⟩ := ofDays_eq days
  rw [← sum_monthLengths] at hshort
  obtain ⟨hmonth, hday⟩ := ofDayOfYear_within (years + 1) 1 _ hshort (monthLengths_le _)
  rw [hdate, year_ofDayOfYear]
  refine ⟨?_, hmonth.trans (by decide : 1 + 12 < 10 ^ 2), hday.trans_lt (by decide)⟩
  by_contra hlate
  have hend := daysBefore_mono (show 9999 ≤ years by omega)
  rw [show daysBefore 9999 = 3652059 from rfl] at hend
  omega

end Date

/-! ## Stamps -/

/-- The numbers of an instant, in the order in which they are written. -/
def stampParts (instant : Nat) : List Nat :=
  let rest := instant % microsecondsPerDay
  let seconds := rest / 1000000
  (Date.ofDays (instant / microsecondsPerDay)).parts ++
    [seconds / 3600, seconds / 60 % 60, seconds % 60, rest % 1000000]

/-- The first numbers that differ are greater for the later of two instants. -/
theorem stampParts_strictMono : StrictMono stampParts := by
  intro instant later h
  rw [stampParts, stampParts, append_lt_append_iff (by rw [Date.length_parts, Date.length_parts])]
  have hday : instant / microsecondsPerDay ≤ later / microsecondsPerDay := Nat.div_le_div_right h.le
  rcases hday.lt_or_eq with hday | hday
  · exact .inl (Date.ofDays_lt hday)
  · refine .inr ⟨by rw [hday], ?_⟩
    have hrest : instant % microsecondsPerDay < later % microsecondsPerDay := by
      have hwhole := Nat.div_add_mod instant microsecondsPerDay
      have hwhole' := Nat.div_add_mod later microsecondsPerDay
      rw [hday] at hwhole
      omega
    simp only [List.cons_lt_cons_iff, List.not_lt_nil, and_false, or_false]
    omega

/-- The widths of the numbers of a stamp and the marks after them. -/
def stampShape : List (Nat × Char) :=
  [(4, '-'), (2, '-'), (2, 'T'), (2, ':'), (2, ':'), (2, '.'), (6, '+')]

theorem stampParts_fitting {instant : Nat} (h : instant < calendarEnd) :
    Fitting stampShape (stampParts instant) := by
  have hdays : instant / microsecondsPerDay < 3652059 := Nat.div_lt_of_lt_mul (by rwa [Nat.mul_comm])
  have hrest : instant % microsecondsPerDay < microsecondsPerDay := Nat.mod_lt _ (by decide)
  obtain ⟨hyear, hmonth, hday⟩ := Date.ofDays_fits hdays
  rw [microsecondsPerDay] at hrest
  refine .cons hyear (.cons hmonth (.cons hday (.cons ?_ (.cons ?_ (.cons ?_ (.cons ?_ .nil)))))) <;>
    dsimp only <;> unfold microsecondsPerDay <;> omega

/-- A stamp is its numbers, each with a mark after it. -/
theorem toList_stampText {instant : Nat} (h : instant < calendarEnd) :
    (stampText instant).toList = lined "00:00".toList stampShape (stampParts instant) := by
  have hfits := stampParts_fitting h
  simp only [Fitting, stampShape, stampParts, Date.parts, List.cons_append, List.nil_append,
    List.forall₂_cons] at hfits
  obtain ⟨hyear, hmonth, hday, hhour, hminute, hsecond, hmicro, -⟩ := hfits
  rw [stampText, zeroPadded_eq (by decide) hyear, zeroPadded_eq (by decide) hmonth, zeroPadded_eq (by decide) hday,
    zeroPadded_eq (by decide) hhour, zeroPadded_eq (by decide) hminute, zeroPadded_eq (by decide) hsecond,
    zeroPadded_eq (by decide) hmicro]
  simp only [String.toList_append, String.toList_ofList, List.append_assoc]
  rfl

theorem stampText_lt_iff {instant later : Nat} (h : instant < calendarEnd) (hlater : later < calendarEnd) :
    stampText instant < stampText later ↔ instant < later := by
  rw [String.lt_iff_toList_lt, toList_stampText h, toList_stampText hlater,
    lined_lt_iff (stampParts_fitting h) (stampParts_fitting hlater), stampParts_strictMono.lt_iff_lt]

section Comparing

variable {instant later : Int} {s t : String}

theorem stamp?_eq_some_iff :
    stamp? instant = some s ↔ 0 ≤ instant ∧ instant < calendarEnd ∧ stampText instant.toNat = s := by
  unfold stamp?
  simp only [Bool.and_eq_true, decide_eq_true_eq, Option.ite_none_right_eq_some, Option.some.injEq,
    and_assoc]

theorem stamp_lt_iff (hs : stamp? instant = some s) (ht : stamp? later = some t) :
    s < t ↔ instant < later := by
  obtain ⟨hstart, hend, rfl⟩ := stamp?_eq_some_iff.1 hs
  obtain ⟨hstart', hend', rfl⟩ := stamp?_eq_some_iff.1 ht
  rw [stampText_lt_iff (by omega) (by omega)]
  omega

/-- Comparing the stamps of two instants is comparing the instants. -/
theorem compare_stamps (hs : stamp? instant = some s) (ht : stamp? later = some t) :
    ((Store.Cell.text s).compare (.text t)).Compares instant later := by
  have htexts := Store.Cell.compare_texts s t
  generalize (Store.Cell.text s).compare (.text t) = order at htexts ⊢
  cases order with
  | lt => exact (stamp_lt_iff hs ht).1 htexts
  | gt => exact (stamp_lt_iff ht hs).1 htexts
  | eq =>
    have hsame : s = t := htexts
    have hnot := (stamp_lt_iff hs ht).not.1 (hsame ▸ lt_irrefl _)
    have hnot' := (stamp_lt_iff ht hs).not.1 (hsame ▸ lt_irrefl _)
    exact (by omega : instant = later)

end Comparing

end SchoolCatalog
