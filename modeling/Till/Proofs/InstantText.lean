import Mathlib.Algebra.Order.Ring.Nat
import Till.Instant.Text
import Till.Proofs.Calendar

/-!
# Instants survive being written

What `Instant.text` writes, `Instant.ofText?` reads as the same instant, whatever the sign of its
year and the precision of its fraction (`ofText?_text`).  Each part that is written ends before a
character that is no digit, so a reader of the part stops where the next one begins.

Texts are in the order of time in the years 0 to 9999, and those of other years come before them
(`keptBefore_of_signed`).
-/

namespace Till

namespace Instant

/-! ### Digits -/

theorem isBlank_of_isDigit {c : Char} (h : c.isDigit = true) : Text.isBlank c = false := by
  simp only [Char.isDigit, Bool.and_eq_true, decide_eq_true_eq, UInt32.le_iff_toNat_le] at h
  obtain ⟨hlow, hhigh⟩ := h
  change 48 ≤ c.toNat at hlow
  change c.toNat ≤ 57 at hhigh
  simp [Text.isBlank, Text.inRanges, Text.blankRanges]
  omega

theorem isDigit_of_mem_padded {width n : Nat} {c : Char} (h : c ∈ padded width n) :
    c.isDigit = true := by
  simp only [padded, List.mem_append, List.mem_replicate, Nat.toString_eq_repr,
    Nat.toList_repr] at h
  rcases h with ⟨-, rfl⟩ | h
  · rfl
  · exact Nat.isDigit_of_mem_toDigits (by decide) (by decide) h

theorem length_padded {width n : Nat} (hwidth : 0 < width) (h : n < 10 ^ width) :
    (padded width n).length = width := by
  have hle := (Nat.length_toDigits_le_iff (by decide : 1 < 10) hwidth).2 h
  simp only [padded, List.length_append, List.length_replicate, Nat.toString_eq_repr,
    Nat.toList_repr]
  omega

theorem padded_ne_nil (width n : Nat) : padded width n ≠ [] := by
  have hpos : 0 < (Nat.toDigits 10 n).length := Nat.length_toDigits_pos
  intro h
  have hlength := congrArg List.length h
  simp only [padded, List.length_append, Nat.toString_eq_repr, Nat.toList_repr,
    List.length_nil] at hlength
  omega

/-- The number that decimal digits stand for. -/
def digitsValue (cs : List Char) : Nat := cs.foldl (fun n c => n * 10 + (c.toNat - '0'.toNat)) 0

theorem digitsValue_eq (cs : List Char) : digitsValue cs = Nat.ofDigitChars 10 cs 0 := by
  simp only [digitsValue, Nat.ofDigitChars_eq_foldl, Nat.mul_comm]

theorem digitsValue_padded (width n : Nat) : digitsValue (padded width n) = n := by
  rw [digitsValue_eq, padded, Nat.ofDigitChars_append, Nat.ofDigitChars_replicate_zero,
    Nat.mul_zero, Nat.toString_eq_repr, Nat.toList_repr, Nat.ofDigitChars_ten_toDigits]

/-! ### Reading numbers and marks -/

variable {c : Char} {cs ds rest : List Char}

/-- Digits end before a character that is none. -/
theorem takeWhile_digits (hds : ∀ d ∈ ds, d.isDigit = true) (hc : c.isDigit = false) :
    (ds ++ c :: rest).takeWhile Char.isDigit = ds := by
  rw [List.takeWhile_append_of_pos hds, List.takeWhile_cons_of_neg (by simp [hc]),
    List.append_nil]

theorem dropWhile_digits (hds : ∀ d ∈ ds, d.isDigit = true) (hc : c.isDigit = false) :
    (ds ++ c :: rest).dropWhile Char.isDigit = c :: rest := by
  rw [List.dropWhile_append_of_pos hds, List.dropWhile_cons_of_neg (by simp [hc])]

theorem readDigits_padded {most width n : Nat} (hmost : (padded width n).length ≤ most)
    (hc : c.isDigit = false) :
    readDigits most (padded width n ++ c :: rest) = some (n, c :: rest) := by
  have htake : ((padded width n ++ c :: rest).takeWhile Char.isDigit).take most =
      padded width n := by
    rw [takeWhile_digits (fun d => isDigit_of_mem_padded) hc, List.take_of_length_le hmost]
  have hvalue := digitsValue_padded width n
  rw [digitsValue] at hvalue
  simp only [readDigits, htake, List.isEmpty_iff, padded_ne_nil, if_false, hvalue,
    List.drop_left]

/-- A number starts with no blank. -/
theorem dropWhile_blank_padded (width n : Nat) :
    (padded width n ++ rest).dropWhile Text.isBlank = padded width n ++ rest := by
  cases h : padded width n with
  | nil => exact absurd h (padded_ne_nil width n)
  | cons d ds =>
    have hdigit : d.isDigit = true := isDigit_of_mem_padded (by rw [h]; exact List.mem_cons_self)
    rw [List.cons_append, List.dropWhile_cons_of_neg (by simp [isBlank_of_isDigit hdigit])]

theorem readNumber_padded {width n : Nat} (hwidth : 0 < width) (h : n < 10 ^ width)
    (hc : c.isDigit = false) :
    readNumber width (padded width n ++ c :: rest) = some (n, c :: rest) := by
  rw [readNumber, dropWhile_blank_padded,
    readDigits_padded (Nat.le_of_eq (length_padded hwidth h)) hc]

theorem readMark_cons (hc : Text.isBlank c = false) : readMark c (c :: rest) = some rest := by
  rw [readMark, List.dropWhile_cons_of_neg (by simp [hc])]
  exact if_pos rfl

/-! ### Reading dates and times -/

/-- A date as it is written before another text. -/
def dateText (d : Calendar.Date) (rest : List Char) : List Char :=
  yearText d.year ++ '-' :: (padded 2 d.month ++ '-' :: (padded 2 d.day ++ rest))

/-- A time of day as it is written before another text. -/
def timeText (minutes nanos : Nat) (rest : List Char) : List Char :=
  padded 2 (minutes / 60) ++ ':' :: (padded 2 (minutes % 60) ++ ':' ::
    (padded 2 (nanos / 1000000000) ++ (fractionText (nanos % 1000000000) ++ rest)))

theorem readYear_yearText (year : Int) :
    readYear (yearText year ++ '-' :: rest) = some (year, '-' :: rest) := by
  unfold yearText
  split
  · next hplain =>
    have hread : readDigits 4 (padded 4 year.toNat ++ '-' :: rest) =
        some (year.toNat, '-' :: rest) :=
      readDigits_padded (Nat.le_of_eq (length_padded (by decide) (by omega))) rfl
    have hyear : (year.toNat : Int) = year := Int.toNat_of_nonneg hplain.1
    rw [readYear, dropWhile_blank_padded]
    -- A digit is neither of the signs.
    cases h : padded 4 year.toNat with
    | nil => exact absurd h (padded_ne_nil 4 year.toNat)
    | cons d ds =>
      have hdigit : d.isDigit = true := isDigit_of_mem_padded (by rw [h]; exact List.mem_cons_self)
      rw [h] at hread
      simp only [List.cons_append] at hread ⊢
      split
      · next heq => cases heq; cases hdigit
      · next heq => cases heq; cases hdigit
      · rw [hread, Option.map_some, hyear]
  · next hsigned =>
    have hread (most : Nat) (hmost : (padded 4 year.natAbs ++ '-' :: rest).length ≤ most) :
        readDigits most (padded 4 year.natAbs ++ '-' :: rest) =
          some (year.natAbs, '-' :: rest) := by
      rw [List.length_append] at hmost
      exact readDigits_padded (by omega) rfl
    split
    · next hneg =>
      rw [readYear, List.cons_append, List.dropWhile_cons_of_neg (by decide)]
      simp only [hread _ (Nat.le_refl _), Option.map_some, Option.some.injEq, Prod.mk.injEq,
        and_true]
      omega
    · next hpos =>
      rw [readYear, List.cons_append, List.dropWhile_cons_of_neg (by decide)]
      simp only [hread _ (Nat.le_refl _), Option.map_some, Option.some.injEq, Prod.mk.injEq,
        and_true]
      omega

theorem readDate_text {d : Calendar.Date} (rest : List Char) (h : d.isValid = true)
    (hc : c.isDigit = false) :
    readDate (dateText d (c :: rest)) = some (d, c :: rest) := by
  obtain ⟨hmonth, hday⟩ := Calendar.Date.bounds_of_isValid h
  have hmark : Text.isBlank '-' = false := by decide
  have hdash : '-'.isDigit = false := by decide
  simp only [readDate, dateText, readYear_yearText, readMark_cons hmark, Option.bind_eq_bind,
    Option.bind_some, readNumber_padded (by decide : 0 < 2) (by omega : d.month < 10 ^ 2) hdash,
    readNumber_padded (by decide : 0 < 2) (by omega : d.day < 10 ^ 2) hc, h, if_true]

theorem readFraction_text {nanos : Nat} (h : nanos < 1000000000) (hc : c.isDigit = false)
    (hdot : c ≠ '.') :
    readFraction (fractionText nanos ++ c :: rest) = some (nanos, c :: rest) := by
  -- A fraction of some digits, filled up to nine.
  have hgroup (width n : Nat) (hwidth : 0 < width) (hle : width ≤ 9) (hn : n < 10 ^ width) :
      readFraction ('.' :: padded width n ++ c :: rest) =
        some (n * 10 ^ (9 - width), c :: rest) := by
    have hlength := length_padded hwidth hn
    have htake : ((padded width n ++ c :: rest).takeWhile Char.isDigit).take 9 =
        padded width n := by
      rw [takeWhile_digits (fun d => isDigit_of_mem_padded) hc,
        List.take_of_length_le (by omega)]
    simp only [List.cons_append, readFraction, htake, hlength,
      readDigits_padded (by omega : (padded width n).length ≤ 9) hc,
      dropWhile_digits (fun d => isDigit_of_mem_padded) hc, Option.bind_eq_bind,
      Option.bind_some]
    rfl
  unfold fractionText
  split
  · next hzero =>
    rw [List.nil_append, readFraction, hzero]
    intro cs heq
    exact hdot (List.cons.inj heq).1
  · split
    · rw [hgroup 3 _ (by decide) (by decide) (by omega)]
      simp only [Option.some.injEq, Prod.mk.injEq, and_true]
      omega
    · split
      · rw [hgroup 6 _ (by decide) (by decide) (by omega)]
        simp only [Option.some.injEq, Prod.mk.injEq, and_true]
        omega
      · rw [hgroup 9 _ (by decide) (by decide) (by omega)]
        simp

theorem readTime_text {minutes nanos : Nat} (rest : List Char) (hminutes : minutes < 1440)
    (hnanos : nanos < 61000000000) (hc : c.isDigit = false) (hdot : c ≠ '.') :
    readTime (timeText minutes nanos (c :: rest)) = some ((minutes, nanos), c :: rest) := by
  have hmark : Text.isBlank ':' = false := by decide
  have hcolon : ':'.isDigit = false := by decide
  -- The seconds end at the point of the fraction or at what follows.
  have hseconds : readNumber 2 (padded 2 (nanos / 1000000000) ++
      (fractionText (nanos % 1000000000) ++ c :: rest)) =
        some (nanos / 1000000000, fractionText (nanos % 1000000000) ++ c :: rest) := by
    have hlt : nanos / 1000000000 < 10 ^ 2 := by omega
    unfold fractionText
    split
    · exact readNumber_padded (by decide) hlt hc
    · split
      · exact readNumber_padded (by decide) hlt (by decide)
      · split
        · exact readNumber_padded (by decide) hlt (by decide)
        · exact readNumber_padded (by decide) hlt (by decide)
  simp only [readTime, timeText, Option.bind_eq_bind, Option.bind_some, readMark_cons hmark,
    hseconds,
    readNumber_padded (by decide : 0 < 2) (by omega : minutes / 60 < 10 ^ 2) hcolon,
    readNumber_padded (by decide : 0 < 2) (by omega : minutes % 60 < 10 ^ 2) hcolon,
    readFraction_text (Nat.mod_lt nanos (by decide : 0 < 1000000000)) hc hdot]
  rw [if_pos (by omega)]
  simp only [Option.some.injEq, Prod.mk.injEq, and_true]
  omega

/-! ### Reading instants -/

theorem ofMinute_minute_within (t : Instant) : ofMinute t.minute t.within = t := by
  have htick := Int.mul_ediv_add_emod t.tick ticksPerMinute
  rw [ofMinute, minute, within, Int.mul_comm, htick]

theorem within_bounds (t : Instant) : 0 ≤ t.within ∧ t.within < ticksPerMinute :=
  ⟨Int.emod_nonneg _ (by decide), Int.emod_lt_of_pos _ (by decide)⟩

theorem minuteOfDay_bounds (t : Instant) : 0 ≤ t.minuteOfDay ∧ t.minuteOfDay < minutesPerDay :=
  ⟨Int.emod_nonneg _ (by decide), Int.emod_lt_of_pos _ (by decide)⟩

theorem bareText_append (t : Instant) (rest : List Char) : t.bareText ++ rest =
    dateText t.date ('T' :: timeText t.minuteOfDay.toNat t.within.toNat rest) := by
  simp only [bareText, dateText, timeText, List.append_assoc, List.cons_append]

/-- The date and the time of an instant are read as the instant when no offset follows on them. -/
theorem ofText?_bareText {t : Instant} (h : t.IsRepresentable) (hc : c.isDigit = false)
    (hdot : c ≠ '.') (hoffset : readOffset (c :: rest) = some (0, [])) :
    ofText? (String.ofList (t.bareText ++ c :: rest)) = some t := by
  obtain ⟨hwithin, hwithinEnd⟩ := t.within_bounds
  obtain ⟨hday, hdayEnd⟩ := t.minuteOfDay_bounds
  simp only [ticksPerMinute] at hwithinEnd
  simp only [minutesPerDay] at hdayEnd
  have hdate := readDate_text (timeText t.minuteOfDay.toNat t.within.toNat (c :: rest))
    (Calendar.isValid_dateOf (t.minute / minutesPerDay)) (by decide : 'T'.isDigit = false)
  have htime := readTime_text rest (by omega : t.minuteOfDay.toNat < 1440)
    (by omega : t.within.toNat < 61000000000) hc hdot
  have hminutes : Calendar.dayNumber (Calendar.dateOf (t.minute / minutesPerDay)) *
      minutesPerDay + (t.minuteOfDay.toNat : Int) = t.minute := by
    rw [Calendar.dayNumber_dateOf, Int.toNat_of_nonneg hday, minuteOfDay, Int.mul_comm,
      Int.mul_ediv_add_emod]
  rw [ofText?, String.toList_ofList, bareText_append, date, hdate]
  simp only [Option.bind_eq_bind, Option.bind_some, true_or, if_true, htime, hoffset, hminutes,
    Int.toNat_of_nonneg hwithin, Int.sub_zero, ofMinute_minute_within, h, List.all_nil, and_self]

/-- **What is written of an instant is read** as the instant. -/
theorem ofText?_text {t : Instant} (h : t.IsRepresentable) : ofText? t.text = some t :=
  ofText?_bareText h (by decide) (by decide) (by decide)

/-- So is what a store keeps of it. -/
theorem ofText?_keptText {t : Instant} (h : t.IsRepresentable) : ofText? t.keptText = some t :=
  ofText?_bareText h (by decide) (by decide) (by decide)

/-! ### Years that are written with a sign -/

/-- An instant is in a year or a later one if the year has begun. -/
theorem startOfYear_le_iff {t : Instant} {year : Int} :
    startOfYear year ≤ t ↔ year ≤ t.date.year := by
  obtain ⟨-, -, -, hyear, -⟩ := Calendar.dateOf_spec (t.minute / minutesPerDay)
  obtain ⟨hstart, hend⟩ := Calendar.yearOf_spec (t.minute / minutesPerDay)
  rw [← Calendar.yearStart_succ] at hend
  have hday : startOfYear year ≤ t ↔ Calendar.yearStart year ≤ t.minute / minutesPerDay := by
    change Calendar.yearStart year * 1440 * 61000000000 + 0 ≤ t.tick ↔
      Calendar.yearStart year ≤ t.tick / 61000000000 / 1440
    omega
  rw [hday, date, hyear]
  constructor
  · intro h
    by_contra hlate
    have hafter : Calendar.yearOf (t.minute / minutesPerDay) + 1 ≤ year := by omega
    have hstarts := Calendar.yearStart_mono hafter
    omega
  · intro h
    exact Int.le_trans (Calendar.yearStart_mono h) hstart

theorem hasPlainYear_iff {t : Instant} :
    t.hasPlainYear = true ↔ 0 ≤ t.date.year ∧ t.date.year ≤ 9999 := by
  have hend : t < startOfYear 10000 ↔ ¬startOfYear 10000 ≤ t := Int.not_le.symm
  rw [hasPlainYear, Bool.and_eq_true, decide_eq_true_eq, decide_eq_true_eq, hend,
    startOfYear_le_iff, startOfYear_le_iff]
  omega

/-- **A year without a sign is kept after all years with one**, as signs come before digits. -/
theorem keptBefore_of_signed {now t : Instant} (hnow : now.hasPlainYear = true)
    (ht : t.hasPlainYear = false) : keptBefore now t = false := by
  have hsigned : ¬(0 ≤ t.date.year ∧ t.date.year ≤ 9999) := by
    rw [← hasPlainYear_iff, ht]
    exact Bool.false_ne_true
  obtain ⟨c, digits, hdigits⟩ := List.exists_cons_of_ne_nil (padded_ne_nil 4 now.date.year.toNat)
  have hmem : c ∈ padded 4 now.date.year.toNat := hdigits ▸ List.mem_cons_self
  have hdigit := isDigit_of_mem_padded hmem
  have hc : 48 ≤ c.toNat := by
    simp only [Char.isDigit, Bool.and_eq_true, decide_eq_true_eq, UInt32.le_iff_toNat_le] at hdigit
    exact hdigit.1
  simp only [keptBefore, hnow, ht, Bool.and_false, Bool.false_eq_true, if_false, bareText, yearText,
    if_pos (hasPlainYear_iff.1 hnow), if_neg hsigned, hdigits, List.cons_append, Text.charsBefore]
  split <;> simp <;> omega

end Instant

end Till
