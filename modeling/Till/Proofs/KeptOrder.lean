import Till.Proofs.InstantText
import Till.Proofs.TextOrder

/-!
# Kept texts are in the order of time

A store compares instants by the texts it keeps of them.  Every part of such a text but the
fraction has a fixed number of digits, so the first part that differs decides, and it decides as the
numbers do.  A fraction is as long as it has to be: where one ends the offset begins, whose sign
comes before the point of a fraction and before every digit.

* `Instant.padded_append_lt_iff` : numbers of one width are in the order of their digits;
* `Instant.fractionText_append_lt_iff` : so are fractions that a sign follows on;
* `Instant.keptText_lt_iff` : instants of the years 0 to 9999 are in the order of their kept texts;
* `Instant.keptBefore_iff` : the order in which a store keeps instants, whatever their years, is
  that of their kept texts.
-/

namespace Till

namespace Instant

variable {as bs cs ds : List Char}

/-! ### Digits -/

/-- The first place decides, if the others stand for less than one more in it. -/
theorem mul_add_lt_iff {n a b x y : Nat} (hx : x < n) (hy : y < n) :
    a * n + x < b * n + y ↔ a < b ∨ a = b ∧ x < y := by
  have hstep : ∀ {a b : Nat}, a < b → a * n + n ≤ b * n := by
    intro a b h
    rw [← Nat.succ_mul]
    exact Nat.mul_le_mul_right n h
  rcases lt_trichotomy a b with hlt | rfl | hgt
  · have hmore := hstep hlt
    omega
  · omega
  · have hless := hstep hgt
    omega

theorem mul_add_eq_iff {n a b x y : Nat} (hx : x < n) (hy : y < n) :
    a * n + x = b * n + y ↔ a = b ∧ x = y := by
  have hlt := mul_add_lt_iff (a := a) (b := b) hx hy
  have hgt := mul_add_lt_iff (a := b) (b := a) hy hx
  omega

theorem isDigit_iff {c : Char} : c.isDigit = true ↔ 48 ≤ c.toNat ∧ c.toNat ≤ 57 := by
  simp only [Char.isDigit, Bool.and_eq_true, decide_eq_true_eq, UInt32.le_iff_toNat_le]
  rfl

theorem digitsValue_cons (c : Char) (cs : List Char) :
    digitsValue (c :: cs) = (c.toNat - 48) * 10 ^ cs.length + digitsValue cs := by
  rw [digitsValue_eq, digitsValue_eq, Nat.ofDigitChars_cons, Nat.ofDigitChars_eq_ofDigitChars_zero,
    Nat.mul_zero, Nat.zero_add, Nat.mul_comm]
  rfl

theorem digitsValue_lt (has : ∀ c ∈ as, c.isDigit = true) : digitsValue as < 10 ^ as.length := by
  induction as with
  | nil => exact Nat.one_pos
  | cons a as ih =>
    obtain ⟨ha, has⟩ := List.forall_mem_cons.1 has
    have hrest := ih has
    have hfirst : (a.toNat - 48 + 1) * 10 ^ as.length ≤ 10 * 10 ^ as.length :=
      Nat.mul_le_mul_right _ (by have := isDigit_iff.1 ha; omega)
    rw [digitsValue_cons, List.length_cons, Nat.pow_succ']
    rw [Nat.add_mul] at hfirst
    omega

/-- **As many digits are in the order of what they stand for**, and what follows decides where that
is the same. -/
theorem digits_append_lt_iff (hlen : as.length = bs.length) (has : ∀ c ∈ as, c.isDigit = true)
    (hbs : ∀ c ∈ bs, c.isDigit = true) :
    as ++ cs < bs ++ ds ↔
      digitsValue as < digitsValue bs ∨ digitsValue as = digitsValue bs ∧ cs < ds := by
  induction as generalizing bs with
  | nil =>
    obtain rfl := List.length_eq_zero_iff.1 hlen.symm
    simp
  | cons a as ih =>
    cases bs with
    | nil => cases hlen
    | cons b bs =>
      obtain ⟨ha, has⟩ := List.forall_mem_cons.1 has
      obtain ⟨hb, hbs⟩ := List.forall_mem_cons.1 hbs
      have hlen : as.length = bs.length := Nat.succ.inj hlen
      have hvalue : digitsValue as < 10 ^ bs.length := hlen ▸ digitsValue_lt has
      rw [isDigit_iff] at ha hb
      have hlt : a < b ↔ a.toNat - 48 < b.toNat - 48 := by
        rw [Text.lt_iff_toNat]
        omega
      have heq : a = b ↔ a.toNat - 48 = b.toNat - 48 := by
        rw [← Char.toNat_inj]
        omega
      rw [List.cons_append, List.cons_append, List.cons_lt_cons_iff, ih hlen has hbs,
        digitsValue_cons, digitsValue_cons, hlen, mul_add_lt_iff hvalue (digitsValue_lt hbs),
        mul_add_eq_iff hvalue (digitsValue_lt hbs), hlt, heq]
      simp only [and_or_left, or_assoc, and_assoc]

/-- **Numbers of one width** are in the order of their digits. -/
theorem padded_append_lt_iff {width m n : Nat} (hwidth : 0 < width) (hm : m < 10 ^ width)
    (hn : n < 10 ^ width) :
    padded width m ++ cs < padded width n ++ ds ↔ m < n ∨ m = n ∧ cs < ds := by
  rw [digits_append_lt_iff (by rw [length_padded hwidth hm, length_padded hwidth hn])
    (fun _ => isDigit_of_mem_padded) (fun _ => isDigit_of_mem_padded), digitsValue_padded,
    digitsValue_padded]

theorem eq_of_digitsValue_eq (hlen : as.length = bs.length) (has : ∀ c ∈ as, c.isDigit = true)
    (hbs : ∀ c ∈ bs, c.isDigit = true) (hvalue : digitsValue as = digitsValue bs) : as = bs := by
  have hnot : ¬as ++ [] < bs ++ [] := by
    rw [digits_append_lt_iff hlen has hbs, hvalue]
    simp
  have hnot' : ¬bs ++ [] < as ++ [] := by
    rw [digits_append_lt_iff hlen.symm hbs has, hvalue]
    simp
  rw [List.append_nil, List.append_nil] at hnot hnot'
  exact le_antisymm (not_lt.1 hnot') (not_lt.1 hnot)

/-- Digits are those of their halves. -/
theorem padded_add {v w n : Nat} (hv : 0 < v) (hw : 0 < w) (hn : n < 10 ^ (v + w)) :
    padded (v + w) n = padded v (n / 10 ^ w) ++ padded w (n % 10 ^ w) := by
  have hhigh : n / 10 ^ w < 10 ^ v := Nat.div_lt_of_lt_mul (by rwa [← Nat.pow_add, Nat.add_comm])
  have hlow : n % 10 ^ w < 10 ^ w := Nat.mod_lt _ (Nat.pow_pos (by decide))
  have hlen : (padded (v + w) n).length =
      (padded v (n / 10 ^ w) ++ padded w (n % 10 ^ w)).length := by
    rw [List.length_append, length_padded (by omega) hn, length_padded hv hhigh,
      length_padded hw hlow]
  have hdigits : ∀ c ∈ padded v (n / 10 ^ w) ++ padded w (n % 10 ^ w), c.isDigit = true := by
    simp only [List.mem_append]
    rintro c (hc | hc)
    · exact isDigit_of_mem_padded hc
    · exact isDigit_of_mem_padded hc
  refine eq_of_digitsValue_eq hlen (fun _ => isDigit_of_mem_padded) hdigits ?_
  rw [digitsValue_padded, digitsValue_eq, Nat.ofDigitChars_append,
    Nat.ofDigitChars_eq_ofDigitChars_zero, ← digitsValue_eq, ← digitsValue_eq,
    digitsValue_padded, digitsValue_padded, length_padded hw hlow, Nat.div_add_mod]

/-! ### Fractions -/

/-- A number below `1000 ^ k` as groups of three digits, those of zeros at the end left out. -/
def groups : Nat → Nat → List Nat
  | 0, _ => []
  | k + 1, n => if n = 0 then [] else n / 1000 ^ k :: groups k (n % 1000 ^ k)

/-- Groups as digits. -/
def groupsText (gs : List Nat) : List Char := gs.flatMap (padded 3)

@[simp] theorem groupsText_nil : groupsText [] = [] := rfl

@[simp] theorem groupsText_cons (g : Nat) (gs : List Nat) :
    groupsText (g :: gs) = padded 3 g ++ groupsText gs := rfl

theorem groups_lt {k n : Nat} (hn : n < 1000 ^ k) : ∀ g ∈ groups k n, g < 1000 := by
  induction k generalizing n with
  | zero => exact fun _ h => absurd h List.not_mem_nil
  | succ k ih =>
    rw [groups]
    split
    · exact fun _ h => absurd h List.not_mem_nil
    · refine List.forall_mem_cons.2 ⟨?_, ih (Nat.mod_lt _ (Nat.pow_pos (by decide)))⟩
      exact Nat.div_lt_of_lt_mul (by rwa [← Nat.pow_succ])

/-- **Numbers are in the order of their groups.** -/
theorem groups_lt_iff {k m n : Nat} (hm : m < 1000 ^ k) (hn : n < 1000 ^ k) :
    groups k m < groups k n ↔ m < n := by
  induction k generalizing m n with
  | zero =>
    rw [pow_zero] at hm hn
    simp only [groups, lt_irrefl, false_iff]
    omega
  | succ k ih =>
    have hpos : 0 < 1000 ^ k := Nat.pow_pos (by decide)
    rw [groups, groups]
    split
    · next hzero =>
      split
      · next hzero' => simp [hzero, hzero']
      · next hzero' =>
        simp only [List.nil_lt_cons, true_iff]
        omega
    · next hzero =>
      split
      · next hzero' =>
        simp only [List.not_lt_nil, false_iff]
        omega
      · rw [List.cons_lt_cons_iff, ih (Nat.mod_lt m hpos) (Nat.mod_lt n hpos),
          ← mul_add_lt_iff (Nat.mod_lt m hpos) (Nat.mod_lt n hpos), Nat.div_add_mod',
          Nat.div_add_mod']

/-- **Groups are in the order of their digits**, if a sign follows on them. -/
theorem groupsText_append_lt_iff {gs gs' : List Nat} (hgs : ∀ g ∈ gs, g < 1000)
    (hgs' : ∀ g ∈ gs', g < 1000) :
    groupsText gs ++ '+' :: cs < groupsText gs' ++ '+' :: cs ↔ gs < gs' := by
  -- The sign comes before every digit.
  have hsign : ∀ (g : Nat) (as : List Char),
      '+' :: cs < padded 3 g ++ as ∧ ¬padded 3 g ++ as < '+' :: cs := by
    intro g as
    obtain ⟨c, digits, hdigits⟩ := List.exists_cons_of_ne_nil (padded_ne_nil 3 g)
    have hdigit : c.isDigit = true :=
      isDigit_of_mem_padded (by rw [hdigits]; exact List.mem_cons_self)
    have hlt : '+' < c :=
      Text.lt_iff_toNat.2 (Nat.lt_of_lt_of_le (by decide) (isDigit_iff.1 hdigit).1)
    rw [hdigits, List.cons_append, List.cons_lt_cons_iff, List.cons_lt_cons_iff]
    exact ⟨.inl hlt, by simp [hlt.asymm, hlt.ne']⟩
  induction gs generalizing gs' with
  | nil =>
    cases gs' with
    | nil => simp
    | cons g' gs' => simp [(hsign _ _).1]
  | cons g gs ih =>
    obtain ⟨hg, hgs⟩ := List.forall_mem_cons.1 hgs
    cases gs' with
    | nil =>
      rw [groupsText_cons, List.append_assoc]
      exact iff_of_false (hsign _ _).2 (List.not_lt_nil _)
    | cons g' gs' =>
      obtain ⟨hg', hgs'⟩ := List.forall_mem_cons.1 hgs'
      rw [groupsText_cons, groupsText_cons, List.append_assoc, List.append_assoc,
        padded_append_lt_iff (by decide) hg hg', List.cons_lt_cons_iff]
      exact or_congr_right (and_congr_right fun _ => ih hgs hgs')

theorem fractionText_eq {n : Nat} (hn : n < 1000000000) :
    fractionText n = if n = 0 then [] else '.' :: groupsText (groups 3 n) := by
  have hsix : padded 6 (n / 1000) = padded 3 (n / 1000000) ++ padded 3 (n / 1000 % 1000) := by
    have hhalves := padded_add (v := 3) (w := 3) (n := n / 1000) (by decide) (by decide) (by omega)
    simpa [Nat.div_div_eq_div_mul] using hhalves
  have hnine : padded 9 n = padded 6 (n / 1000) ++ padded 3 (n % 1000) := by
    have hparts := padded_add (v := 6) (w := 3) (n := n) (by decide) (by decide) (by omega)
    simpa using hparts
  unfold fractionText
  split
  · rfl
  · next hzero =>
    rw [groups, if_neg hzero]
    split
    · next hmilli =>
      rw [groups, if_pos (show n % 1000 ^ 2 = 0 by omega)]
      simp
    · next hmilli =>
      rw [groups, if_neg (show n % 1000 ^ 2 ≠ 0 by omega)]
      have hmiddle : n % 1000000 / 1000 = n / 1000 % 1000 := by omega
      split
      · next hmicro =>
        rw [groups, if_pos (show n % 1000 ^ 2 % 1000 ^ 1 = 0 by omega), hsix]
        simp [hmiddle]
      · next hmicro =>
        rw [groups, if_neg (show n % 1000 ^ 2 % 1000 ^ 1 ≠ 0 by omega), hnine, hsix]
        simp [groups, hmiddle]

/-- **Fractions are in the order of numbers**, if a sign follows on them. -/
theorem fractionText_append_lt_iff {m n : Nat} (hm : m < 1000000000) (hn : n < 1000000000) :
    fractionText m ++ '+' :: cs < fractionText n ++ '+' :: cs ↔ m < n := by
  have hgroups : groupsText (groups 3 m) ++ '+' :: cs < groupsText (groups 3 n) ++ '+' :: cs ↔
      m < n := by
    rw [groupsText_append_lt_iff (groups_lt hm) (groups_lt hn), groups_lt_iff hm hn]
  have hpoint : '+' < '.' := by decide
  rw [fractionText_eq hm, fractionText_eq hn]
  split
  · next hzero =>
    split
    · next hzero' => simp [hzero, hzero']
    · next hzero' =>
      rw [List.nil_append, List.cons_append, List.cons_lt_cons_iff]
      simp only [hpoint, true_or, true_iff]
      omega
  · next hzero =>
    split
    · next hzero' =>
      rw [List.nil_append, List.cons_append, List.cons_lt_cons_iff]
      simp only [hpoint.asymm, hpoint.ne', false_and, or_false, false_iff]
      omega
    · next hzero' => simpa using hgroups

/-! ### Dates and times -/

theorem dateText_lt_iff {d d' : Calendar.Date} (h : d.isValid = true) (h' : d'.isValid = true)
    (hyear : 0 ≤ d.year ∧ d.year ≤ 9999) (hyear' : 0 ≤ d'.year ∧ d'.year ≤ 9999) :
    dateText d cs < dateText d' ds ↔ d.Before d' ∨ d = d' ∧ cs < ds := by
  obtain ⟨hmonth, hday⟩ := Calendar.Date.bounds_of_isValid h
  obtain ⟨hmonth', hday'⟩ := Calendar.Date.bounds_of_isValid h'
  have hsame : d = d' ↔ d.year = d'.year ∧ d.month = d'.month ∧ d.day = d'.day := by
    cases d
    cases d'
    simp
  rw [dateText, dateText, yearText, yearText, if_pos hyear, if_pos hyear',
    padded_append_lt_iff (by decide) (by omega) (by omega), List.cons_lt_cons_iff,
    padded_append_lt_iff (by decide) (by omega) (by omega), List.cons_lt_cons_iff,
    padded_append_lt_iff (by decide) (by omega) (by omega), hsame, Calendar.Date.Before]
  have hyears : d.year.toNat < d'.year.toNat ↔ d.year < d'.year := by omega
  have hyearsEq : d.year.toNat = d'.year.toNat ↔ d.year = d'.year := by omega
  rw [hyears, hyearsEq]
  simp only [lt_irrefl, false_or, true_and]
  simp only [and_or_left, or_assoc, and_assoc]

theorem timeText_lt_iff {minutes minutes' nanos nanos' : Nat} (hminutes : minutes < 1440)
    (hminutes' : minutes' < 1440) (hnanos : nanos < 61000000000) (hnanos' : nanos' < 61000000000) :
    timeText minutes nanos ('+' :: cs) < timeText minutes' nanos' ('+' :: cs) ↔
      minutes < minutes' ∨ minutes = minutes' ∧ nanos < nanos' := by
  rw [timeText, timeText, padded_append_lt_iff (by decide) (by omega) (by omega),
    List.cons_lt_cons_iff, padded_append_lt_iff (by decide) (by omega) (by omega),
    List.cons_lt_cons_iff, padded_append_lt_iff (by decide) (by omega) (by omega),
    fractionText_append_lt_iff (Nat.mod_lt _ (by decide)) (Nat.mod_lt _ (by decide))]
  simp only [lt_irrefl, false_or, true_and]
  omega

/-! ### Instants -/

variable {a b : Instant}

theorem isValid_date (t : Instant) : t.date.isValid = true := Calendar.isValid_dateOf _

/-- Instants are in the order of their days, minutes and nanoseconds. -/
theorem lt_iff_parts : a < b ↔
    a.minute / minutesPerDay < b.minute / minutesPerDay ∨
      a.minute / minutesPerDay = b.minute / minutesPerDay ∧
        (a.minuteOfDay < b.minuteOfDay ∨ a.minuteOfDay = b.minuteOfDay ∧ a.within < b.within) := by
  change a.tick < b.tick ↔ _
  simp only [minuteOfDay, minute, within, minutesPerDay, ticksPerMinute]
  omega

theorem keptText_lt_chars : a.keptText < b.keptText ↔
    a.bareText ++ "+00:00".toList < b.bareText ++ "+00:00".toList := by
  simp only [String.lt_iff_toList_lt, keptText, String.toList_ofList]

/-- **Instants of the years 0 to 9999 are in the order of their kept texts.** -/
theorem keptText_lt_iff (ha : a.hasPlainYear = true) (hb : b.hasPlainYear = true) :
    a.keptText < b.keptText ↔ a < b := by
  obtain ⟨hwithin, hwithinEnd⟩ := a.within_bounds
  obtain ⟨hwithin', hwithinEnd'⟩ := b.within_bounds
  obtain ⟨hminute, hminuteEnd⟩ := a.minuteOfDay_bounds
  obtain ⟨hminute', hminuteEnd'⟩ := b.minuteOfDay_bounds
  simp only [ticksPerMinute] at hwithinEnd hwithinEnd'
  simp only [minutesPerDay] at hminuteEnd hminuteEnd'
  have hdates : a.date = b.date ↔ a.minute / minutesPerDay = b.minute / minutesPerDay := by
    refine ⟨fun h => ?_, fun h => congrArg Calendar.dateOf h⟩
    rw [← Calendar.dayNumber_dateOf (a.minute / minutesPerDay), ← date, h, date,
      Calendar.dayNumber_dateOf]
  have hbefore : a.date.Before b.date ↔
      a.minute / minutesPerDay < b.minute / minutesPerDay := Calendar.before_dateOf_iff
  have hoffset : "+00:00".toList = '+' :: "00:00".toList := by decide
  rw [keptText_lt_chars, bareText_append, bareText_append, hoffset,
    dateText_lt_iff a.isValid_date b.isValid_date (hasPlainYear_iff.1 ha)
      (hasPlainYear_iff.1 hb), List.cons_lt_cons_iff,
    timeText_lt_iff (by omega) (by omega) (by omega) (by omega), hbefore, hdates, lt_iff_parts]
  simp only [lt_irrefl, false_or, true_and]
  omega

theorem keptText_le_iff (ha : a.hasPlainYear = true) (hb : b.hasPlainYear = true) :
    a.keptText ≤ b.keptText ↔ a ≤ b := by
  rw [← not_lt, keptText_lt_iff hb ha]
  exact Int.not_lt

/-- Instants of the years 0 to 9999 are told apart by their kept texts. -/
theorem keptText_inj (ha : a.hasPlainYear = true) (hb : b.hasPlainYear = true) :
    a.keptText = b.keptText ↔ a = b := by
  refine ⟨fun h => ?_, fun h => congrArg keptText h⟩
  have hle := (keptText_le_iff ha hb).1 h.le
  have hge := (keptText_le_iff hb ha).1 h.ge
  cases a
  cases b
  exact congrArg mk (Int.le_antisymm hle hge)

/-- **The order in which a store keeps instants** is that of their kept texts. -/
theorem keptBefore_iff : keptBefore a b = true ↔ a.keptText < b.keptText := by
  rw [keptBefore]
  split
  · next hplain =>
    obtain ⟨ha, hb⟩ := (Bool.and_eq_true _ _).mp hplain
    rw [keptText_lt_iff ha hb, decide_eq_true_eq]
  · rw [Text.charsBefore_iff, keptText_lt_chars]

theorem keptBefore_eq (a b : Instant) : keptBefore a b = Text.before a.keptText b.keptText := by
  rw [Bool.eq_iff_iff, keptBefore_iff, Text.before_iff]

end Instant

end Till
