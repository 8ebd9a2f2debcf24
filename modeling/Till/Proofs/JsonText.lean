import Mathlib.Tactic.IntervalCases
import Mathlib.Tactic.SplitIfs
import Till.Json.Parser
import Till.Json.Printer
import Till.Proofs.Rows

/-!
# Printed values are read back

What `Json.print` writes, the readers read as the same value, as long as its numbers are whole
numbers that 64 bits hold and it has no more levels than the reader admits (`Json.Exact`).

* `Json.readValue_render` : reading what was written, with anything behind it that ends a number;
* `Json.parse?_print`, `Json.parseLoosely?_print` : a whole text.

A number goes on as long as its characters do, so a value is read back only in front of what ends it
(`Json.EndsNumber`); the fuel is bounded by the characters that are left.
-/

namespace Till

namespace Json

/-- **A value that is written exactly**, of at most so many levels of arrays and objects: its
numbers are whole and fit 64 bits. -/
inductive Exact : Nat → Json → Prop where
  | null (depth : Nat) : Exact depth .null
  | bool (depth : Nat) (b : Bool) : Exact depth (.bool b)
  | int {depth : Nat} {n : Int} (low : Cents.least ≤ n) (high : n ≤ greatest64) :
    Exact depth (.int n)
  | str (depth : Nat) (s : String) : Exact depth (.str s)
  | arr {depth : Nat} {items : List Json} (items_exact : ∀ j ∈ items, Exact depth j) :
    Exact (depth + 1) (.arr items)
  | obj {depth : Nat} {members : Members} (members_exact : ∀ m ∈ members, Exact depth m.2) :
    Exact (depth + 1) (.obj members)

theorem Exact.mono {depth depth' : Nat} {j : Json} (h : Exact depth j) (hle : depth ≤ depth') :
    Exact depth' j := by
  induction h generalizing depth' with
  | null => exact .null _
  | bool => exact .bool _ _
  | int low high => exact .int low high
  | str => exact .str _ _
  | arr _ ih =>
    obtain ⟨d, rfl⟩ := Nat.exists_eq_add_of_lt hle
    exact .arr fun j hj => ih j hj (by omega)
  | obj _ ih =>
    obtain ⟨d, rfl⟩ := Nat.exists_eq_add_of_lt hle
    exact .obj fun m hm => ih m hm (by omega)

/-! ### Texts -/

theorem hexValue?_hexDigit : ∀ n < 16, hexValue? (hexDigit n) = some n := by decide

theorem hex4?_hexDigit {n : Nat} (h : n < 256) :
    hex4? '0' '0' (hexDigit (n / 16)) (hexDigit (n % 16)) = some n := by
  have hzero : hexValue? '0' = some 0 := rfl
  have hhigh := hexValue?_hexDigit (n / 16) (by omega)
  have hlow := hexValue?_hexDigit (n % 16) (by omega)
  simp only [hex4?, hzero, hhigh, hlow, Option.bind_eq_bind, Option.bind_some]
  congr 1
  omega

/-- A character that has an escape of one letter. -/
theorem readText_shortEscape {c e : Char} (h : shortEscape? e = some c) (rest : List Char) :
    readText ('\\' :: e :: rest) = (readText rest).map (consText c) := by
  have hu : e ≠ 'u' := by
    rintro rfl
    simp [shortEscape?] at h
  rw [readText, h]
  intros
  simp_all

/-- A character that stands for itself. -/
theorem readText_cons {c : Char} (hquote : c ≠ '"') (hslash : c ≠ '\\') (h : ¬c.toNat < 32)
    (rest : List Char) : readText (c :: rest) = (readText rest).map (consText c) := by
  rw [readText.eq_def]
  split
  · cases ‹c :: rest = []›
  · simp_all
  · simp_all
  · simp_all
  · next heq =>
    obtain ⟨rfl, rfl⟩ := List.cons.inj heq
    rw [if_neg h]

/-- A character that is written is read back. -/
theorem readText_escape (c : Char) (rest : List Char) :
    readText (escape c ++ rest) = (readText rest).map (consText c) := by
  unfold escape
  split_ifs with hquote hslash hback htab hline hpage hreturn hlow
  · exact readText_shortEscape (by simp [shortEscape?, hquote]) rest
  · exact readText_shortEscape (by simp [shortEscape?, hslash]) rest
  -- The control characters with an escape of their own are given by their code points.
  · exact readText_shortEscape (by rw [← c.ofNat_toNat, hback]; rfl) rest
  · exact readText_shortEscape (by rw [← c.ofNat_toNat, htab]; rfl) rest
  · exact readText_shortEscape (by rw [← c.ofNat_toNat, hline]; rfl) rest
  · exact readText_shortEscape (by rw [← c.ofNat_toNat, hpage]; rfl) rest
  · exact readText_shortEscape (by rw [← c.ofNat_toNat, hreturn]; rfl) rest
  · have hread := hex4?_hexDigit (n := c.toNat) (by omega)
    have hhalf : ¬(0xD800 ≤ c.toNat ∧ c.toNat < 0xE000) := by omega
    simp only [List.cons_append, List.nil_append, readText, hread, if_neg hhalf, c.ofNat_toNat]
  · exact readText_cons hquote hslash hlow rest

/-- A text is read back up to its closing quote. -/
theorem readText_escaped (cs rest : List Char) :
    readText (cs.flatMap escape ++ '"' :: rest) = some (some cs, rest) := by
  induction cs with
  | nil => rfl
  | cons c cs ih =>
    rw [List.flatMap_cons, List.append_assoc, readText_escape, ih]
    rfl

/-! ### Numbers -/

/-- What ends a number: the end of the text, or a mark that stands behind a value. -/
def EndsNumber (rest : List Char) : Prop :=
  ∀ c ∈ rest.head?, c = ',' ∨ c = ']' ∨ c = '\x7d'

variable {n : Nat} {rest : List Char}

/-- A number is written without leading zeros. -/
theorem head?_toDigits (h : 0 < n) : (Nat.toDigits 10 n).head? ≠ some '0' := by
  induction n using Nat.strongRecOn with
  | ind n ih =>
    rcases Nat.lt_or_ge n 10 with hlt | hge
    · rw [Nat.toDigits_of_lt_base hlt]
      interval_cases n <;> decide
    · have hsome : (Nat.toDigits 10 (n / 10)).head?.isSome := by
        simp [List.isSome_head?, Nat.toDigits_ne_nil]
      rw [Nat.toDigits_of_base_le (by decide) hge, List.head?_append, Option.or_of_isSome hsome]
      exact ih (n / 10) (by omega) (by omega)

theorem isDigit_of_mem_toDigits {c : Char} (h : c ∈ Nat.toDigits 10 n) : c.isDigit = true :=
  Nat.isDigit_of_mem_toDigits (by decide) (by decide) h

theorem EndsNumber.isDigit (h : EndsNumber rest) : ∀ c ∈ rest.head?, c.isDigit = false := by
  intro c hc
  rcases h c hc with rfl | rfl | rfl <;> rfl

theorem digitsOf_toDigits (h : EndsNumber rest) :
    digitsOf (Nat.toDigits 10 n ++ rest) = Nat.toDigits 10 n := by
  rw [digitsOf, List.takeWhile_append_of_pos fun c => isDigit_of_mem_toDigits]
  cases rest with
  | nil => simp
  | cons c rest => simp [h.isDigit c rfl]

theorem afterDigits_toDigits (h : EndsNumber rest) :
    afterDigits (Nat.toDigits 10 n ++ rest) = rest := by
  rw [afterDigits, List.dropWhile_append_of_pos fun c => isDigit_of_mem_toDigits]
  cases rest with
  | nil => rfl
  | cons c rest => simp [h.isDigit c rfl]

theorem ofDigits_toDigits (n : Nat) : ofDigits (Nat.toDigits 10 n) = n := by
  have h := Nat.ofDigitChars_ten_toDigits (n := n)
  simpa only [Nat.ofDigitChars_eq_foldl, ofDigits, Nat.mul_comm] using h

theorem readFraction_of_endsNumber (h : EndsNumber rest) : readFraction rest = some ([], rest) := by
  cases rest with
  | nil => rfl
  | cons c rest => rcases h c rfl with rfl | rfl | rfl <;> rfl

theorem readExponent_of_endsNumber (h : EndsNumber rest) :
    readExponent rest = some (none, rest) := by
  cases rest with
  | nil => rfl
  | cons c rest => rcases h c rfl with rfl | rfl | rfl <;> rfl

theorem readMagnitude_toDigits (negative : Bool) (hends : EndsNumber rest) :
    readMagnitude negative (Nat.toDigits 10 n ++ rest) =
      some (numberOf? negative (Nat.toDigits 10 n) [] none, rest) := by
  have hzero : ¬((Nat.toDigits 10 n).length > 1 ∧ (Nat.toDigits 10 n).head? = some '0') := by
    rintro ⟨hlength, hhead⟩
    rcases Nat.eq_zero_or_pos n with rfl | hpos
    · simp at hlength
    · exact head?_toDigits hpos hhead
  simp only [readMagnitude, digitsOf_toDigits hends, afterDigits_toDigits hends,
    readFraction_of_endsNumber hends, readExponent_of_endsNumber hends, List.isEmpty_iff,
    Nat.toDigits_ne_nil, hzero, or_self, if_false, Option.bind_eq_bind, Option.bind_some]

/-- A whole number in the range of numbers, given without its sign. -/
theorem numberOf?_toDigits {negative : Bool} {k : Int} (hk : k = if negative then -(n : Int) else n)
    (hzero : ¬(negative ∧ k = 0)) (low : Cents.least ≤ k) (high : k ≤ greatest64) :
    numberOf? negative (Nat.toDigits 10 n) [] none = some (.int k) := by
  simp only [numberOf?, ofDigits_toDigits, ← hk]
  exact if_pos ⟨rfl, rfl, hzero, low, high⟩

theorem ne_minus_of_isDigit {c : Char} (h : c.isDigit = true) : c ≠ '-' := by
  rintro rfl
  cases h

/-- A number without a sign. -/
theorem readNumber_toDigits (hends : EndsNumber rest) :
    readNumber (Nat.toDigits 10 n ++ rest) =
      some (numberOf? false (Nat.toDigits 10 n) [] none, rest) := by
  rw [← readMagnitude_toDigits false hends]
  cases h : Nat.toDigits 10 n with
  | nil => exact absurd h Nat.toDigits_ne_nil
  | cons c cs =>
    have hc := ne_minus_of_isDigit (isDigit_of_mem_toDigits (h ▸ List.mem_cons_self))
    rw [List.cons_append, readNumber]
    intro _ heq
    exact hc (List.cons.inj heq).1

/-- A whole number is read back. -/
theorem readNumber_renderInt {n : Int} (low : Cents.least ≤ n) (high : n ≤ greatest64)
    (hends : EndsNumber rest) : readNumber (renderInt n ++ rest) = some (some (.int n), rest) := by
  rw [renderInt, Nat.toList_repr]
  split
  · next hneg =>
    have hn : n = if true then -(n.natAbs : Int) else n.natAbs := by
      rw [if_pos rfl]
      omega
    rw [List.cons_append, readNumber, readMagnitude_toDigits true hends,
      numberOf?_toDigits hn (by omega) low high]
  · next hnonneg =>
    have hn : n = if false then -(n.natAbs : Int) else n.natAbs := by
      rw [if_neg Bool.false_ne_true]
      omega
    rw [readNumber_toDigits hends, numberOf?_toDigits hn (by simp) low high]

/-! ### Values -/

variable {r : Reading} {depth fuel : Nat} {j : Json}

/-- **A value is read back** in front of what ends a number. -/
def ReadsBack (r : Reading) (depth : Nat) (j : Json) : Prop :=
  ∀ {fuel : Nat} {rest : List Char}, (render j).length ≤ fuel → EndsNumber rest →
    readValue r fuel depth (render j ++ rest) = some (j, rest)

/-- A number does not begin with another mark. -/
theorem ne_of_isDigit {c m : Char} (hc : c.isDigit = true ∨ c = '-') (hm : m.isDigit = false)
    (hminus : m ≠ '-') : c ≠ m := by
  rintro rfl
  rcases hc with hc | hc
  · rw [hm] at hc
    cases hc
  · exact hminus hc

theorem renderInt_eq_cons (n : Int) :
    ∃ c cs, renderInt n = c :: cs ∧ (c.isDigit = true ∨ c = '-') := by
  rw [renderInt, Nat.toList_repr]
  split
  · exact ⟨_, _, rfl, .inr rfl⟩
  · cases h : Nat.toDigits 10 n.natAbs with
    | nil => exact absurd h Nat.toDigits_ne_nil
    | cons c cs => exact ⟨c, cs, rfl, .inl (isDigit_of_mem_toDigits (h ▸ List.mem_cons_self))⟩

/-- A value is written from a character on that is no space and ends no array. -/
theorem render_eq_cons (h : Exact depth j) :
    ∃ c cs, render j = c :: cs ∧ isSpace c = false ∧ c ≠ ']' := by
  cases h with
  | null => exact ⟨_, _, rfl, rfl, by decide⟩
  | bool _ b => cases b <;> exact ⟨_, _, rfl, rfl, by decide⟩
  | @int _ n =>
    obtain ⟨c, cs, hrender, hc⟩ := renderInt_eq_cons n
    refine ⟨c, cs, hrender, ?_, ?_⟩
    · simp only [isSpace, beq_false_of_ne (ne_of_isDigit hc (m := ' ') rfl (by decide)),
        beq_false_of_ne (ne_of_isDigit hc (m := '\n') rfl (by decide)),
        beq_false_of_ne (ne_of_isDigit hc (m := '\r') rfl (by decide)),
        beq_false_of_ne (ne_of_isDigit hc (m := '\t') rfl (by decide)), Bool.or_self]
    · exact ne_of_isDigit hc rfl (by decide)
  | str => exact ⟨_, _, rfl, rfl, by decide⟩
  | @arr _ items => cases items <;> exact ⟨_, _, rfl, rfl, by decide⟩
  | @obj _ members => cases members <;> exact ⟨_, _, rfl, rfl, by decide⟩

theorem skipSpace_render (h : Exact depth j) (rest : List Char) :
    skipSpace (render j ++ rest) = render j ++ rest := by
  obtain ⟨c, cs, hrender, hspace, -⟩ := render_eq_cons h
  rw [hrender, List.cons_append, skipSpace, List.dropWhile_cons_of_neg (by simp [hspace])]

/-- The end of an array is not taken for a value. -/
theorem head?_render (h : Exact depth j) (rest : List Char) :
    (render j ++ rest).head? ≠ some ']' := by
  obtain ⟨c, cs, hrender, -, hend⟩ := render_eq_cons h
  simpa [hrender] using hend

theorem endsNumber_renderItems (items : List Json) (rest : List Char) :
    EndsNumber (renderItems items ++ rest) := by
  cases items <;> simp [EndsNumber, renderItems]

theorem endsNumber_renderMembers (members : Members) (rest : List Char) :
    EndsNumber (renderMembers members ++ rest) := by
  cases members <;> simp [EndsNumber, renderMembers]

/-- A mark that is no space stands where it is looked for. -/
theorem skipSpace_cons {c : Char} (h : isSpace c = false) (rest : List Char) :
    skipSpace (c :: rest) = c :: rest := by
  rw [skipSpace, List.dropWhile_cons_of_neg (by simp [h])]

theorem skipSpace_renderText (name : String) (rest : List Char) :
    skipSpace (renderText name ++ rest) = renderText name ++ rest :=
  skipSpace_cons rfl _

theorem readItems_renderItems {items : List Json} (hexact : ∀ j ∈ items, Exact depth j)
    (hread : ∀ j ∈ items, ReadsBack r depth j) (hfuel : (renderItems items).length ≤ fuel)
    (rest : List Char) :
    readItems r fuel depth (renderItems items ++ rest) = some (items, rest) := by
  induction items generalizing fuel with
  | nil =>
    cases fuel with
    | zero => simp [renderItems] at hfuel
    | succ fuel => simp [renderItems, readItems, skipSpace_cons (c := ']') rfl]
  | cons j items ih =>
    obtain ⟨hj, hitems⟩ := List.forall_mem_cons.1 hexact
    obtain ⟨hreadj, hreads⟩ := List.forall_mem_cons.1 hread
    simp only [renderItems, List.length_cons, List.length_append, List.cons_append] at hfuel
    cases fuel with
    | zero => omega
    | succ fuel =>
      have hfits : (render j).length ≤ fuel := by omega
      have hvalue := hreadj hfits (endsNumber_renderItems items rest)
      have hlater : (renderItems items).length ≤ fuel := by omega
      simp only [renderItems, List.cons_append, List.append_assoc, readItems,
        skipSpace_cons (c := ',') rfl, skipSpace_render hj, hvalue, ih hitems hreads hlater,
        Option.bind_eq_bind, Option.bind_some]

theorem readMember_render (name : String) (hexact : Exact depth j) (hread : ReadsBack r depth j)
    (hfuel : (render j).length < fuel) (hends : EndsNumber rest) :
    readMember r fuel depth (renderText name ++ ':' :: (render j ++ rest)) =
      some ((some name, j), rest) := by
  cases fuel with
  | zero => omega
  | succ fuel =>
    simp only [renderText, List.cons_append, List.append_assoc, List.nil_append, readMember,
      readText_escaped, skipSpace_cons (c := ':') rfl, skipSpace_render hexact,
      hread (Nat.le_of_lt_succ hfuel) hends, Option.bind_eq_bind, Option.bind_some,
      Option.map_some, String.ofList_toList]

theorem readMembers_renderMembers {members : Members} (hexact : ∀ m ∈ members, Exact depth m.2)
    (hread : ∀ m ∈ members, ReadsBack r depth m.2) (hfuel : (renderMembers members).length ≤ fuel)
    (rest : List Char) :
    readMembers r fuel depth (renderMembers members ++ rest) =
      some (members.map fun m => (some m.1, m.2), rest) := by
  induction members generalizing fuel with
  | nil =>
    cases fuel with
    | zero => simp [renderMembers] at hfuel
    | succ fuel => simp [renderMembers, readMembers, skipSpace_cons (c := '\x7d') rfl]
  | cons m members ih =>
    obtain ⟨name, j⟩ := m
    simp only [List.forall_mem_cons] at hexact hread
    obtain ⟨hj, hmembers⟩ := hexact
    obtain ⟨hreadj, hreads⟩ := hread
    simp only [renderMembers, List.length_cons, List.length_append, List.cons_append] at hfuel
    cases fuel with
    | zero => omega
    | succ fuel =>
      have hshort : (render j).length < fuel := by omega
      have hmember := readMember_render name hj hreadj hshort
        (endsNumber_renderMembers members rest)
      have hlater : (renderMembers members).length ≤ fuel := by omega
      simp only [renderMembers, List.cons_append, List.append_assoc, readMembers,
        skipSpace_cons (c := ',') rfl, skipSpace_renderText, hmember, ih hmembers hreads hlater,
        Option.bind_eq_bind, Option.bind_some, List.map_cons]

/-- What begins with a digit or a sign is read as a number. -/
theorem readValue_number {cs : List Char} {c : Char} (hc : c.isDigit = true ∨ c = '-') :
    readValue r (fuel + 1) depth (c :: cs) =
      (readNumber (c :: cs)).bind fun number => (r.settle number.1).bind fun j =>
        some (j, number.2) := by
  have hn : c ≠ 'n' := ne_of_isDigit hc rfl (by decide)
  have ht : c ≠ 't' := ne_of_isDigit hc rfl (by decide)
  have hf : c ≠ 'f' := ne_of_isDigit hc rfl (by decide)
  have hquote : c ≠ '"' := ne_of_isDigit hc rfl (by decide)
  have harray : c ≠ '[' := ne_of_isDigit hc rfl (by decide)
  have hobject : c ≠ '\x7b' := ne_of_isDigit hc rfl (by decide)
  rw [readValue.eq_def]
  split <;> simp_all

/-- The members of an object have names. -/
theorem settleObject_map (members : Members) :
    r.settleObject (members.map fun m => (some m.1, m.2)) = some (.obj members) := by
  have hnamed : (members.map fun m => (some m.1, m.2)).mapM
      (fun m : Option String × Json => m.1.map fun name => (name, m.2)) = some members :=
    Rows.mapM_map_eq_some fun m _ => rfl
  rw [Reading.settleObject, hnamed]
  rfl

theorem length_render_pos (h : Exact depth j) : 0 < (render j).length := by
  obtain ⟨c, cs, hrender, -⟩ := render_eq_cons h
  simp [hrender]

/-- An array whose end does not follow at once is read from its first item on. -/
theorem readValue_arr {cs : List Char} (hspace : skipSpace cs = cs) (hend : cs.head? ≠ some ']') :
    readValue r (fuel + 1) (depth + 1) ('[' :: cs) =
      (readValue r fuel depth cs).bind fun first =>
        (readItems r fuel depth first.2).bind fun items =>
          some (.arr (first.1 :: items.1), items.2) := by
  rw [readValue.eq_def]
  simp only [hspace]
  split
  · next hdepth => cases hdepth
  · exact absurd rfl hend
  · next hdepth _ =>
    obtain rfl := Nat.succ.inj hdepth
    rfl

/-- An object whose end does not follow at once is read from its first member on. -/
theorem readValue_obj {cs : List Char} (hspace : skipSpace cs = cs)
    (hend : cs.head? ≠ some '\x7d') :
    readValue r (fuel + 1) (depth + 1) ('\x7b' :: cs) =
      (readMember r fuel depth cs).bind fun first =>
        (readMembers r fuel depth first.2).bind fun members =>
          (r.settleObject (first.1 :: members.1)).bind fun j => some (j, members.2) := by
  rw [readValue.eq_def]
  simp only [hspace]
  split
  · next hdepth => cases hdepth
  · exact absurd rfl hend
  · next hdepth _ =>
    obtain rfl := Nat.succ.inj hdepth
    rfl

/-- **What was written is read back.** -/
theorem readValue_render (h : Exact depth j) : ReadsBack r depth j := by
  induction h with
  | null =>
    intro fuel rest hfuel _
    cases fuel with
    | zero => simp [render] at hfuel
    | succ fuel => simp [render, readValue]
  | bool _ b =>
    intro fuel rest hfuel _
    cases fuel with
    | zero => cases b <;> simp [render] at hfuel
    | succ fuel => cases b <;> simp [render, readValue]
  | @int depth n low high =>
    intro fuel rest hfuel hends
    obtain ⟨c, cs, hrender, hc⟩ := renderInt_eq_cons n
    have hnumber := readNumber_renderInt low high hends
    cases fuel with
    | zero => simp [render, hrender] at hfuel
    | succ fuel =>
      rw [hrender, List.cons_append] at hnumber
      rw [render, hrender, List.cons_append, readValue_number hc, hnumber]
      rfl
  | str _ s =>
    intro fuel rest hfuel _
    cases fuel with
    | zero => simp [render, renderText] at hfuel
    | succ fuel =>
      simp [render, renderText, readValue, readText_escaped, Reading.settle]
  | @arr depth items hexact ih =>
    intro fuel rest hfuel hends
    cases fuel with
    | zero => cases items <;> simp [render] at hfuel
    | succ fuel =>
      cases items with
      | nil => simp [render, readValue, skipSpace_cons (c := ']') rfl]
      | cons j items =>
        obtain ⟨hj, hitems⟩ := List.forall_mem_cons.1 hexact
        obtain ⟨hreadj, hreads⟩ := List.forall_mem_cons.1 ih
        simp only [render, List.length_cons, List.length_append, List.cons_append] at hfuel
        have hfits : (render j).length ≤ fuel := by omega
        have hvalue := hreadj hfits (endsNumber_renderItems items rest)
        have hlater : (renderItems items).length ≤ fuel := by omega
        have hrest := readItems_renderItems hitems hreads hlater rest
        simp only [render, List.cons_append, List.append_assoc]
        rw [readValue_arr (skipSpace_render hj _) (head?_render hj _), hvalue]
        simp only [Option.bind_some, hrest]
  | @obj depth members hexact ih =>
    intro fuel rest hfuel hends
    cases fuel with
    | zero => cases members <;> simp [render] at hfuel
    | succ fuel =>
      cases members with
      | nil => simp [render, readValue, skipSpace_cons (c := '\x7d') rfl]
      | cons m members =>
        obtain ⟨name, j⟩ := m
        simp only [List.forall_mem_cons] at hexact ih
        obtain ⟨hj, hmembers⟩ := hexact
        obtain ⟨hreadj, hreads⟩ := ih
        simp only [render, List.length_cons, List.length_append, List.cons_append] at hfuel
        have hshort : (render j).length < fuel := by omega
        have hmember := readMember_render name hj hreadj hshort
          (endsNumber_renderMembers members rest)
        have hlater : (renderMembers members).length ≤ fuel := by omega
        have hrest := readMembers_renderMembers hmembers hreads hlater rest
        simp only [render, List.cons_append, List.append_assoc]
        rw [readValue_obj (skipSpace_renderText ..) (by simp [renderText]), hmember]
        simp only [Option.bind_some, hrest]
        exact congrArg (Option.bind · _) (settleObject_map ((name, j) :: members))

/-! ### Whole texts -/

theorem length_render_lt_renderItems {items : List Json} (hj : j ∈ items) :
    (render j).length < (renderItems items).length := by
  induction items with
  | nil => simp at hj
  | cons k items ih =>
    simp only [renderItems, List.length_cons, List.length_append, List.cons_append]
    rcases List.mem_cons.1 hj with rfl | hj
    · omega
    · have := ih hj
      omega

theorem length_render_lt_arr {items : List Json} (hj : j ∈ items) :
    (render j).length < (render (.arr items)).length := by
  cases items with
  | nil => simp at hj
  | cons k items =>
    have h := length_render_lt_renderItems hj
    simpa only [render, renderItems, List.length_cons, List.length_append, List.cons_append] using h

theorem length_render_lt_renderMembers {members : Members} {m : String × Json}
    (hm : m ∈ members) : (render m.2).length < (renderMembers members).length := by
  induction members with
  | nil => simp at hm
  | cons k members ih =>
    simp only [renderMembers, List.length_cons, List.length_append, List.cons_append]
    rcases List.mem_cons.1 hm with rfl | hm
    · omega
    · have := ih hm
      omega

theorem length_render_lt_obj {members : Members} {m : String × Json} (hm : m ∈ members) :
    (render m.2).length < (render (.obj members)).length := by
  cases members with
  | nil => simp at hm
  | cons k members =>
    have h := length_render_lt_renderMembers hm
    simpa only [render, renderMembers, List.length_cons, List.length_append, List.cons_append]
      using h

/-- A value has no more levels than its text has characters. -/
theorem Exact.length_render (h : Exact depth j) : Exact (render j).length j := by
  induction h with
  | null => exact .null _
  | bool => exact .bool _ _
  | int low high => exact .int low high
  | str => exact .str _ _
  | @arr depth items hexact ih =>
    have hpos := length_render_pos (.arr hexact)
    obtain ⟨n, hn⟩ := Nat.exists_eq_add_of_lt hpos
    rw [hn]
    refine .arr fun j hj => (ih j hj).mono ?_
    have := length_render_lt_arr hj
    omega
  | @obj depth members hexact ih =>
    have hpos := length_render_pos (.obj hexact)
    obtain ⟨n, hn⟩ := Nat.exists_eq_add_of_lt hpos
    rw [hn]
    refine .obj fun m hm => (ih m hm).mono ?_
    have := length_render_lt_obj hm
    omega

theorem parseWith?_print (h : Exact depth j) : parseWith? r depth j.print = some j := by
  have hread : readValue r (2 * (render j).length + 2) depth (render j ++ []) = some (j, []) :=
    readValue_render h (by omega) (by simp [EndsNumber])
  have hspace := skipSpace_render h []
  rw [List.append_nil] at hread hspace
  simp only [parseWith?, print, String.toList_ofList, hspace, hread, Option.bind_eq_bind,
    Option.bind_some]
  rfl

/-- **A printed value is read back.** -/
theorem parse?_print (h : Exact greatestDepth j) : parse? j.print = some j :=
  parseWith?_print h

/-- **A printed value is read back** by the loose reader, whatever its levels. -/
theorem parseLoosely?_print (h : Exact depth j) : parseLoosely? j.print = some j := by
  rw [parseLoosely?, print, String.length_ofList]
  exact parseWith?_print h.length_render

end Json

end Till
