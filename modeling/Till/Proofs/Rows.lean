import Mathlib.Algebra.BigOperators.Group.List.Basic
import Mathlib.Algebra.Order.Ring.Int
import Mathlib.Algebra.Order.Ring.Nat
import Mathlib.Data.List.Nodup
import Mathlib.Data.List.Perm.Basic
import Mathlib.Data.Prod.Lex
import Till.Text.Blank

/-!
# Rows of a table

A table is a list of rows with a key.  Rows are added at the end, and a row is changed by mapping
over the table with a test of the key.  When no two rows have the same key, that changes exactly one
row in its place (`Rows.exists_split`), and the rest follows from it:

* `Rows.mem_update` : the rows after a change;
* `Rows.total_update` : the sum of an amount over the rows that count, after a change;
* `Rows.flatMap_update_perm` : the entries of all rows, after one row got another entry;
* `Rows.eq_of_perm` : rows in ascending order are told by what they are;
* `Rows.find?_filter_of_imp`, `Rows.filter_update` : looking for and changing some of the rows only.
-/

open List

namespace Till

namespace Rows

variable {α β : Type}

/-- The table in which the row of the given key is changed. -/
def update (key : α → String) (k : String) (f : α → α) (rows : List α) : List α :=
  rows.map fun a => if key a == k then f a else a

/-- The sum of an amount over the rows that count. -/
def total (counts : α → Bool) (amount : α → Int) (rows : List α) : Int :=
  ((rows.filter counts).map amount).sum

/-! ### Changing a row -/

variable {key : α → String} {k : String} {f : α → α} {rows : List α} {a : α}

theorem update_append (rows₁ rows₂ : List α) :
    update key k f (rows₁ ++ rows₂) = update key k f rows₁ ++ update key k f rows₂ := by
  simp [update]

theorem update_eq_self (h : ∀ a ∈ rows, key a ≠ k) : update key k f rows = rows := by
  induction rows with
  | nil => rfl
  | cons b rows ih =>
    have hb : key b ≠ k := h b List.mem_cons_self
    have hrows := ih fun a ha => h a (List.mem_cons_of_mem _ ha)
    simp only [update, List.map_cons, beq_iff_eq, hb, if_false] at hrows ⊢
    rw [hrows]

theorem map_update {g : α → β} (hf : ∀ a, g (f a) = g a) :
    (update key k f rows).map g = rows.map g := by
  simp only [update, List.map_map]
  refine List.map_congr_left ?_
  intro a _
  by_cases h : key a = k <;> simp [h, hf]

theorem nodup_update (h : (rows.map key).Nodup) (hf : ∀ a, key (f a) = key a) :
    ((update key k f rows).map key).Nodup :=
  (map_update hf).symm ▸ h

theorem nodup_concat (h : (rows.map key).Nodup) (ha : key a ∉ rows.map key) :
    ((rows ++ [a]).map key).Nodup := by
  rw [map_append, map_singleton, ← concat_eq_append, List.nodup_concat]
  exact ⟨ha, h⟩

/-- A row splits the table into rows of other keys. -/
theorem exists_before_after (hk : (rows.map key).Nodup) (ha : a ∈ rows) :
    ∃ before after, rows = before ++ a :: after ∧
      (∀ b ∈ before, key b ≠ key a) ∧ ∀ b ∈ after, key b ≠ key a := by
  obtain ⟨before, after, rfl⟩ := List.append_of_mem ha
  rw [List.map_append, List.map_cons, List.nodup_middle, List.nodup_cons, List.mem_append,
    not_or] at hk
  obtain ⟨⟨hbefore, hafter⟩, -⟩ := hk
  refine ⟨before, after, rfl, ?_, ?_⟩
  · intro b hb he
    exact hbefore (he ▸ List.mem_map_of_mem hb)
  · intro b hb he
    exact hafter (he ▸ List.mem_map_of_mem hb)

/-- **A change of a row takes place where the row stands**, and the other rows stay. -/
theorem exists_split (hk : (rows.map key).Nodup) (ha : a ∈ rows) (f : α → α) :
    ∃ before after, rows = before ++ a :: after ∧
      update key (key a) f rows = before ++ f a :: after := by
  obtain ⟨before, after, rfl, hbefore, hafter⟩ := exists_before_after hk ha
  refine ⟨before, after, rfl, ?_⟩
  have hrow : update key (key a) f (a :: after) = f a :: update key (key a) f after := by
    simp [update]
  rw [update_append, hrow, update_eq_self hbefore, update_eq_self hafter]

/-- A row of the changed table is the changed row or one of the others. -/
theorem mem_update (hk : (rows.map key).Nodup) (ha : a ∈ rows) {b : α} :
    b ∈ update key (key a) f rows ↔ b = f a ∨ b ∈ rows ∧ key b ≠ key a := by
  simp only [update, List.mem_map]
  constructor
  · rintro ⟨c, hc, rfl⟩
    by_cases h : key c = key a
    · -- A row of this key is this row.
      obtain rfl := List.inj_on_of_nodup_map hk hc ha h
      exact .inl (by simp)
    · rw [if_neg (by simpa using h)]
      exact .inr ⟨hc, h⟩
  · rintro (rfl | ⟨hb, hne⟩)
    · exact ⟨a, ha, by simp⟩
    · exact ⟨b, hb, if_neg (by simpa using hne)⟩

/-- What a row becomes is all that matters of a change of it. -/
theorem update_congr {g : α → α} (hk : (rows.map key).Nodup) (ha : a ∈ rows) (h : f a = g a) :
    update key (key a) f rows = update key (key a) g rows := by
  refine List.map_congr_left ?_
  intro b hb
  by_cases hkey : key b = key a
  · obtain rfl := List.inj_on_of_nodup_map hk hb ha hkey
    rw [h]
  · simp [hkey]

/-! ### Sums -/

variable {counts : α → Bool} {amount : α → Int}

@[simp] theorem total_nil : total counts amount [] = 0 := rfl

@[simp] theorem total_cons (a : α) (rows : List α) :
    total counts amount (a :: rows) =
      (if counts a then amount a else 0) + total counts amount rows := by
  by_cases h : counts a <;> simp [total, h]

@[simp] theorem total_append (rows₁ rows₂ : List α) :
    total counts amount (rows₁ ++ rows₂) =
      total counts amount rows₁ + total counts amount rows₂ := by
  simp [total]

/-- What does not count adds nothing. -/
theorem total_eq_zero (h : ∀ a ∈ rows, counts a = false) : total counts amount rows = 0 := by
  have hnone : rows.filter counts = [] :=
    List.filter_eq_nil_iff.2 fun a ha => by rw [h a ha]; exact Bool.false_ne_true
  rw [total, hnone]
  rfl

/-- The sum over the rows of one key is the amount of the row. -/
theorem total_of_key (hk : (rows.map key).Nodup) (ha : a ∈ rows) :
    total (fun b => key b == key a) amount rows = amount a := by
  obtain ⟨before, after, rfl, hbefore, hafter⟩ := exists_before_after hk ha
  rw [total_append, total_cons, total_eq_zero fun b hb => beq_false_of_ne (hbefore b hb),
    total_eq_zero fun b hb => beq_false_of_ne (hafter b hb)]
  simp

theorem total_congr {amount' : α → Int} {counts' : α → Bool}
    (hc : ∀ a ∈ rows, counts a = counts' a)
    (h : ∀ a ∈ rows, counts a = true → amount a = amount' a) :
    total counts amount rows = total counts' amount' rows := by
  induction rows with
  | nil => rfl
  | cons a rows ih =>
    have hrows := ih (fun b hb => hc b (List.mem_cons_of_mem _ hb))
      fun b hb => h b (List.mem_cons_of_mem _ hb)
    rw [total_cons, total_cons, hrows, ← hc a List.mem_cons_self]
    by_cases ha : counts a = true
    · simp [ha, h a List.mem_cons_self ha]
    · simp [ha]

theorem total_add {amount' : α → Int} :
    total counts (fun a => amount a + amount' a) rows =
      total counts amount rows + total counts amount' rows := by
  induction rows with
  | nil => rfl
  | cons a rows ih =>
    rw [total_cons, total_cons, total_cons, ih]
    split <;> omega

theorem total_neg (rows : List α) :
    total counts (fun a => -amount a) rows = -total counts amount rows := by
  induction rows with
  | nil => rfl
  | cons a rows ih =>
    rw [total_cons, total_cons, ih]
    split <;> omega

/-- A change of a row changes a sum by what the row contributes after it and before it. -/
theorem total_update (counts : α → Bool) (amount : α → Int) (hk : (rows.map key).Nodup)
    (ha : a ∈ rows) (f : α → α) :
    total counts amount (update key (key a) f rows) =
      total counts amount rows - (if counts a then amount a else 0) +
        (if counts (f a) then amount (f a) else 0) := by
  obtain ⟨before, after, hrows, hupdate⟩ := exists_split hk ha f
  rw [hupdate, hrows]
  simp only [total_append, total_cons]
  omega

theorem total_perm {rows' : List α} (h : rows.Perm rows') :
    total counts amount rows = total counts amount rows' :=
  ((h.filter counts).map amount).sum_eq

/-- A sum over rows that are made of other rows is a sum over these. -/
theorem total_mapIdx {f : Nat → β → α} {counts' : β → Bool} {amount' : β → Int} {rows : List β}
    (hcounts : ∀ i b, counts (f i b) = counts' b) (hamount : ∀ i b, amount (f i b) = amount' b) :
    total counts amount (rows.mapIdx f) = total counts' amount' rows := by
  induction rows generalizing f with
  | nil => rfl
  | cons b rows ih =>
    rw [mapIdx_cons, total_cons, total_cons, hcounts, hamount,
      ih (f := fun i => f (i + 1)) (fun i => hcounts (i + 1)) fun i => hamount (i + 1)]

/-- Rows that are written one by one are read one by one. -/
theorem mapM_map_eq_some {read : β → Option α} {write : α → β}
    (h : ∀ a ∈ rows, read (write a) = some a) : (rows.map write).mapM read = some rows := by
  induction rows with
  | nil => rfl
  | cons a rows ih =>
    obtain ⟨ha, hrows⟩ := List.forall_mem_cons.1 h
    rw [List.map_cons, List.mapM_cons, ha, ih hrows]
    rfl

theorem forall_mem_mapIdx {p : α → Prop} {f : Nat → β → α} {rows : List β}
    (h : ∀ i, ∀ b ∈ rows, p (f i b)) : ∀ a ∈ rows.mapIdx f, p a := by
  intro a ha
  obtain ⟨i, hi, rfl⟩ := List.mem_mapIdx.1 ha
  exact h i _ (List.getElem_mem hi)

/-- What does not depend on the position is that of the rows themselves. -/
theorem map_mapIdx {γ : Type} {f : Nat → β → α} {g : α → γ} {g' : β → γ}
    (h : ∀ i b, g (f i b) = g' b) (rows : List β) : (rows.mapIdx f).map g = rows.map g' := by
  induction rows generalizing f with
  | nil => rfl
  | cons b rows ih =>
    rw [List.mapIdx_cons, List.map_cons, List.map_cons, h, ih fun i b => h (i + 1) b]

/-- Rows with keys by their positions have keys of their own if positions have. -/
theorem nodup_mapIdx {f : Nat → β → α} {key : α → String} {name : Nat → String}
    (h : ∀ i b, key (f i b) = name i) (hname : Function.Injective name) (rows : List β) :
    ((rows.mapIdx f).map key).Nodup := by
  have hkeys : (rows.mapIdx f).map key = (List.range rows.length).map name := by
    refine List.ext_getElem (by simp) ?_
    intro i _ _
    simp [h]
  rw [hkeys]
  exact List.nodup_range.map hname

/-- The last one of some rows is the row at a place, or comes behind it. -/
theorem append_cons_eq_concat {front back all : List α} {a b : α}
    (h : all ++ [b] = front ++ a :: back) :
    (back = [] ∧ all = front ∧ b = a) ∨ ∃ rest, back = rest ++ [b] ∧ all = front ++ a :: rest := by
  rcases List.eq_nil_or_concat back with rfl | ⟨rest, last, rfl⟩
  · obtain ⟨hall, hlast⟩ := List.append_inj' h rfl
    exact .inl ⟨rfl, hall, List.singleton_inj.1 hlast⟩
  · have hends : all ++ [b] = (front ++ a :: rest) ++ [last] := by simpa using h
    obtain ⟨hall, hlast⟩ := List.append_inj' hends rfl
    exact .inr ⟨rest, by simp [List.singleton_inj.1 hlast], hall⟩

/-! ### Entries of rows -/

/-- When a row gets another entry, so does the table. -/
theorem flatMap_update_perm (hk : (rows.map key).Nodup) (ha : a ∈ rows) {entries : α → List β}
    {e : β} (he : (entries (f a)).Perm (e :: entries a)) :
    ((update key (key a) f rows).flatMap entries).Perm (e :: rows.flatMap entries) := by
  obtain ⟨before, after, hrows, hupdate⟩ := exists_split hk ha f
  rw [hupdate, hrows]
  simp only [List.flatMap_append, List.flatMap_cons]
  calc before.flatMap entries ++ (entries (f a) ++ after.flatMap entries)
      _ ~ before.flatMap entries ++ (e :: (entries a ++ after.flatMap entries)) :=
        (he.append_right _).append_left _
      _ ~ e :: (before.flatMap entries ++ (entries a ++ after.flatMap entries)) :=
        perm_middle

/-- A row of another key is found as before. -/
theorem find?_update_of_ne {k' : String} (hf : ∀ a, key (f a) = key a) (hne : k' ≠ k)
    (rows : List α) :
    (update key k f rows).find? (fun a => key a == k') = rows.find? (fun a => key a == k') := by
  have hkey : ((fun a => key a == k') ∘ fun a => if key a == k then f a else a) =
      fun a => key a == k' := by
    funext a
    simp only [Function.comp_apply]
    split <;> simp only [hf]
  rw [update, List.find?_map, hkey]
  cases hfound : rows.find? fun a => key a == k' with
  | none => rfl
  | some a =>
    have ha : key a = k' := by simpa using List.find?_some hfound
    rw [Option.map_some, ha, beq_false_of_ne hne]
    rfl

/-- The row that was changed is found under its key. -/
theorem find?_update_self (hk : (rows.map key).Nodup) (ha : a ∈ rows)
    (hf : ∀ a, key (f a) = key a) :
    (update key (key a) f rows).find? (fun b => key b == key a) = some (f a) := by
  obtain ⟨before, after, rfl, hbefore, -⟩ := exists_before_after hk ha
  have hskip : (update key (key a) f before).find? (fun b => key b == key a) = none := by
    rw [update_eq_self hbefore, List.find?_eq_none]
    exact fun b hb => by simpa using hbefore b hb
  rw [update_append, List.find?_append, hskip, Option.none_or]
  simp [update, hf]

/-- Of the rows with a key there is only the one. -/
theorem filter_of_key (hk : (rows.map key).Nodup) (ha : a ∈ rows) (q : α → Bool) :
    (rows.filter fun b => key b == key a && q b) = if q a then [a] else [] := by
  obtain ⟨before, after, rfl, hbefore, hafter⟩ := exists_before_after hk ha
  have hnone : ∀ {others : List α}, (∀ b ∈ others, key b ≠ key a) →
      (others.filter fun b => key b == key a && q b) = [] := by
    intro others hothers
    refine List.filter_eq_nil_iff.2 fun b hb => ?_
    simp [hothers b hb]
  rw [List.filter_append, hnone hbefore, List.nil_append, List.filter_cons, hnone hafter]
  simp

theorem flatMap_filter (q : α → Bool) (entries : α → List β) (rows : List α) :
    (rows.filter q).flatMap entries = rows.flatMap fun a => if q a then entries a else [] := by
  induction rows with
  | nil => rfl
  | cons a rows ih =>
    rw [List.flatMap_cons, List.filter_cons]
    split
    · rw [List.flatMap_cons, ih]
    · rw [ih, List.nil_append]

/-! ### Rows in order -/

section Order

variable {γ δ : Type} [LinearOrder γ] [LinearOrder δ] {place : α → γ} {rows rows' : List α}

/-- A test of one column, and of another one where the first does not decide. -/
theorem ite_iff_toLex_le {first second : Prop} [Decidable first] [Decidable second] {rest : Bool}
    {x y : γ} {u v : δ} (hfirst : first ↔ x < y) (hsecond : second ↔ y < x)
    (hrest : rest = true ↔ u ≤ v) :
    (if first then true else if second then false else rest) = true ↔
      toLex (x, u) ≤ toLex (y, v) := by
  rw [Prod.Lex.toLex_le_toLex]
  by_cases hlt : x < y
  · simp [hfirst.2 hlt, hlt]
  · rw [if_neg (mt hfirst.1 hlt)]
    by_cases hgt : y < x
    · simp [hsecond.2 hgt, hlt, hgt.ne']
    · rw [if_neg (mt hsecond.1 hgt)]
      simp [hrest, le_antisymm (not_lt.1 hgt) (not_lt.1 hlt)]

theorem pairwise_le_mergeSort {le : α → α → Bool}
    (hle : ∀ a b, le a b = true ↔ place a ≤ place b) (rows : List α) :
    (rows.mergeSort le).Pairwise fun a b => place a ≤ place b := by
  refine (List.pairwise_mergeSort ?_ ?_ rows).imp fun {a b} => (hle a b).1
  · intro a b c hab hbc
    exact (hle a c).2 (((hle a b).1 hab).trans ((hle b c).1 hbc))
  · intro a b
    rw [Bool.or_eq_true, hle, hle]
    exact le_total _ _

theorem pairwise_lt (h : rows.Pairwise fun a b => place a ≤ place b)
    (hk : (rows.map place).Nodup) : rows.Pairwise fun a b => place a < place b :=
  (h.and (List.pairwise_map.1 hk)).imp fun hab => lt_of_le_of_ne hab.1 hab.2

/-- Rows in ascending order are told by what they are. -/
theorem eq_of_perm (h : rows.Pairwise fun a b => place a < place b)
    (h' : rows'.Pairwise fun a b => place a < place b) (hperm : rows.Perm rows') : rows = rows' :=
  hperm.eq_of_pairwise (fun _ _ _ _ hlt hgt => absurd hlt hgt.asymm) h h'

/-- So they are by which they are. -/
theorem eq_of_mem_iff (h : rows.Pairwise fun a b => place a < place b)
    (h' : rows'.Pairwise fun a b => place a < place b) (hmem : ∀ a, a ∈ rows ↔ a ∈ rows') :
    rows = rows' := by
  have hnodup : ∀ {rows : List α}, rows.Pairwise (fun a b => place a < place b) → rows.Nodup :=
    fun h => h.imp fun hlt heq => hlt.ne (congrArg place heq)
  exact eq_of_perm h h' ((List.perm_ext_iff_of_nodup (hnodup h) (hnodup h')).2 hmem)

end Order

/-! ### Some of the rows -/

section Some

variable {α : Type} {mine q : α → Bool} {rows : List α}

theorem find?_filter_of_imp (h : ∀ a ∈ rows, q a = true → mine a = true) :
    (rows.filter mine).find? q = rows.find? q := by
  induction rows with
  | nil => rfl
  | cons a rows ih =>
    have hrows := ih fun b hb => h b (List.mem_cons_of_mem _ hb)
    by_cases hmine : mine a = true
    · rw [List.filter_cons_of_pos hmine, List.find?_cons, List.find?_cons, hrows]
    · -- A row that is left out is not what was looked for.
      have hq : ¬q a = true := fun hq => hmine (h a List.mem_cons_self hq)
      rw [List.filter_cons_of_neg hmine, hrows, List.find?_cons_of_neg hq]

theorem any_filter_of_imp (h : ∀ a ∈ rows, q a = true → mine a = true) :
    (rows.filter mine).any q = rows.any q := by
  rw [← List.isSome_find?, ← List.isSome_find?, find?_filter_of_imp h]

theorem filter_filter_of_imp (h : ∀ a ∈ rows, q a = true → mine a = true) :
    (rows.filter mine).filter q = rows.filter q := by
  rw [List.filter_filter]
  refine List.filter_congr ?_
  intro a ha
  cases hq : q a with
  | false => rfl
  | true => rw [h a ha hq, Bool.and_self]

/-- Of rows with keys of their own, the one with a key is looked for and then kept or left out. -/
theorem find?_filter_key {key : α → String} (hk : (rows.map key).Nodup) (k : String) :
    (rows.filter mine).find? (fun a => key a == k) =
      (rows.find? fun a => key a == k).filter mine := by
  induction rows with
  | nil => rfl
  | cons a rows ih =>
    rw [List.map_cons, List.nodup_cons] at hk
    by_cases hkey : key a = k
    · have hrest : ∀ b ∈ rows.filter mine, ¬(key b == k) = true := by
        intro b hb hkb
        refine hk.1 ?_
        rw [hkey, ← beq_iff_eq.1 hkb]
        exact List.mem_map_of_mem (List.mem_of_mem_filter hb)
      by_cases hmine : mine a = true
      · simp [hmine, hkey, Option.filter]
      · simp [hmine, hkey, Option.filter, List.find?_eq_none.2 hrest]
    · rw [List.find?_cons_of_neg (by simpa using hkey), ← ih hk.2]
      by_cases hmine : mine a = true
      · rw [List.filter_cons_of_pos hmine, List.find?_cons_of_neg (by simpa using hkey)]
      · rw [List.filter_cons_of_neg hmine]

/-- A row is changed and then kept or left out. -/
theorem filter_update {key : α → String} {k : String} {f : α → α}
    (hf : ∀ a, mine (f a) = mine a) :
    (update key k f rows).filter mine = update key k f (rows.filter mine) := by
  rw [update, update, List.filter_map]
  congr 2
  funext a
  by_cases h : key a = k <;> simp [h, hf]

/-- A row that is left out can be changed. -/
theorem filter_update_of_not {key : α → String} (hk : (rows.map key).Nodup) {f : α → α}
    (hf : ∀ a, mine (f a) = mine a) {a : α} (ha : a ∈ rows) (hmine : ¬mine a = true) :
    (update key (key a) f rows).filter mine = rows.filter mine := by
  rw [filter_update hf, update_eq_self]
  intro a' ha' hsame
  obtain ⟨ha', hmine'⟩ := List.mem_filter.1 ha'
  exact hmine (List.inj_on_of_nodup_map hk ha' ha hsame ▸ hmine')

/-- Rows that are left out can be added. -/
theorem filter_append_of_not {added : List α} (h : ∀ a ∈ added, ¬mine a = true) :
    (rows ++ added).filter mine = rows.filter mine := by
  rw [List.filter_append, List.filter_eq_nil_iff.2 h, List.append_nil]

end Some

end Rows

/-! ### Sorted texts -/

namespace Text

theorem mem_eraseRepsBy_loop {s a : String} {texts acc : List String} :
    s ∈ List.eraseRepsBy.loop (· == ·) a texts acc ↔ s = a ∨ s ∈ texts ∨ s ∈ acc := by
  induction texts generalizing a acc with
  | nil =>
    simp [List.eraseRepsBy.loop]
    tauto
  | cons b texts ih =>
    unfold List.eraseRepsBy.loop
    split
    · next h =>
      have hab : a = b := by simpa using h
      rw [ih, List.mem_cons, hab]
      tauto
    · rw [ih, List.mem_cons, List.mem_cons]
      tauto

theorem mem_eraseReps {s : String} {texts : List String} : s ∈ texts.eraseReps ↔ s ∈ texts := by
  cases texts with
  | nil => simp [List.eraseReps, List.eraseRepsBy]
  | cons a rest =>
    rw [List.eraseReps, List.eraseRepsBy, mem_eraseRepsBy_loop, List.mem_cons]
    simp

@[simp] theorem mem_sortedDistinct {s : String} {texts : List String} :
    s ∈ sortedDistinct texts ↔ s ∈ texts := by
  rw [sortedDistinct, mem_eraseReps, List.mem_mergeSort]

end Text

end Till
