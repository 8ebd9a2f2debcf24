import Mathlib.Data.String.Basic
import Till.Text.Blank

/-!
# The order of texts

`Text.before` compares texts by code points.  That is the order of texts as lists of characters, and
it is the order of their UTF-8 bytes: a character of more bytes has a greater first byte, and among
those of as many bytes the first byte that differs decides as the code points do.

* `Text.before_iff` : the order of lists of characters;
* `Text.lt_iff_bytes` : the order of bytes.
-/

namespace Till

namespace Text

variable {s t : String}

/-! ### Characters -/

theorem lt_iff_toNat {c d : Char} : c < d ↔ c.toNat < d.toNat := by
  rw [Char.lt_def, UInt32.lt_iff_toNat_lt]
  rfl

theorem charsBefore_iff {as bs : List Char} : charsBefore as bs = true ↔ as < bs := by
  induction as generalizing bs with
  | nil => cases bs <;> simp [charsBefore]
  | cons a as ih =>
    cases bs with
    | nil => simp [charsBefore]
    | cons b bs =>
      rw [charsBefore, List.cons_lt_cons_iff, lt_iff_toNat]
      rcases lt_trichotomy a.toNat b.toNat with h | h | h
      · simp [h]
      · have hab : a = b := Char.toNat_inj.1 h
        simp [hab, ih]
      · have hab : a ≠ b := by
          rintro rfl
          exact lt_irrefl _ h
        simp [h.asymm, h, hab]

/-- **Texts are in the order of their code points.** -/
theorem before_iff : before s t = true ↔ s < t := by
  rw [before, charsBefore_iff, String.lt_iff_toList_lt]

theorem not_before_iff : (!before t s) = true ↔ s ≤ t := by
  rw [Bool.not_eq_true', Bool.eq_false_iff, ne_eq, before_iff, not_lt]

/-! ### Bytes -/

/-- The bytes of a text. -/
def bytes (s : String) : List UInt8 := s.toUTF8.data.toList

theorem bytes_eq (s : String) : bytes s = s.toList.flatMap String.utf8EncodeChar := by
  conv_lhs => rw [← String.ofList_toList (s := s)]
  rw [bytes, String.toUTF8_eq_toByteArray, String.toByteArray_ofList, List.utf8Encode,
    List.data_toByteArray]

/-- The bytes of a character come before those of a greater one, whatever follows. -/
theorem encode_append_lt {a b : Char} (h : a < b) (as bs : List UInt8) :
    String.utf8EncodeChar a ++ as < String.utf8EncodeChar b ++ bs := by
  rw [lt_iff_toNat] at h
  have hbound : b.toNat < 1114112 := by
    rcases b.valid with hlow | ⟨-, hhigh⟩
    · exact hlow.trans (by decide)
    · exact hhigh
  have hlt : ∀ {m n : Nat}, m < 256 → n < 256 → (UInt8.ofNat m < UInt8.ofNat n ↔ m < n) := by
    intro m n hm hn
    rw [UInt8.lt_iff_toNat_lt, UInt8.toNat_ofNat_of_lt' hm, UInt8.toNat_ofNat_of_lt' hn]
  have heq : ∀ {m n : Nat}, m < 256 → n < 256 → (UInt8.ofNat m = UInt8.ofNat n ↔ m = n) := by
    intro m n hm hn
    rw [← UInt8.toNat_inj, UInt8.toNat_ofNat_of_lt' hm, UInt8.toNat_ofNat_of_lt' hn]
  have htwo : ∀ n : Nat, n / 4096 = n / 64 / 64 := by omega
  have hthree : ∀ n : Nat, n / 262144 = n / 64 / 64 / 64 := by omega
  simp only [String.utf8EncodeChar, Char.toNat_val, htwo, hthree]
  -- The first byte tells how many there are, and a greater character has no fewer.
  split_ifs <;>
  · simp (disch := omega) only [List.cons_append, List.nil_append, List.cons_lt_cons_iff, hlt, heq]
    omega

/-- **Texts are in the order of their bytes.** -/
theorem lt_iff_bytes : s < t ↔ bytes s < bytes t := by
  have hmono : ∀ {as bs : List Char}, as < bs →
      as.flatMap String.utf8EncodeChar < bs.flatMap String.utf8EncodeChar := by
    intro as
    induction as with
    | nil =>
      rintro (_ | ⟨b, bs⟩) h
      · exact absurd h (lt_irrefl _)
      · obtain ⟨byte, rest, hbytes⟩ :=
          List.exists_cons_of_ne_nil (String.utf8EncodeChar_ne_nil (c := b))
        rw [List.flatMap_nil, List.flatMap_cons, hbytes]
        exact List.nil_lt_cons _ _
    | cons a as ih =>
      rintro (_ | ⟨b, bs⟩) h
      · exact absurd h (List.not_lt_nil _)
      · rw [List.flatMap_cons, List.flatMap_cons]
        rcases List.cons_lt_cons_iff.1 h with hlt | ⟨rfl, hrest⟩
        · exact encode_append_lt hlt _ _
        · exact List.append_left_lt (ih hrest)
  rw [String.lt_iff_toList_lt, bytes_eq, bytes_eq]
  refine ⟨hmono, fun h => ?_⟩
  rcases lt_trichotomy s.toList t.toList with hlt | heq | hgt
  · exact hlt
  · rw [heq] at h
    exact absurd h (List.lt_irrefl _)
  · exact absurd h (List.lt_asymm (hmono hgt))

end Text

end Till
