import Mathlib.Tactic.SplitIfs

/-!
# Bytes

Places in a source are counted in the bytes of its UTF-8 form, and names are ordered by them, while
texts are ordered by code points. The two orders are one: the form of a smaller character is smaller
at a byte that both forms have.

## Main definitions

* `Text.bytes`: the UTF-8 form of a text

## Main statements

* `Text.bytes_append`: the bytes of two texts, one after the other
* `Text.bytes_lt_iff`: the order of bytes is the order of texts
-/

namespace TemplateLint.Text

/-- The bytes of the UTF-8 form of a text. -/
def bytes (s : String) : List UInt8 :=
  s.toUTF8.data.toList

theorem bytes_eq_flatMap (s : String) : bytes s = s.toList.flatMap String.utf8EncodeChar := by
  unfold bytes
  rw [String.toUTF8_eq_toByteArray, ← String.utf8Encode_toList, List.utf8Encode]
  simp

@[simp]
theorem length_bytes (s : String) : (bytes s).length = s.utf8ByteSize := rfl

@[simp]
theorem bytes_append (s t : String) : bytes (s ++ t) = bytes s ++ bytes t := by
  rw [bytes_eq_flatMap, bytes_eq_flatMap, bytes_eq_flatMap, String.toList_append,
    List.flatMap_append]

/-! ### The order of bytes -/

/-- **The form of a smaller character is smaller**, and it is so at a byte that both forms have:
whatever follows the two characters does not matter. -/
theorem utf8EncodeChar_append_lt {c d : Char} (h : c < d) (u v : List UInt8) :
    String.utf8EncodeChar c ++ u < String.utf8EncodeChar d ++ v := by
  have hlt : c.val.toNat < d.val.toNat := h
  have hbound : d.val.toNat < 0x110000 := by
    have hvalid := d.valid
    simp only [UInt32.isValidChar, Nat.isValidChar] at hvalid
    omega
  unfold String.utf8EncodeChar
  generalize c.val.toNat = m at *
  generalize d.val.toNat = n at *
  have hdiv : ∀ a : Nat, a / 4096 = a / 64 / 64 ∧ a / 262144 = a / 64 / 64 / 64 := by omega
  have hdigit : ∀ a : Nat, (a % 64 + 128) % 256 = a % 64 + 128 := by omega
  simp only [hdiv]
  by_cases hshort : m ≤ 0xffff
  · -- Of two forms of different lengths the longer one starts with the greater byte.
    split_ifs <;>
      simp only [List.cons_append, List.nil_append, List.cons_lt_cons_iff, UInt8.lt_iff_toNat_lt,
        UInt8.toNat_ofNat', ← UInt8.toNat_inj, Nat.reducePow, hdigit] <;>
      omega
  · -- Both forms have four bytes, and the first digit to base 64 that differs decides.
    have hstep : ∀ a b : Nat, a < b → a / 64 < b / 64 ∨ a / 64 = b / 64 ∧ a % 64 < b % 64 := by
      omega
    have hlead : ∀ a, a < 0x110000 →
        (a / 64 / 64 / 64 % 8 + 240) % 256 = a / 64 / 64 / 64 + 240 := by
      omega
    rw [if_neg (by omega), if_neg (by omega), if_neg hshort, if_neg (by omega), if_neg (by omega),
      if_neg (by omega)]
    simp only [List.cons_append, List.nil_append, List.cons_lt_cons_iff, UInt8.lt_iff_toNat_lt,
      UInt8.toNat_ofNat', ← UInt8.toNat_inj, Nat.reducePow, hdigit]
    rw [hlead m (by omega), hlead n hbound]
    rcases hstep m n hlt with h₁ | ⟨h₁, h₁'⟩
    · rcases hstep _ _ h₁ with h₂ | ⟨h₂, h₂'⟩
      · rcases hstep _ _ h₂ with h₃ | ⟨h₃, h₃'⟩ <;> omega
      · omega
    · omega

theorem flatMap_utf8EncodeChar_lt {cs ds : List Char} (h : cs < ds) :
    cs.flatMap String.utf8EncodeChar < ds.flatMap String.utf8EncodeChar := by
  induction cs generalizing ds with
  | nil =>
      cases ds with
      | nil => simp at h
      | cons d ds =>
          rw [List.flatMap_cons]
          cases hd : String.utf8EncodeChar d with
          | nil => exact absurd hd String.utf8EncodeChar_ne_nil
          | cons x xs => exact List.nil_lt_cons _ _
  | cons c cs ih =>
      cases ds with
      | nil => simp at h
      | cons d ds =>
          rw [List.flatMap_cons, List.flatMap_cons]
          rcases List.cons_lt_cons_iff.1 h with hlt | ⟨rfl, hlt⟩
          · exact utf8EncodeChar_append_lt hlt _ _
          · exact List.append_left_lt (ih hlt)

/-- **The order of bytes is the order of texts.** -/
theorem bytes_lt_iff {s t : String} : bytes s < bytes t ↔ s < t := by
  have hmono : ∀ {a b : String}, a < b → bytes a < bytes b := by
    intro a b h
    rw [bytes_eq_flatMap, bytes_eq_flatMap]
    exact flatMap_utf8EncodeChar_lt h
  refine ⟨fun h => ?_, hmono⟩
  by_cases hts : t < s
  · exact absurd (hmono hts) (List.lt_asymm h)
  · by_cases hst : s < t
    · exact hst
    · have heq : s = t := String.le_antisymm (String.not_lt.1 hts) (String.not_lt.1 hst)
      rw [heq] at h
      exact absurd h (List.lt_irrefl _)

end TemplateLint.Text
