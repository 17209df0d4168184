import TemplateCheck.KeyMap.Basic
import TemplateCheck.Proofs.Text.Utf8
import Mathlib.Data.List.Basic

/-!
# The order of texts is that of their bytes

Texts are compared character by character throughout the library. Their UTF-8 forms, compared byte
by byte, stand in the same order: `encode_lt_encode`, and `map_encode_lt_map_encode` for lists of
texts. The step is `encodeChar_append_lt`, which compares the bytes of two characters whatever
follows them; no form of a character begins another.
-/

namespace TemplateCheck.Text.Utf8

/-! ### One character -/

theorem ofNat_lt_ofNat {a b : Nat} (ha : a < 256) (hb : b < 256) :
    UInt8.ofNat a < UInt8.ofNat b ↔ a < b := by
  rw [UInt8.lt_iff_toNat_lt, UInt8.toNat_ofNat', UInt8.toNat_ofNat',
    Nat.mod_eq_of_lt (by omega), Nat.mod_eq_of_lt (by omega)]

theorem ofNat_eq_ofNat {a b : Nat} (ha : a < 256) (hb : b < 256) :
    UInt8.ofNat a = UInt8.ofNat b ↔ a = b := by
  rw [← UInt8.toNat_inj, UInt8.toNat_ofNat', UInt8.toNat_ofNat',
    Nat.mod_eq_of_lt (by omega), Nat.mod_eq_of_lt (by omega)]

/-- The bytes of the smaller of two characters come first, whatever stands behind them. -/
theorem encodeChar_append_lt {c d : Char} (h : c < d) (r s : List UInt8) :
    String.utf8EncodeChar c ++ r < String.utf8EncodeChar d ++ s := by
  have hcd : c.val.toNat < d.val.toNat := h
  have hd : d.val.toNat < 0x110000 := by
    rcases d.valid with hd | ⟨-, hd⟩
    · have : d.val.toNat < 0xd800 := hd
      omega
    · exact hd
  unfold String.utf8EncodeChar
  generalize c.val.toNat = v at hcd
  generalize d.val.toNat = w at hcd hd
  have hv : v / 64 / 64 = v / 4096 ∧ v / 4096 / 64 = v / 262144 := by
    constructor <;> rw [Nat.div_div_eq_div_mul]
  have hw : w / 64 / 64 = w / 4096 ∧ w / 4096 / 64 = w / 262144 := by
    constructor <;> rw [Nat.div_div_eq_div_mul]
  -- one case for each pair of widths; those of a wider character in front contradict `v < w`
  simp only
  split <;> [skip; split <;> [skip; split]] <;> (split <;> [skip; split <;> [skip; split]]) <;>
    try omega
  all_goals
    simp (disch := omega) only [List.cons_append, List.nil_append, List.cons_lt_cons_iff,
      ofNat_lt_ofNat, ofNat_eq_ofNat]
    rcases Nat.lt_or_ge (v / 64) (w / 64) with h₁ | h₁ <;>
      rcases Nat.lt_or_ge (v / 4096) (w / 4096) with h₂ | h₂ <;>
      rcases Nat.lt_or_ge (v / 262144) (w / 262144) with h₃ | h₃ <;>
      omega

/-! ### Whole texts -/

theorem utf8EncodeChar_ne_nil (c : Char) : String.utf8EncodeChar c ≠ [] := by
  intro h
  have hlen := String.length_utf8EncodeChar c
  rw [h] at hlen
  have hpos := c.utf8Size_pos
  simp only [List.length_nil] at hlen
  omega

theorem append_lt_append (bytes : List UInt8) {r s : List UInt8} (h : r < s) :
    bytes ++ r < bytes ++ s := by
  induction bytes with
  | nil => exact h
  | cons b bytes ih => exact List.cons_lt_cons_iff.mpr (.inr ⟨rfl, ih⟩)

theorem flatMap_lt_flatMap {cs ds : List Char} (h : cs < ds) :
    cs.flatMap String.utf8EncodeChar < ds.flatMap String.utf8EncodeChar := by
  induction h with
  | nil =>
    rename_i d ds
    rw [List.flatMap_nil, List.flatMap_cons]
    cases hd : String.utf8EncodeChar d with
    | nil => exact absurd hd (utf8EncodeChar_ne_nil d)
    | cons b bytes => exact List.nil_lt_cons _ _
  | rel hlt =>
    rw [List.flatMap_cons, List.flatMap_cons]
    exact encodeChar_append_lt hlt _ _
  | cons _ ih =>
    rw [List.flatMap_cons, List.flatMap_cons]
    exact append_lt_append _ ih

/-- The bytes of texts stand in the order of the texts. -/
theorem encode_lt_encode {a b : String} (h : a < b) : encode a < encode b := by
  rw [encode_eq_flatMap, encode_eq_flatMap]
  exact flatMap_lt_flatMap (String.lt_iff.mp h)

/-- Lists of texts stand in the order of the lists of their bytes. -/
theorem map_encode_lt_map_encode {as bs : List String} (h : as < bs) :
    as.map encode < bs.map encode := by
  induction h with
  | nil => exact List.nil_lt_cons _ _
  | rel hlt => exact List.cons_lt_cons_iff.mpr (.inl (encode_lt_encode hlt))
  | cons _ ih => exact List.cons_lt_cons_iff.mpr (.inr ⟨rfl, ih⟩)

end TemplateCheck.Text.Utf8
