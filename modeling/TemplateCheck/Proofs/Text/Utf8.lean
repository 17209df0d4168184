import TemplateCheck.Text.Utf8
import Mathlib.Data.List.Basic

/-!
# Decoding undoes encoding

The decoder reads a character by the range of its first byte and checks the bytes behind it, which
is not how characters are encoded. Still it accepts the bytes of texts and no others.

* `encode_eq_flatMap` — the bytes of a text are those of its characters;
* `step_utf8EncodeChar`, `step_ok` — one character in front of bytes is read just if its bytes stand
  there;
* `decode_eq_ok_iff` — bytes are decoded to a text just if they are the bytes of that text.
-/

namespace TemplateCheck.Text.Utf8

/-! ### The bytes of a text -/

theorem toList_loop (bytes : ByteArray) (i : Nat) (read : List UInt8) :
    ByteArray.toList.loop bytes i read = read.reverse ++ bytes.data.toList.drop i := by
  rw [ByteArray.toList.loop]
  split
  · rename_i h
    have hi : i < bytes.data.toList.length := h
    rw [toList_loop bytes (i + 1), List.drop_eq_getElem_cons hi]
    have hget : bytes.get! i = bytes.data.toList[i] := by
      show bytes.data[i]! = _
      rw [getElem!_pos bytes.data i h]
      rfl
    simp [hget]
  · rename_i h
    have hi : bytes.data.toList.length ≤ i := by
      have : ¬ i < bytes.data.size := h
      simpa using this
    rw [List.drop_eq_nil_of_le hi, List.append_nil]
termination_by bytes.size - i

/-- The bytes of a text are those of its characters, one after the other. -/
theorem encode_eq_flatMap (s : String) : encode s = s.toList.flatMap String.utf8EncodeChar := by
  have hs : s.toUTF8 = (s.toList.flatMap String.utf8EncodeChar).toByteArray := by
    rw [show s.toUTF8 = s.toByteArray from rfl, ← String.utf8Encode_toList, List.utf8Encode]
  rw [encode, ByteArray.toList, toList_loop, hs, List.toList_data_toByteArray]
  rfl

/-! ### The bytes of one character -/

theorem val_ofNat {v : Nat} (h : v.isValidChar) : (Char.ofNat v).val.toNat = v := by
  rw [Char.ofNat, dif_pos h]
  rfl

theorem ofNat_eq_iff {v : Nat} {b : UInt8} (h : v < 256) : UInt8.ofNat v = b ↔ v = b.toNat := by
  rw [← UInt8.toNat_inj, UInt8.toNat_ofNat', Nat.mod_eq_of_lt (by omega)]

theorem utf8EncodeChar_ofNat {v : Nat} (h : v.isValidChar) :
    String.utf8EncodeChar (Char.ofNat v) =
      if v ≤ 0x7F then [UInt8.ofNat v]
      else if v ≤ 0x7FF then [UInt8.ofNat (v / 64 % 32 + 0xC0), UInt8.ofNat (v % 64 + 0x80)]
      else if v ≤ 0xFFFF then
        [UInt8.ofNat (v / 4096 % 16 + 0xE0), UInt8.ofNat (v / 64 % 64 + 0x80),
          UInt8.ofNat (v % 64 + 0x80)]
      else
        [UInt8.ofNat (v / 262144 % 8 + 0xF0), UInt8.ofNat (v / 4096 % 64 + 0x80),
          UInt8.ofNat (v / 64 % 64 + 0x80), UInt8.ofNat (v % 64 + 0x80)] := by
  rw [String.utf8EncodeChar, val_ofNat h]

theorem encode_one {a : UInt8} (ha : a.toNat < 0x80) :
    String.utf8EncodeChar (Char.ofNat a.toNat) = [a] := by
  have hvalid : a.toNat.isValidChar := .inl (by omega)
  rw [utf8EncodeChar_ofNat hvalid, if_pos (by omega), UInt8.ofNat_toNat]

theorem encode_two {a b : UInt8} (ha : 0xC2 ≤ a.toNat ∧ a.toNat ≤ 0xDF)
    (hb : 0x80 ≤ b.toNat ∧ b.toNat ≤ 0xBF) :
    String.utf8EncodeChar (Char.ofNat ((a.toNat - 0xC0) * 64 + (b.toNat - 0x80))) = [a, b] := by
  have hvalid : ((a.toNat - 0xC0) * 64 + (b.toNat - 0x80)).isValidChar := .inl (by omega)
  rw [utf8EncodeChar_ofNat hvalid, if_neg (by omega), if_pos (by omega)]
  simp (disch := omega) only [List.cons.injEq, and_true, ofNat_eq_iff]
  omega

theorem encode_three {a b c : UInt8} (ha : 0xE0 ≤ a.toNat ∧ a.toNat ≤ 0xEF)
    (hb : 0x80 ≤ b.toNat ∧ b.toNat ≤ 0xBF) (hc : 0x80 ≤ c.toNat ∧ c.toNat ≤ 0xBF)
    (hlo : a.toNat = 0xE0 → 0xA0 ≤ b.toNat) (hhi : a.toNat = 0xED → b.toNat ≤ 0x9F) :
    String.utf8EncodeChar (Char.ofNat
      (((a.toNat - 0xE0) * 64 + (b.toNat - 0x80)) * 64 + (c.toNat - 0x80))) = [a, b, c] := by
  have hvalid : (((a.toNat - 0xE0) * 64 + (b.toNat - 0x80)) * 64 +
      (c.toNat - 0x80)).isValidChar := by
    unfold Nat.isValidChar
    omega
  rw [utf8EncodeChar_ofNat hvalid, if_neg (by omega), if_neg (by omega), if_pos (by omega)]
  simp (disch := omega) only [List.cons.injEq, and_true, ofNat_eq_iff]
  omega

theorem encode_four {a b c d : UInt8} (ha : 0xF0 ≤ a.toNat ∧ a.toNat ≤ 0xF4)
    (hb : 0x80 ≤ b.toNat ∧ b.toNat ≤ 0xBF) (hc : 0x80 ≤ c.toNat ∧ c.toNat ≤ 0xBF)
    (hd : 0x80 ≤ d.toNat ∧ d.toNat ≤ 0xBF)
    (hlo : a.toNat = 0xF0 → 0x90 ≤ b.toNat) (hhi : a.toNat = 0xF4 → b.toNat ≤ 0x8F) :
    String.utf8EncodeChar (Char.ofNat
      ((((a.toNat - 0xF0) * 64 + (b.toNat - 0x80)) * 64 + (c.toNat - 0x80)) * 64 +
        (d.toNat - 0x80))) = [a, b, c, d] := by
  have hvalid : ((((a.toNat - 0xF0) * 64 + (b.toNat - 0x80)) * 64 + (c.toNat - 0x80)) * 64 +
      (d.toNat - 0x80)).isValidChar := by
    unfold Nat.isValidChar
    omega
  rw [utf8EncodeChar_ofNat hvalid, if_neg (by omega), if_neg (by omega), if_neg (by omega)]
  simp (disch := omega) only [List.cons.injEq, and_true, ofNat_eq_iff]
  omega

/-! ### Reading one character -/

theorem shape_eq_some_iff {a w lo hi : Nat} : shape a = some (w, lo, hi) ↔
    (w = 2 ∧ 0xC2 ≤ a ∧ a ≤ 0xDF ∧ lo = 0x80 ∧ hi = 0xBF) ∨
    (w = 3 ∧ 0xE0 ≤ a ∧ a ≤ 0xEF ∧ (a = 0xE0 ∧ lo = 0xA0 ∨ a ≠ 0xE0 ∧ lo = 0x80) ∧
      (a = 0xED ∧ hi = 0x9F ∨ a ≠ 0xED ∧ hi = 0xBF)) ∨
    (w = 4 ∧ 0xF0 ≤ a ∧ a ≤ 0xF4 ∧ (a = 0xF0 ∧ lo = 0x90 ∨ a ≠ 0xF0 ∧ lo = 0x80) ∧
      (a = 0xF4 ∧ hi = 0x8F ∨ a ≠ 0xF4 ∧ hi = 0xBF)) := by
  unfold shape
  repeat' split
  all_goals simp only [Option.some.injEq, Prod.mk.injEq, reduceCtorEq, false_iff]
  all_goals omega

theorem continues_iff {lo hi : Nat} {b : UInt8} :
    continues lo hi b = true ↔ lo ≤ b.toNat ∧ b.toNat ≤ hi := by
  simp [continues]

/-- A character in front of bytes is followed by the bytes behind its own. -/
theorem step_ok {a : UInt8} {rest : List UInt8} {c : Char} {w : Nat}
    (h : step a rest = .char c w) :
    ∃ tail rest', rest = tail ++ rest' ∧ w = tail.length + 1 ∧
      String.utf8EncodeChar c = a :: tail := by
  rw [step] at h
  split at h
  · rename_i ha
    obtain ⟨rfl, rfl⟩ := Step.char.inj h
    exact ⟨[], rest, rfl, rfl, encode_one ha⟩
  · split at h
    · simp at h
    · rename_i width lo hi hshape
      rw [shape_eq_some_iff] at hshape
      cases rest with
      | nil => simp at h
      | cons b rest =>
        simp only at h
        split at h
        · simp at h
        · rename_i hb
          rw [Bool.not_eq_true', Bool.not_eq_false, continues_iff] at hb
          split at h
          · obtain ⟨rfl, rfl⟩ := Step.char.inj h
            exact ⟨[b], rest, rfl, rfl, encode_two (by omega) (by omega)⟩
          · cases rest with
            | nil => simp at h
            | cons c₃ rest =>
              simp only at h
              split at h
              · simp at h
              · rename_i hc
                rw [Bool.not_eq_true', Bool.not_eq_false, continues_iff] at hc
                split at h
                · obtain ⟨rfl, rfl⟩ := Step.char.inj h
                  exact ⟨[b, c₃], rest, rfl, rfl,
                    encode_three (by omega) (by omega) hc (by omega) (by omega)⟩
                · cases rest with
                  | nil => simp at h
                  | cons d rest =>
                    simp only at h
                    split at h
                    · simp at h
                    · rename_i hd
                      rw [Bool.not_eq_true', Bool.not_eq_false, continues_iff] at hd
                      obtain ⟨rfl, rfl⟩ := Step.char.inj h
                      exact ⟨[b, c₃, d], rest, rfl, rfl,
                        encode_four (by omega) (by omega) hc hd (by omega) (by omega)⟩

theorem step_two {a b : UInt8} (rest : List UInt8) (ha : 0xC2 ≤ a.toNat ∧ a.toNat ≤ 0xDF)
    (hb : 0x80 ≤ b.toNat ∧ b.toNat ≤ 0xBF) :
    step a (b :: rest) =
      .char (Char.ofNat ((a.toNat - 0xC0) * 64 + (b.toNat - 0x80))) 2 := by
  have hshape := shape_eq_some_iff.mpr (.inl ⟨rfl, ha.1, ha.2, rfl, rfl⟩)
  have hcontinues := continues_iff.mpr hb
  rw [step, if_neg (by omega), hshape]
  simp [hcontinues]

theorem step_three {a b c : UInt8} (rest : List UInt8) (ha : 0xE0 ≤ a.toNat ∧ a.toNat ≤ 0xEF)
    (hb : 0x80 ≤ b.toNat ∧ b.toNat ≤ 0xBF) (hc : 0x80 ≤ c.toNat ∧ c.toNat ≤ 0xBF)
    (hlo : a.toNat = 0xE0 → 0xA0 ≤ b.toNat) (hhi : a.toNat = 0xED → b.toNat ≤ 0x9F) :
    step a (b :: c :: rest) =
      .char (Char.ofNat (((a.toNat - 0xE0) * 64 + (b.toNat - 0x80)) * 64 + (c.toNat - 0x80)))
        3 := by
  obtain ⟨lo, hlo'⟩ : ∃ lo, a.toNat = 0xE0 ∧ lo = 0xA0 ∨ a.toNat ≠ 0xE0 ∧ lo = 0x80 := by
    by_cases h : a.toNat = 0xE0 <;> simp [h]
  obtain ⟨hi, hhi'⟩ : ∃ hi, a.toNat = 0xED ∧ hi = 0x9F ∨ a.toNat ≠ 0xED ∧ hi = 0xBF := by
    by_cases h : a.toNat = 0xED <;> simp [h]
  have hshape := shape_eq_some_iff.mpr (.inr (.inl ⟨rfl, ha.1, ha.2, hlo', hhi'⟩))
  have hsecond : continues lo hi b = true := continues_iff.mpr (by omega)
  have hthird := continues_iff.mpr hc
  rw [step, if_neg (by omega), hshape]
  simp [hsecond, hthird]

theorem step_four {a b c d : UInt8} (rest : List UInt8) (ha : 0xF0 ≤ a.toNat ∧ a.toNat ≤ 0xF4)
    (hb : 0x80 ≤ b.toNat ∧ b.toNat ≤ 0xBF) (hc : 0x80 ≤ c.toNat ∧ c.toNat ≤ 0xBF)
    (hd : 0x80 ≤ d.toNat ∧ d.toNat ≤ 0xBF)
    (hlo : a.toNat = 0xF0 → 0x90 ≤ b.toNat) (hhi : a.toNat = 0xF4 → b.toNat ≤ 0x8F) :
    step a (b :: c :: d :: rest) =
      .char (Char.ofNat ((((a.toNat - 0xF0) * 64 + (b.toNat - 0x80)) * 64 +
        (c.toNat - 0x80)) * 64 + (d.toNat - 0x80))) 4 := by
  obtain ⟨lo, hlo'⟩ : ∃ lo, a.toNat = 0xF0 ∧ lo = 0x90 ∨ a.toNat ≠ 0xF0 ∧ lo = 0x80 := by
    by_cases h : a.toNat = 0xF0 <;> simp [h]
  obtain ⟨hi, hhi'⟩ : ∃ hi, a.toNat = 0xF4 ∧ hi = 0x8F ∨ a.toNat ≠ 0xF4 ∧ hi = 0xBF := by
    by_cases h : a.toNat = 0xF4 <;> simp [h]
  have hshape := shape_eq_some_iff.mpr (.inr (.inr ⟨rfl, ha.1, ha.2, hlo', hhi'⟩))
  have hsecond : continues lo hi b = true := continues_iff.mpr (by omega)
  have hthird := continues_iff.mpr hc
  have hfourth := continues_iff.mpr hd
  rw [step, if_neg (by omega), hshape]
  simp [hsecond, hthird, hfourth]

/-- The bytes of a character are read as that character, whatever stands behind them. -/
theorem step_utf8EncodeChar (c : Char) (rest : List UInt8) :
    ∃ a tail, String.utf8EncodeChar c = a :: tail ∧
      step a (tail ++ rest) = .char c (tail.length + 1) := by
  have hvalid : c.val.toNat.isValidChar := c.valid
  have hc : Char.ofNat c.val.toNat = c := Char.ofNat_toNat c
  rw [String.utf8EncodeChar]
  generalize c.val.toNat = v at hvalid hc
  have hbyte : ∀ n < 256, (UInt8.ofNat n).toNat = n := fun n hn => by
    rw [UInt8.toNat_ofNat', Nat.mod_eq_of_lt (by omega)]
  unfold Nat.isValidChar at hvalid
  split
  · refine ⟨_, _, rfl, ?_⟩
    rw [step]
    simp only [hbyte v (by omega)]
    rw [if_pos (by omega), hc]
    rfl
  · split
    · refine ⟨_, _, rfl, ?_⟩
      have h₁ := hbyte (v / 64 % 32 + 192) (by omega)
      have h₂ := hbyte (v % 64 + 128) (by omega)
      have hv : (v / 64 % 32 + 192 - 192) * 64 + (v % 64 + 128 - 128) = v := by omega
      refine (step_two rest (by omega) (by omega)).trans ?_
      rw [h₁, h₂, hv, hc]
      rfl
    · split
      · refine ⟨_, _, rfl, ?_⟩
        have h₁ := hbyte (v / 4096 % 16 + 224) (by omega)
        have h₂ := hbyte (v / 64 % 64 + 128) (by omega)
        have h₃ := hbyte (v % 64 + 128) (by omega)
        have hv : ((v / 4096 % 16 + 224 - 224) * 64 + (v / 64 % 64 + 128 - 128)) * 64 +
            (v % 64 + 128 - 128) = v := by
          omega
        refine (step_three rest (by omega) (by omega) (by omega) (by omega) (by omega)).trans ?_
        rw [h₁, h₂, h₃, hv, hc]
        rfl
      · refine ⟨_, _, rfl, ?_⟩
        have h₁ := hbyte (v / 262144 % 8 + 240) (by omega)
        have h₂ := hbyte (v / 4096 % 64 + 128) (by omega)
        have h₃ := hbyte (v / 64 % 64 + 128) (by omega)
        have h₄ := hbyte (v % 64 + 128) (by omega)
        have hv : (((v / 262144 % 8 + 240 - 240) * 64 + (v / 4096 % 64 + 128 - 128)) * 64 +
            (v / 64 % 64 + 128 - 128)) * 64 + (v % 64 + 128 - 128) = v := by
          omega
        refine (step_four rest (by omega) (by omega) (by omega) (by omega) (by omega)
          (by omega)).trans ?_
        rw [h₁, h₂, h₃, h₄, hv, hc]
        rfl

/-- A byte below 128 among those of a character is the character itself. -/
theorem toNat_of_mem_utf8EncodeChar {c : Char} {b : UInt8} (hb : b.toNat < 0x80)
    (h : b ∈ String.utf8EncodeChar c) : c.toNat = b.toNat := by
  have hbyte {n : Nat} (hn : 0x80 ≤ n ∧ n < 256) : b ≠ UInt8.ofNat n := by
    rintro rfl
    rw [UInt8.toNat_ofNat', Nat.mod_eq_of_lt (by omega)] at hb
    omega
  have hc : c.toNat = c.val.toNat := rfl
  rw [String.utf8EncodeChar] at h
  generalize c.val.toNat = v at h hc
  split at h
  · have hv : b = UInt8.ofNat v := List.mem_singleton.mp h
    rw [hc, hv, UInt8.toNat_ofNat', Nat.mod_eq_of_lt (by omega)]
  · split at h
    · rcases List.mem_pair.mp h with h | h
      · exact absurd h (hbyte (by omega))
      · exact absurd h (hbyte (by omega))
    · split at h
      · simp only [List.mem_cons, List.not_mem_nil, or_false] at h
        rcases h with h | h | h
        · exact absurd h (hbyte (by omega))
        · exact absurd h (hbyte (by omega))
        · exact absurd h (hbyte (by omega))
      · simp only [List.mem_cons, List.not_mem_nil, or_false] at h
        rcases h with h | h | h | h
        · exact absurd h (hbyte (by omega))
        · exact absurd h (hbyte (by omega))
        · exact absurd h (hbyte (by omega))
        · exact absurd h (hbyte (by omega))

/-! ### Whole texts -/

theorem encode_append (a b : String) : encode (a ++ b) = encode a ++ encode b := by
  rw [encode_eq_flatMap, encode_eq_flatMap, encode_eq_flatMap, String.toList_append,
    List.flatMap_append]

/-- A byte below 128 among those of a text is one of its characters. -/
theorem exists_mem_of_mem_encode {s : String} {b : UInt8} (hb : b.toNat < 0x80)
    (h : b ∈ encode s) : ∃ c ∈ s.toList, c.toNat = b.toNat := by
  rw [encode_eq_flatMap] at h
  obtain ⟨c, hc, hbytes⟩ := List.mem_flatMap.mp h
  exact ⟨c, hc, toNat_of_mem_utf8EncodeChar hb hbytes⟩

theorem decodeFrom_skip (index : Nat) (tail rest : List UInt8) :
    decodeFrom index tail.length (tail ++ rest) = decodeFrom (index + tail.length) 0 rest := by
  induction tail generalizing index with
  | nil => rfl
  | cons b tail ih =>
    rw [List.length_cons, List.cons_append, decodeFrom, ih]
    congr 1
    omega

theorem decodeFrom_encode (index : Nat) (cs : List Char) :
    decodeFrom index 0 (cs.flatMap String.utf8EncodeChar) = .ok cs := by
  induction cs generalizing index with
  | nil => rfl
  | cons c cs ih =>
    obtain ⟨a, tail, hbytes, hstep⟩ :=
      step_utf8EncodeChar c (cs.flatMap String.utf8EncodeChar)
    rw [List.flatMap_cons, hbytes, List.cons_append, decodeFrom, hstep]
    simp only [Nat.add_sub_cancel]
    rw [decodeFrom_skip, ih]
    rfl

theorem encode_of_decodeFrom (index : Nat) (bytes : List UInt8) (cs : List Char)
    (h : decodeFrom index 0 bytes = .ok cs) : bytes = cs.flatMap String.utf8EncodeChar := by
  cases bytes with
  | nil =>
    obtain rfl := Except.ok.inj h
    rfl
  | cons a rest =>
    rw [decodeFrom] at h
    cases hstep : step a rest with
    | invalid length => simp [hstep] at h
    | incomplete => simp [hstep] at h
    | char c width =>
      obtain ⟨tail, rest', rfl, rfl, hbytes⟩ := step_ok hstep
      rw [hstep] at h
      simp only [Nat.add_sub_cancel] at h
      rw [decodeFrom_skip] at h
      cases hrest : decodeFrom (index + 1 + tail.length) 0 rest' with
      | error fault => simp [hrest, Except.map] at h
      | ok cs' =>
        rw [hrest] at h
        obtain rfl := Except.ok.inj h
        rw [List.flatMap_cons, hbytes, encode_of_decodeFrom _ rest' cs' hrest]
        rfl
termination_by bytes.length

/-- Bytes are decoded to a text just if they are the bytes of that text. -/
theorem decode_eq_ok_iff {bytes : List UInt8} {s : String} :
    decode bytes = .ok s ↔ bytes = encode s := by
  rw [encode_eq_flatMap, decode]
  constructor
  · intro h
    cases hcs : decodeFrom 0 0 bytes with
    | error fault => simp [hcs, Except.map] at h
    | ok cs =>
      rw [hcs] at h
      obtain rfl := Except.ok.inj h
      rw [String.toList_ofList]
      exact encode_of_decodeFrom 0 bytes cs hcs
  · rintro rfl
    rw [decodeFrom_encode]
    show Except.ok (String.ofList s.toList) = Except.ok s
    rw [String.ofList_toList]

end TemplateCheck.Text.Utf8
