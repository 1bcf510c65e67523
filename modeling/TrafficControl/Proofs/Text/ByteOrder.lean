import TrafficControl.Text.Utf8

/-!
# The order of texts is the order of their bytes

Texts are compared character by character, and their UTF-8 bytes byte by byte. Both comparisons come
out the same: where two characters differ, the encodings differ, too, and at the first byte in which
they do so the smaller character has the smaller one (`Encoding.precedes`).
-/

namespace TrafficControl.Utf8

/-- Whatever follows, bytes that begin with the first list are smaller than those that begin with the
second. -/
def Precedes (xs ys : Bytes) : Prop := ∀ x y : Bytes, xs ++ x < ys ++ y

/-- The first bytes decide, and those behind them if the first ones are equal. -/
theorem precedes_cons {a b : Nat} {xs ys : Bytes} (ha : a < 256) (hb : b < 256)
    (h : a < b ∨ a = b ∧ Precedes xs ys) : Precedes (UInt8.ofNat a :: xs) (UInt8.ofNat b :: ys) := by
  intro x y
  rw [List.cons_append, List.cons_append, List.cons_lt_cons_iff]
  rcases h with hlt | ⟨rfl, hrest⟩
  · exact Or.inl ((UInt8.ofNat_lt_iff_lt ha hb).mpr hlt)
  · exact Or.inr ⟨rfl, hrest x y⟩

/-- The four forms in which characters are encoded, and the numbers that have them. -/
inductive Encoding : Nat → Bytes → Prop
  | one {v : Nat} (h : v ≤ 127) : Encoding v [UInt8.ofNat v]
  | two {v : Nat} (h : 127 < v ∧ v ≤ 2047) :
    Encoding v [UInt8.ofNat (v / 64 % 32 + 192), UInt8.ofNat (v % 64 + 128)]
  | three {v : Nat} (h : 2047 < v ∧ v ≤ 65535) :
    Encoding v [UInt8.ofNat (v / 4096 % 16 + 224), UInt8.ofNat (v / 64 % 64 + 128),
      UInt8.ofNat (v % 64 + 128)]
  | four {v : Nat} (h : 65535 < v ∧ v < 2097152) :
    Encoding v [UInt8.ofNat (v / 262144 % 8 + 240), UInt8.ofNat (v / 4096 % 64 + 128),
      UInt8.ofNat (v / 64 % 64 + 128), UInt8.ofNat (v % 64 + 128)]

theorem encoding (c : Char) : Encoding c.val.toNat (String.utf8EncodeChar c) := by
  have hbound : c.val.toNat < 1114112 := by
    rcases c.valid with h | h <;> omega
  unfold String.utf8EncodeChar
  dsimp only
  by_cases h₁ : c.val.toNat ≤ 127
  · rw [if_pos h₁]
    exact .one h₁
  · rw [if_neg h₁]
    by_cases h₂ : c.val.toNat ≤ 2047
    · rw [if_pos h₂]
      exact .two ⟨by omega, h₂⟩
    · rw [if_neg h₂]
      by_cases h₃ : c.val.toNat ≤ 65535
      · rw [if_pos h₃]
        exact .three ⟨by omega, h₃⟩
      · rw [if_neg h₃]
        exact .four ⟨by omega, by omega⟩

/-- A number of four digits to the base 64, the first of them below 8. -/
theorem exists_digits {n : Nat} (h : n < 2097152) : ∃ a b c d, a < 8 ∧ b < 64 ∧ c < 64 ∧ d < 64 ∧
    n / 262144 % 8 = a ∧ n / 4096 % 64 = b ∧ n / 64 % 64 = c ∧ n % 64 = d ∧
      n = 262144 * a + 4096 * b + 64 * c + d := by
  refine ⟨_, _, _, _, ?_, ?_, ?_, ?_, rfl, rfl, rfl, rfl, ?_⟩ <;> omega

/-- Numbers of four digits are compared digit by digit. -/
theorem digits_lt_of_lt {v w : Nat} (hlt : v < w) (hw : w < 2097152) :
    v / 262144 % 8 + 240 < w / 262144 % 8 + 240 ∨
      v / 262144 % 8 + 240 = w / 262144 % 8 + 240 ∧ (v / 4096 % 64 + 128 < w / 4096 % 64 + 128 ∨
        v / 4096 % 64 + 128 = w / 4096 % 64 + 128 ∧ (v / 64 % 64 + 128 < w / 64 % 64 + 128 ∨
          v / 64 % 64 + 128 = w / 64 % 64 + 128 ∧ v % 64 + 128 < w % 64 + 128)) := by
  obtain ⟨a, b, c, d, ha, hb, hc, hd, hva, hvb, hvc, hvd, hv⟩ := exists_digits (Nat.lt_trans hlt hw)
  obtain ⟨a', b', c', d', ha', hb', hc', hd', hwa, hwb, hwc, hwd, hw⟩ := exists_digits hw
  rw [hva, hvb, hvc, hvd, hwa, hwb, hwc, hwd]
  -- the digits alone decide from here on
  clear hva hvb hvc hvd hwa hwb hwc hwd
  omega

/-- The encoding of a smaller number comes first. -/
theorem Encoding.precedes {v w : Nat} {xs ys : Bytes} (hx : Encoding v xs) (hy : Encoding w ys)
    (hlt : v < w) : Precedes xs ys := by
  cases hx <;> cases hy
  -- encodings of one form are compared byte by byte
  case two.two =>
    have hbytes : v / 64 % 32 + 192 < w / 64 % 32 + 192 ∨
        v / 64 % 32 + 192 = w / 64 % 32 + 192 ∧ v % 64 + 128 < w % 64 + 128 := by omega
    refine precedes_cons (by omega) (by omega) (hbytes.imp_right fun ⟨heq, hlast⟩ => ⟨heq, ?_⟩)
    exact precedes_cons (by omega) (by omega) (.inl hlast)
  case three.three =>
    have hbytes : v / 4096 % 16 + 224 < w / 4096 % 16 + 224 ∨
        v / 4096 % 16 + 224 = w / 4096 % 16 + 224 ∧ (v / 64 % 64 + 128 < w / 64 % 64 + 128 ∨
          v / 64 % 64 + 128 = w / 64 % 64 + 128 ∧ v % 64 + 128 < w % 64 + 128) := by omega
    refine precedes_cons (by omega) (by omega) (hbytes.imp_right fun ⟨heq, hrest⟩ => ⟨heq, ?_⟩)
    refine precedes_cons (by omega) (by omega) (hrest.imp_right fun ⟨heq, hlast⟩ => ⟨heq, ?_⟩)
    exact precedes_cons (by omega) (by omega) (.inl hlast)
  case four.four hv hw =>
    have hbytes := digits_lt_of_lt hlt hw.2
    refine precedes_cons (by omega) (by omega) (hbytes.imp_right fun ⟨heq, hrest⟩ => ⟨heq, ?_⟩)
    refine precedes_cons (by omega) (by omega) (hrest.imp_right fun ⟨heq, hrest⟩ => ⟨heq, ?_⟩)
    refine precedes_cons (by omega) (by omega) (hrest.imp_right fun ⟨heq, hlast⟩ => ⟨heq, ?_⟩)
    exact precedes_cons (by omega) (by omega) (.inl hlast)
  -- a longer form has a greater first byte
  all_goals exact precedes_cons (by omega) (by omega) (.inl (by omega))

theorem Encoding.ne_nil {v : Nat} {xs : Bytes} (h : Encoding v xs) : xs ≠ [] := by
  cases h <;> exact List.cons_ne_nil _ _

theorem bytes_eq_flatMap (s : String) : bytes s = s.toList.flatMap String.utf8EncodeChar := by
  have hencode : s.toByteArray = s.toList.utf8Encode := by
    rw [← String.toByteArray_ofList, String.ofList_toList]
  rw [bytes, hencode, List.utf8Encode, List.data_toByteArray]

/-- The bytes of a smaller text are smaller. -/
theorem bytes_lt_of_lt {s t : String} (h : s < t) : bytes s < bytes t := by
  rw [bytes_eq_flatMap, bytes_eq_flatMap]
  have hlex : List.Lex (· < ·) s.toList t.toList := List.lex_lt.mpr h
  generalize s.toList = cs at hlex
  generalize t.toList = ds at hlex
  induction hlex with
  | @nil d ds =>
    obtain ⟨b, bs, hb⟩ := List.exists_cons_of_ne_nil (encoding d).ne_nil
    rw [List.flatMap_nil, List.flatMap_cons, hb, List.cons_append]
    exact List.nil_lt_cons b _
  | @rel c cs d ds hlt =>
    rw [List.flatMap_cons, List.flatMap_cons]
    exact (encoding c).precedes (encoding d) hlt _ _
  | cons _ ih =>
    rw [List.flatMap_cons, List.flatMap_cons]
    exact List.append_left_lt ih

end TrafficControl.Utf8
