import HmacClient.Text.Format
import HmacClient.Time.IsoFormat

namespace HmacClient

theorem uuid4_testBit (random i : Nat) :
    (uuid4 random).testBit i =
      if i = 63 ∨ i = 78 then true
      else if i = 62 ∨ i = 76 ∨ i = 77 ∨ i = 79 then false
      else decide (i < 128) && random.testBit i := by
  have variant : (0xc000 <<< 48 : Nat) = 2 ^ 62 ||| 2 ^ 63 := by decide
  have variantSet : (0x8000 <<< 48 : Nat) = 2 ^ 63 := by decide
  have version : (0xf000 <<< 64 : Nat) = 2 ^ 76 ||| 2 ^ 77 ||| 2 ^ 78 ||| 2 ^ 79 := by decide
  have versionSet : (4 <<< 76 : Nat) = 2 ^ 78 := by decide
  simp only [uuid4, variant, variantSet, version, versionSet, Nat.testBit_or, Nat.testBit_xor,
    Nat.testBit_and, Nat.testBit_two_pow, Nat.testBit_mod_two_pow]
  split_ifs with hset hclear
  · rcases hset with rfl | rfl <;> simp
  · rcases hclear with rfl | rfl | rfl | rfl <;> simp
  · push_neg at hset hclear
    obtain ⟨h63, h78⟩ := hset
    obtain ⟨h62, h76, h77, h79⟩ := hclear
    simp [Ne.symm h63, Ne.symm h78, Ne.symm h62, Ne.symm h76, Ne.symm h77, Ne.symm h79]

theorem uuid4_lt (random : Nat) : uuid4 random < 2 ^ 128 :=
  Nat.lt_pow_two_of_testBit _ fun i hi => by
    rw [uuid4_testBit, if_neg (by omega), if_neg (by omega)]
    simp [show ¬i < 128 by omega]

theorem uuid4_eq_iff (random random' : Nat) :
    uuid4 random = uuid4 random' ↔
      ∀ i < 128, i ∉ [62, 63, 76, 77, 78, 79] → random.testBit i = random'.testBit i := by
  constructor
  · intro h i hi hfree
    simp only [List.mem_cons, List.mem_singleton, List.not_mem_nil, or_false, not_or] at hfree
    have hbit := congrArg (Nat.testBit · i) h
    simp only [uuid4_testBit, if_neg (show ¬(i = 63 ∨ i = 78) by omega),
      if_neg (show ¬(i = 62 ∨ i = 76 ∨ i = 77 ∨ i = 79) by omega), decide_eq_true hi,
      Bool.true_and] at hbit
    exact hbit
  · intro h
    refine Nat.eq_of_testBit_eq fun i => ?_
    rw [uuid4_testBit, uuid4_testBit]
    split_ifs with hset hclear
    · rfl
    · rfl
    · by_cases hi : i < 128
      · rw [h i hi (by simp only [List.mem_cons, List.not_mem_nil, or_false, not_or]; omega)]
      · simp [hi]

theorem testBit_bitField (u k w j : Nat) :
    (u / 2 ^ k % 2 ^ w).testBit j = (decide (j < w) && u.testBit (k + j)) := by
  rw [Nat.testBit_mod_two_pow, ← Nat.shiftRight_eq_div_pow, Nat.testBit_shiftRight]

theorem bitField_eq {u k w v : Nat} (hv : v < 2 ^ w) (h : ∀ j < w, u.testBit (k + j) = v.testBit j) :
    u / 2 ^ k % 2 ^ w = v := by
  refine Nat.eq_of_testBit_eq fun j => ?_
  rw [testBit_bitField]
  by_cases hj : j < w
  · rw [decide_eq_true hj, Bool.true_and, h j hj]
  · rw [decide_eq_false hj, Bool.false_and]
    exact (Nat.testBit_lt_two_pow (lt_of_lt_of_le hv (Nat.pow_le_pow_right (by decide)
      (not_lt.mp hj)))).symm

theorem uuid4_versionField (random : Nat) : uuid4 random / 2 ^ 76 % 2 ^ 4 = 4 :=
  bitField_eq (by decide) fun j hj => by
    rcases (by omega : j = 0 ∨ j = 1 ∨ j = 2 ∨ j = 3) with rfl | rfl | rfl | rfl <;>
      simp +decide [uuid4_testBit]

theorem uuid4_variantField (random : Nat) : uuid4 random / 2 ^ 62 % 2 ^ 2 = 2 :=
  bitField_eq (by decide) fun j hj => by
    rcases (by omega : j = 0 ∨ j = 1) with rfl | rfl <;> simp +decide [uuid4_testBit]

theorem uuid4_versionDigit (random : Nat) : uuid4 random / 16 ^ 19 % 16 = 4 := by
  rw [show (16 : Nat) ^ 19 = 2 ^ 76 by norm_num, show (16 : Nat) = 2 ^ 4 by norm_num]
  exact uuid4_versionField random

theorem uuid4_variantDigit (random : Nat) :
    8 ≤ uuid4 random / 16 ^ 15 % 16 ∧ uuid4 random / 16 ^ 15 % 16 < 12 := by
  have hsplit : uuid4 random / 16 ^ 15 % 16 =
      uuid4 random / 16 ^ 15 % 4 + 4 * (uuid4 random / 2 ^ 62 % 2 ^ 2) := by
    rw [show (16 : Nat) = 4 * 4 by norm_num, Nat.mod_mul, Nat.div_div_eq_div_mul]
    norm_num
  have hlow := Nat.mod_lt (uuid4 random / 16 ^ 15) (show 0 < 4 by decide)
  rw [hsplit, uuid4_variantField]
  omega

theorem padDigits_drop (base n : Nat) : ∀ w j, (padDigits base w n).drop j = padDigits base (w - j) n
  | _, 0 => rfl
  | 0, _ + 1 => by rw [Nat.zero_sub]; rfl
  | w + 1, j + 1 => by
    rw [padDigits, List.drop_succ_cons, padDigits_drop base n w j, Nat.add_sub_add_right]

theorem formatPadded_drop (base w n j : Nat) :
    (formatPadded base w n).drop j = formatPadded base (w - j) n := by
  rw [formatPadded, ← List.map_drop, padDigits_drop, formatPadded]

theorem formatPadded_succ (base w n : Nat) :
    formatPadded base (w + 1) n = digitChar (n / base ^ w % base) :: formatPadded base w n := rfl

theorem formatPadded_hex_inj {n m : Nat} :
    ∀ {w}, formatPadded 16 w n = formatPadded 16 w m → n % 16 ^ w = m % 16 ^ w
  | 0, _ => by simp [Nat.mod_one]
  | w + 1, h => by
    rw [formatPadded_succ, formatPadded_succ, List.cons.injEq] at h
    have hdigit := digitChar_inj (Nat.mod_lt _ (by decide)) (Nat.mod_lt _ (by decide)) h.1
    rw [Nat.pow_succ, Nat.mod_mul, Nat.mod_mul, formatPadded_hex_inj h.2, hdigit]

theorem drop_eq_take_append_drop {α : Type} (l : List α) (n m : Nat) :
    l.drop n = (l.drop n).take m ++ l.drop (n + m) := by
  rw [← List.drop_drop, List.take_append_drop]

theorem uuidStr_filter (u : Nat) :
    (uuidStr u).filter (· != minus) = formatPadded 16 32 u := by
  have hhex : ∀ s : PyStr, (∀ c ∈ s, c ∈ formatPadded 16 32 u) → s.filter (· != minus) = s :=
    fun s hs => List.filter_eq_self.mpr fun c hc => by
      obtain ⟨d, hd, rfl⟩ := mem_formatPadded (by decide) (hs c hc)
      have := digitChar_val hd
      simp only [bne_iff_ne, ne_eq]
      intro heq
      have := congrArg Fin.val heq
      simp only [minus, CodePoint.val_ofNat] at this
      split_ifs at * <;> omega
  simp only [uuidStr, List.filter_append]
  rw [hhex _ fun c hc => List.mem_of_mem_take hc,
    hhex _ fun c hc => List.mem_of_mem_drop (List.mem_of_mem_take hc),
    hhex _ fun c hc => List.mem_of_mem_drop (List.mem_of_mem_take hc),
    hhex _ fun c hc => List.mem_of_mem_drop (List.mem_of_mem_take hc),
    hhex _ fun c hc => List.mem_of_mem_drop hc]
  have hdash : (pyStr "-").filter (· != minus) = [] := by decide
  simp only [hdash, List.append_nil, List.append_assoc]
  rw [← drop_eq_take_append_drop _ 16 4, ← drop_eq_take_append_drop _ 12 4,
    ← drop_eq_take_append_drop _ 8 4, List.take_append_drop]

theorem uuidStr_inj {u u' : Nat} (hu : u < 2 ^ 128) (hu' : u' < 2 ^ 128)
    (h : uuidStr u = uuidStr u') : u = u' := by
  have hf : u % 16 ^ 32 = u' % 16 ^ 32 :=
    formatPadded_hex_inj (by rw [← uuidStr_filter, ← uuidStr_filter, h])
  rwa [Nat.mod_eq_of_lt (show u < 16 ^ 32 by norm_num at hu ⊢; exact hu),
    Nat.mod_eq_of_lt (show u' < 16 ^ 32 by norm_num at hu' ⊢; exact hu')] at hf

theorem uuidStr_layout (u : Nat) :
    uuidStr u = (formatPadded 16 32 u).take 8 ++ pyStr "-" ++ ((formatPadded 16 32 u).drop 8).take 4 ++
      pyStr "-" ++ (digitChar (u / 16 ^ 19 % 16) :: (formatPadded 16 19 u).take 3) ++ pyStr "-" ++
      (digitChar (u / 16 ^ 15 % 16) :: (formatPadded 16 15 u).take 3) ++ pyStr "-" ++
      (formatPadded 16 32 u).drop 20 := by
  simp only [uuidStr, formatPadded_drop]
  rfl

theorem nonce_format (random : Nat) :
    ∃ g1 g2 g3 g4 g5 : PyStr, ∃ v, 8 ≤ v ∧ v < 12 ∧
      uuidStr (uuid4 random) = g1 ++ pyStr "-" ++ g2 ++ pyStr "-" ++ (digitChar 4 :: g3) ++ pyStr "-" ++
        (digitChar v :: g4) ++ pyStr "-" ++ g5 ∧
      g1.length = 8 ∧ g2.length = 4 ∧ g3.length = 3 ∧ g4.length = 3 ∧ g5.length = 12 ∧
      ∀ c ∈ g1 ++ g2 ++ g3 ++ g4 ++ g5, ∃ d < 16, c = digitChar d := by
  obtain ⟨hv8, hv12⟩ := uuid4_variantDigit random
  refine ⟨_, _, _, _, _, _, hv8, hv12, by rw [uuidStr_layout, uuid4_versionDigit], ?_⟩
  simp only [List.length_take, List.length_drop, length_formatPadded, true_and]
  refine ⟨rfl, rfl, rfl, rfl, fun c hc => ?_⟩
  simp only [List.mem_append] at hc
  rcases hc with (((hc | hc) | hc) | hc) | hc
  · exact mem_formatPadded (by decide) (List.mem_of_mem_take hc)
  · exact mem_formatPadded (by decide) (List.mem_of_mem_drop (List.mem_of_mem_take hc))
  · exact mem_formatPadded (by decide) (List.mem_of_mem_take hc)
  · exact mem_formatPadded (by decide) (List.mem_of_mem_take hc)
  · exact mem_formatPadded (by decide) (List.mem_of_mem_drop hc)

theorem nonce_collision_iff (random random' : Nat) :
    uuidStr (uuid4 random) = uuidStr (uuid4 random') ↔
      ∀ i < 128, i ∉ [62, 63, 76, 77, 78, 79] → random.testBit i = random'.testBit i := by
  rw [← uuid4_eq_iff]
  exact ⟨uuidStr_inj (uuid4_lt random) (uuid4_lt random'), congrArg uuidStr⟩

end HmacClient
