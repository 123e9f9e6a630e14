import HmacClient.Time.IsoFormat
import Mathlib.Tactic.Linarith

namespace HmacClient

structure Binary64 where
  mantissa : Nat
  shift : Nat
  deriving DecidableEq, Repr

def roundHalfEven (n d : Nat) : Nat :=
  if 2 * (n % d) < d then n / d
  else if d < 2 * (n % d) then n / d + 1
  else if n / d % 2 = 0 then n / d else n / d + 1

def Binary64.ofRatio (a b : Nat) : Binary64 :=
  let scaled := a * 2 ^ 1074
  let shift := Nat.log2 (scaled / b) - 52
  ⟨roundHalfEven scaled (b * 2 ^ shift), shift⟩

def Binary64.units (x : Binary64) : Nat := x.mantissa * 2 ^ x.shift

def Binary64.leInt (x : Binary64) (k : Int) : Bool := (x.units : Int) ≤ k * 2 ^ 1074

def absTotalSeconds (delta : Int) : Binary64 := Binary64.ofRatio delta.natAbs 1000000

section
variable {n d N : Nat}

theorem div_le_roundHalfEven : n / d ≤ roundHalfEven n d := by
  unfold roundHalfEven; split_ifs <;> omega

theorem roundHalfEven_le (hd : 0 < d) (h : n ≤ N * d) : roundHalfEven n d ≤ N := by
  have hq : n / d ≤ N := Nat.div_le_of_le_mul (by rwa [Nat.mul_comm])
  have hr := Nat.div_add_mod n d
  rcases Nat.lt_or_ge (n / d) N with hlt | hge
  · unfold roundHalfEven; split_ifs <;> omega
  · have hqN : n / d = N := le_antisymm hq hge
    have : n % d = 0 := by
      rw [hqN] at hr
      have : d * N = N * d := Nat.mul_comm _ _
      omega
    simp [roundHalfEven, this, hd, hqN]

theorem two_mul_le_roundHalfEven (n : Nat) (hd : 0 < d) : 2 * n ≤ (2 * roundHalfEven n d + 1) * d := by
  have hr := Nat.div_add_mod n d
  have hlt := Nat.mod_lt n hd
  unfold roundHalfEven
  split_ifs <;> linarith

end

section
variable {a b k : Nat}

theorem mul_two_pow_log2_le (h : a * 2 ^ 1074 / b ≠ 0) :
    b * 2 ^ Nat.log2 (a * 2 ^ 1074 / b) ≤ a * 2 ^ 1074 :=
  calc b * 2 ^ Nat.log2 (a * 2 ^ 1074 / b) ≤ b * (a * 2 ^ 1074 / b) :=
        Nat.mul_le_mul_left _ (Nat.log2_self_le h)
    _ ≤ a * 2 ^ 1074 := by rw [Nat.mul_comm]; exact Nat.div_mul_le_self _ _

theorem units_ofRatio_le (hb : 0 < b) (hk : a ≤ k * b) (hsmall : a < 2 ^ 53 * b) :
    (Binary64.ofRatio a b).units ≤ k * 2 ^ 1074 := by
  have hF : a * 2 ^ 1074 / b < 2 ^ 1127 := by
    rw [Nat.div_lt_iff_lt_mul hb, show 1127 = 53 + 1074 from rfl, Nat.pow_add, Nat.mul_right_comm]
    exact Nat.mul_lt_mul_of_pos_right hsmall (by positivity)
  have hE : Nat.log2 (a * 2 ^ 1074 / b) - 52 ≤ 1074 := by
    by_cases h0 : a * 2 ^ 1074 / b = 0
    · rw [h0, Nat.log2_zero]; omega
    · have := (Nat.log2_lt h0).mpr hF; omega
  simp only [Binary64.units, Binary64.ofRatio]
  generalize Nat.log2 (a * 2 ^ 1074 / b) - 52 = e at hE ⊢
  have hsplit : 2 ^ 1074 = 2 ^ (1074 - e) * 2 ^ e := by rw [← Nat.pow_add, Nat.sub_add_cancel hE]
  have hm : roundHalfEven (a * 2 ^ 1074) (b * 2 ^ e) ≤ k * 2 ^ (1074 - e) :=
    roundHalfEven_le (by positivity) (calc a * 2 ^ 1074 ≤ k * b * 2 ^ 1074 := Nat.mul_le_mul_right _ hk
      _ = k * 2 ^ (1074 - e) * (b * 2 ^ e) := by rw [hsplit]; ring)
  calc roundHalfEven (a * 2 ^ 1074) (b * 2 ^ e) * 2 ^ e ≤ k * 2 ^ (1074 - e) * 2 ^ e :=
        Nat.mul_le_mul_right _ hm
    _ = k * 2 ^ 1074 := by rw [Nat.mul_assoc, ← hsplit]

theorem leInt_ofRatio (hb : 0 < b) (hk : a ≤ k * b) (hsmall : a < 2 ^ 53 * b) :
    (Binary64.ofRatio a b).leInt k = true := by
  have := units_ofRatio_le hb hk hsmall
  simp only [Binary64.leInt, decide_eq_true_eq]
  exact_mod_cast this

theorem units_ofRatio_gt (hk : k < 2 ^ 34) (ha : k * 1000000 < a) :
    k * 2 ^ 1074 < (Binary64.ofRatio a 1000000).units := by
  have hS0 : a * 2 ^ 1074 / 1000000 ≠ 0 := by
    rw [Ne, Nat.div_eq_zero_iff (by decide), not_lt]
    calc 1000000 ≤ 2 ^ 20 := by decide
      _ ≤ 2 ^ 1074 := Nat.pow_le_pow_right (by decide) (by decide)
      _ ≤ a * 2 ^ 1074 := Nat.le_mul_of_pos_left _ (by omega)
  have hlow := mul_two_pow_log2_le hS0
  simp only [Binary64.units, Binary64.ofRatio]
  generalize Nat.log2 (a * 2 ^ 1074 / 1000000) = E at hlow ⊢
  by_cases hbig : 1108 ≤ E
  · have hsplitE : 2 ^ E = 2 ^ 52 * 2 ^ (E - 52) := by rw [← Nat.pow_add]; congr 1; omega
    have hm : 2 ^ 52 ≤ roundHalfEven (a * 2 ^ 1074) (1000000 * 2 ^ (E - 52)) :=
      le_trans ((Nat.le_div_iff_mul_le (by positivity)).mpr (by
        rw [hsplitE, Nat.mul_left_comm] at hlow; exact hlow)) div_le_roundHalfEven
    calc k * 2 ^ 1074 < 2 ^ 34 * 2 ^ 1074 := Nat.mul_lt_mul_of_pos_right hk (by positivity)
      _ ≤ 2 ^ E := by rw [← Nat.pow_add]; exact Nat.pow_le_pow_right (by decide) hbig
      _ ≤ _ := by rw [hsplitE]; exact Nat.mul_le_mul_right _ hm
  · generalize he : E - 52 = e
    have hE : e ≤ 1055 := by omega
    have hsplit : 2 ^ 1074 = 2 ^ (1074 - e) * 2 ^ e := by
      rw [← Nat.pow_add, Nat.sub_add_cancel (by omega)]
    have hP : 2 ^ 19 ≤ 2 ^ (1074 - e) := Nat.pow_le_pow_right (by decide) (by omega)
    have hpos : 0 < 2 ^ e := by positivity
    have hround := two_mul_le_roundHalfEven (a * 2 ^ 1074) (show 0 < 1000000 * 2 ^ e by positivity)
    generalize roundHalfEven (a * 2 ^ 1074) (1000000 * 2 ^ e) = m at hround ⊢
    rw [hsplit] at hround ⊢
    generalize 2 ^ (1074 - e) = P at hround hP ⊢
    generalize 2 ^ e = Q at hround hpos ⊢
    by_contra hle
    have hm : m ≤ k * P := Nat.le_of_mul_le_mul_right (by rw [Nat.mul_assoc]; exact not_lt.mp hle) hpos
    have h2 : 2 * (a * P) ≤ (2 * m + 1) * 1000000 :=
      Nat.le_of_mul_le_mul_right (by simpa only [Nat.mul_assoc] using hround) hpos
    have ha' : (k * 1000000 + 1) * P ≤ a * P := Nat.mul_le_mul_right P ha
    have hm' : m * 1000000 ≤ k * P * 1000000 := Nat.mul_le_mul_right 1000000 hm
    linarith

theorem leInt_ofRatio_million (hk : k < 2 ^ 34) (ha : k * 1000000 < a) :
    (Binary64.ofRatio a 1000000).leInt k = false := by
  have := units_ofRatio_gt hk ha
  simp only [Binary64.leInt, decide_eq_false_iff_not, not_le]
  exact_mod_cast this

theorem roundHalfEven_mul_right {n d c : Nat} (hc : 0 < c) :
    roundHalfEven (n * c) (d * c) = roundHalfEven n d := by
  simp only [roundHalfEven, Nat.mul_div_mul_right _ _ hc, Nat.mul_mod_mul_right]
  have h1 : 2 * (n % d * c) < d * c ↔ 2 * (n % d) < d := by
    rw [← Nat.mul_assoc]; exact Nat.mul_lt_mul_right hc
  have h2 : d * c < 2 * (n % d * c) ↔ d < 2 * (n % d) := by
    rw [← Nat.mul_assoc]; exact Nat.mul_lt_mul_right hc
  simp only [h1, h2]

theorem log2_eq_of_bounds {n k : Nat} (h1 : 2 ^ k ≤ n) (h2 : n < 2 ^ (k + 1)) : Nat.log2 n = k := by
  have hn : n ≠ 0 := Nat.pos_iff_ne_zero.mp (lt_of_lt_of_le (Nat.pos_pow_of_pos k (by decide)) h1)
  exact le_antisymm (Nat.lt_succ_iff.mp ((Nat.log2_lt hn).mpr h2)) ((Nat.le_log2 hn).mpr h1)

theorem ofRatio_of_binade {j : Nat} (hb : 0 < b) (hj : j ≤ 52) (h1 : 2 ^ j * b ≤ a)
    (h2 : a < 2 ^ (j + 1) * b) :
    Binary64.ofRatio a b = ⟨roundHalfEven (a * 2 ^ (52 - j)) b, 1022 + j⟩ := by
  have hsplit : 2 ^ 1074 = 2 ^ (52 - j) * 2 ^ (1022 + j) := by
    rw [← Nat.pow_add]; congr 1; omega
  have hlog : Nat.log2 (a * 2 ^ 1074 / b) = 1074 + j := by
    apply log2_eq_of_bounds
    · rw [Nat.le_div_iff_mul_le hb, Nat.pow_add, Nat.mul_assoc, Nat.mul_comm a]
      exact Nat.mul_le_mul_left _ h1
    · rw [Nat.div_lt_iff_lt_mul hb, show 1074 + j + 1 = (j + 1) + 1074 by omega, Nat.pow_add,
        Nat.mul_right_comm]
      exact Nat.mul_lt_mul_of_pos_right h2 (by positivity)
  simp only [Binary64.ofRatio, hlog, show 1074 + j - 52 = 1022 + j by omega, Binary64.mk.injEq,
    and_true]
  rw [hsplit, ← Nat.mul_assoc, roundHalfEven_mul_right (by positivity)]

theorem leInt_mk_of_le {m j : Nat} {k : Int} (hj : j ≤ 52) :
    (⟨m, 1022 + j⟩ : Binary64).leInt k = decide ((m : Int) ≤ k * 2 ^ (52 - j)) := by
  have hsplit : (2 : Int) ^ 1074 = 2 ^ (52 - j) * 2 ^ (1022 + j) := by
    rw [← pow_add]; congr 1; omega
  simp only [Binary64.leInt, Binary64.units, decide_eq_decide]
  rw [hsplit, ← mul_assoc]
  push_cast
  exact mul_le_mul_right (by positivity)

end

theorem leInt_absTotalSeconds {delta k : Int} (hk0 : 0 ≤ k) (hk : k < 2 ^ 34)
    (hd : delta.natAbs < 2 ^ 53 * 1000000) :
    (absTotalSeconds delta).leInt k = decide ((delta.natAbs : Int) ≤ k * 1000000) := by
  obtain ⟨k, rfl⟩ := Int.eq_ofNat_of_zero_le hk0
  by_cases h : delta.natAbs ≤ k * 1000000
  · rw [absTotalSeconds, leInt_ofRatio (by decide) h hd, eq_comm, decide_eq_true_iff]
    exact_mod_cast h
  · rw [absTotalSeconds, leInt_ofRatio_million (by exact_mod_cast hk) (by omega), eq_comm,
      decide_eq_false_iff_not]
    exact_mod_cast h

theorem roundHalfEven_zero (d : Nat) : roundHalfEven 0 d = 0 := by
  unfold roundHalfEven
  split_ifs <;> simp_all

theorem leInt_absTotalSeconds_zero {k : Int} (hk : 0 ≤ k) : (absTotalSeconds 0).leInt k = true := by
  have hm : (absTotalSeconds 0).mantissa = 0 := by
    rw [absTotalSeconds, Binary64.ofRatio]
    simp only [Int.natAbs_zero, Nat.zero_mul, roundHalfEven_zero]
  simp only [Binary64.leInt, Binary64.units, hm, Nat.zero_mul, Nat.cast_zero, decide_eq_true_eq]
  positivity

end HmacClient
