import Mathlib.Algebra.Order.Floor.Semiring
import Mathlib.Data.Rat.Floor
import Mathlib.Tactic.FieldSimp
import Mathlib.Tactic.Linarith
import Mathlib.Tactic.Positivity
import Mathlib.Tactic.Ring
import SqlRecord.Number.Double

/-! # Numbers of two formats

A number that a format has is the nearest one to itself, and every finite number of 32 bits is one of 64
bits too. So widening a number and narrowing it again gives the number back.
-/

namespace SqlRecord.Number

/-! ## Ratios -/

def Ratio.value (r : Ratio) : ℚ :=
  r.num / r.den

theorem Ratio.value_ofPower (m : Nat) (e : Int) : (Ratio.ofPower m 2 e).value = m * (2 : ℚ) ^ e := by
  rcases Int.le_total 0 e with h | h
  · obtain ⟨n, rfl⟩ := Int.eq_ofNat_of_zero_le h
    simp [Ratio.value, Ratio.ofPower]
  · obtain ⟨n, hn⟩ := Int.eq_ofNat_of_zero_le (Int.neg_nonneg.mpr h)
    obtain rfl : e = -n := by omega
    simp [Ratio.value, Ratio.ofPower, div_eq_mul_inv]

theorem Ratio.value_divPower (r : Ratio) (e : Int) : (r.divPower 2 e).value = r.value / (2 : ℚ) ^ e := by
  rcases Int.le_total 0 e with h | h
  · obtain ⟨n, rfl⟩ := Int.eq_ofNat_of_zero_le h
    simp [Ratio.value, Ratio.divPower, div_div]
  · obtain ⟨n, hn⟩ := Int.eq_ofNat_of_zero_le (Int.neg_nonneg.mpr h)
    obtain rfl : e = -n := by omega
    simp [Ratio.value, Ratio.divPower, div_eq_mul_inv, mul_right_comm]

theorem Ratio.den_divPower {r : Ratio} (h : r.den ≠ 0) (e : Int) : (r.divPower 2 e).den ≠ 0 :=
  Nat.mul_ne_zero h (Nat.pow_pos (by decide)).ne'

theorem Ratio.floor_eq_zero {r : Ratio} (h : r.den ≠ 0) : r.floor = 0 ↔ r.value < 1 := by
  have hden : (0 : ℚ) < r.den := by positivity
  rw [Ratio.floor, Nat.div_eq_zero_iff, Ratio.value, div_lt_one hden, Nat.cast_lt]
  simp [h]

theorem Ratio.roundEven_of_value {r : Ratio} (h : r.den ≠ 0) {m : Nat} (hm : r.value = m) :
    r.roundEven = m := by
  have hden : (r.den : ℚ) ≠ 0 := by exact_mod_cast h
  have hnum : r.num = m * r.den := by
    rw [Ratio.value, div_eq_iff hden] at hm
    exact_mod_cast hm
  have hpos : 0 < r.den := Nat.pos_of_ne_zero h
  rw [Ratio.roundEven, hnum, Nat.mul_mod_left, Nat.mul_div_cancel _ hpos, if_pos (by omega)]

theorem two_zpow_pos (e : Int) : (0 : ℚ) < 2 ^ e :=
  zpow_pos (by norm_num) e

theorem Ratio.log2_spec {r : Ratio} (hnum : r.num ≠ 0) (hden : r.den ≠ 0) :
    (2 : ℚ) ^ r.log2 ≤ r.value ∧ r.value < (2 : ℚ) ^ (r.log2 + 1) := by
  have two : (2 : ℚ) ≠ 0 := by norm_num
  have hdenpos : (0 : ℚ) < r.den := by positivity
  have n₁ : (2 : ℚ) ^ (r.num.log2 : Int) ≤ r.num := by
    exact_mod_cast Nat.log2_self_le hnum
  have n₂ : (r.num : ℚ) < 2 ^ ((r.num.log2 : Int) + 1) := by
    exact_mod_cast Nat.lt_log2_self (n := r.num)
  have d₁ : (2 : ℚ) ^ (r.den.log2 : Int) ≤ r.den := by
    exact_mod_cast Nat.log2_self_le hden
  have d₂ : (r.den : ℚ) < 2 ^ ((r.den.log2 : Int) + 1) := by
    exact_mod_cast Nat.lt_log2_self (n := r.den)
  have hlow : (2 : ℚ) ^ ((r.num.log2 : Int) - r.den.log2 - 1) ≤ r.value := by
    rw [Ratio.value, le_div_iff₀ hdenpos]
    calc (2 : ℚ) ^ ((r.num.log2 : Int) - r.den.log2 - 1) * r.den
        ≤ 2 ^ ((r.num.log2 : Int) - r.den.log2 - 1) * 2 ^ ((r.den.log2 : Int) + 1) :=
          mul_le_mul_of_nonneg_left d₂.le (two_zpow_pos _).le
      _ = 2 ^ (r.num.log2 : Int) := by rw [← zpow_add₀ two]; congr 1; ring
      _ ≤ r.num := n₁
  have hhigh : r.value < (2 : ℚ) ^ ((r.num.log2 : Int) - r.den.log2 + 1) := by
    rw [Ratio.value, div_lt_iff₀ hdenpos]
    calc (r.num : ℚ) < 2 ^ ((r.num.log2 : Int) + 1) := n₂
      _ = 2 ^ ((r.num.log2 : Int) - r.den.log2 + 1) * 2 ^ (r.den.log2 : Int) := by
          rw [← zpow_add₀ two]; congr 1; ring
      _ ≤ 2 ^ ((r.num.log2 : Int) - r.den.log2 + 1) * r.den :=
          mul_le_mul_of_nonneg_left d₁ (two_zpow_pos _).le
  unfold Ratio.log2
  dsimp only
  split
  · rename_i h
    rw [Ratio.floor_eq_zero (Ratio.den_divPower hden _), Ratio.value_divPower,
      div_lt_one (two_zpow_pos _)] at h
    exact ⟨hlow, by simpa using h⟩
  · rename_i h
    rw [Ratio.floor_eq_zero (Ratio.den_divPower hden _), Ratio.value_divPower,
      div_lt_one (two_zpow_pos _), not_lt] at h
    exact ⟨h, hhigh⟩

theorem Ratio.log2_eq {r : Ratio} (hnum : r.num ≠ 0) (hden : r.den ≠ 0) {k : Int}
    (h₁ : (2 : ℚ) ^ k ≤ r.value) (h₂ : r.value < (2 : ℚ) ^ (k + 1)) : r.log2 = k := by
  obtain ⟨l₁, l₂⟩ := Ratio.log2_spec hnum hden
  have two : (1 : ℚ) < 2 := by norm_num
  have a := (zpow_lt_zpow_iff_right₀ two).mp (h₁.trans_lt l₂)
  have b := (zpow_lt_zpow_iff_right₀ two).mp (l₁.trans_lt h₂)
  omega

/-! ## Exact numbers -/

namespace BinaryFormat

variable (f : BinaryFormat)

theorem hidden_pos : 0 < f.hidden :=
  Nat.pow_pos (by decide)

def value (code : Nat) : ℚ :=
  f.significand code * (2 : ℚ) ^ f.exponent code

theorem value_ratio (code : Nat) : (f.ratio code).value = f.value code :=
  Ratio.value_ofPower _ _

theorem den_ratio (code : Nat) : (f.ratio code).den ≠ 0 :=
  (Nat.pow_pos (by decide)).ne'

theorem code_eq (code : Nat) :
    (f.exponent code - f.minExponent).toNat * f.hidden + f.significand code = code := by
  have hpos := f.hidden_pos
  have hdiv := Nat.div_add_mod code f.hidden
  unfold exponent significand
  split
  · rename_i h
    have hzero : code / f.hidden = 0 := Nat.div_eq_of_lt h
    simp [hzero]
  · rename_i h
    have hq : 1 ≤ code / f.hidden := (Nat.one_le_div_iff hpos).mpr (by omega)
    have he : (f.minExponent + ((code / f.hidden - 1 : Nat) : Int) - f.minExponent).toNat =
        code / f.hidden - 1 := by omega
    rw [he, Nat.sub_mul, Nat.one_mul, Nat.mul_comm (code / f.hidden)]
    have hle : f.hidden ≤ f.hidden * (code / f.hidden) := Nat.le_mul_of_pos_right _ hq
    omega

theorem max_log2 {code : Nat} {r : Ratio} (hden : r.den ≠ 0) (hnum : r.num ≠ 0)
    (h : r.value = f.value code) :
    max f.minExponent (r.log2 - f.fractionBits) = f.exponent code := by
  have two : (1 : ℚ) < 2 := by norm_num
  have hhidden : (f.hidden : ℚ) = 2 ^ (f.fractionBits : Int) := by simp [hidden]
  by_cases hc : code < f.hidden
  · -- The significand is not full, so the exponent is the least one.
    have hexp : f.exponent code = f.minExponent := by
      simp [exponent, Nat.div_eq_of_lt hc]
    have hlt : r.value < (2 : ℚ) ^ ((f.fractionBits : Int) + f.minExponent) := by
      rw [h, value, significand, if_pos hc, hexp, zpow_add₀ (by norm_num), ← hhidden]
      exact mul_lt_mul_of_pos_right (by exact_mod_cast hc) (two_zpow_pos _)
    have hlog := (zpow_lt_zpow_iff_right₀ two).mp ((Ratio.log2_spec hnum hden).1.trans_lt hlt)
    rw [hexp]
    omega
  · have hsig : f.significand code = f.hidden + code % f.hidden := by rw [significand, if_neg hc]
    have hmod := Nat.mod_lt code f.hidden_pos
    have hlow : (2 : ℚ) ^ ((f.fractionBits : Int) + f.exponent code) ≤ r.value := by
      rw [h, value, zpow_add₀ (by norm_num), ← hhidden]
      refine mul_le_mul_of_nonneg_right ?_ (two_zpow_pos _).le
      exact_mod_cast (by omega : f.hidden ≤ f.significand code)
    have hhigh : r.value < (2 : ℚ) ^ ((f.fractionBits : Int) + f.exponent code + 1) := by
      have hsplit : (2 : ℚ) ^ ((f.fractionBits : Int) + f.exponent code + 1) =
          2 * f.hidden * 2 ^ f.exponent code := by
        rw [zpow_add₀ (by norm_num), zpow_add₀ (by norm_num), ← hhidden]
        ring
      rw [h, value, hsplit]
      refine mul_lt_mul_of_pos_right ?_ (two_zpow_pos _)
      exact_mod_cast (by omega : f.significand code < 2 * f.hidden)
    rw [Ratio.log2_eq hnum hden hlow hhigh]
    have hexp : f.minExponent ≤ f.exponent code := by
      unfold exponent
      omega
    omega

theorem nearest_of_value {code : Nat} {r : Ratio} (hden : r.den ≠ 0) (h : r.value = f.value code)
    (hfinite : code < f.infinity) : f.nearest r = code := by
  unfold nearest
  split
  · rename_i hnum
    have hzero : f.value code = 0 := by rw [← h, Ratio.value, hnum]; simp
    have hsig : f.significand code = 0 := by
      have := (mul_eq_zero.mp hzero).resolve_right (two_zpow_pos _).ne'
      exact_mod_cast this
    have hpos := f.hidden_pos
    unfold significand at hsig
    split at hsig
    · exact hsig.symm
    · omega
  · rename_i hnum
    dsimp only
    have hround : (r.divPower 2 (f.exponent code)).roundEven = f.significand code := by
      refine Ratio.roundEven_of_value (Ratio.den_divPower hden _) ?_
      rw [Ratio.value_divPower, h, value, mul_div_cancel_right₀ _ (two_zpow_pos _).ne']
    rw [f.max_log2 hden hnum h, hround, f.code_eq]
    exact Nat.min_eq_left hfinite.le

end BinaryFormat

/-! ## Both formats -/

open BinaryFormat

theorem exists_double {m : Nat} {e : Int} (hm : m < 2 ^ 24) (he : -149 ≤ e) (he' : e ≤ 104) :
    ∃ code < double.infinity, double.value code = m * (2 : ℚ) ^ e := by
  by_cases hzero : m = 0
  · exact ⟨0, by decide, by simp [hzero, value, significand, hidden_pos]⟩
  have hk : m.log2 < 24 := (Nat.log2_lt hzero).mpr hm
  have hlow : 2 ^ 52 ≤ m * 2 ^ (52 - m.log2) := by
    calc 2 ^ 52 = 2 ^ m.log2 * 2 ^ (52 - m.log2) := by rw [← Nat.pow_add]; congr 1; omega
      _ ≤ m * 2 ^ (52 - m.log2) := Nat.mul_le_mul_right _ (Nat.log2_self_le hzero)
  have hhigh : m * 2 ^ (52 - m.log2) < 2 ^ 53 := by
    calc m * 2 ^ (52 - m.log2) < 2 ^ (m.log2 + 1) * 2 ^ (52 - m.log2) :=
          Nat.mul_lt_mul_of_pos_right Nat.lt_log2_self (Nat.pow_pos (by decide))
      _ = 2 ^ 53 := by rw [← Nat.pow_add]; congr 1; omega
  obtain ⟨q, hq⟩ : ∃ q : Nat, (q : Int) = e - (52 - m.log2 : Nat) + 1074 :=
    Int.eq_ofNat_of_zero_le (by omega) |>.imp fun _ h => h.symm
  -- The field of the exponent counts from one, as zero stands for numbers without full precision.
  have hhidden : double.hidden = 2 ^ 52 := rfl
  have hmod : m * 2 ^ (52 - m.log2) - 2 ^ 52 < 2 ^ 52 := by omega
  have hdiv : ((q + 1) * 2 ^ 52 + (m * 2 ^ (52 - m.log2) - 2 ^ 52)) / 2 ^ 52 = q + 1 := by
    rw [Nat.mul_comm, Nat.mul_add_div (by decide), Nat.div_eq_of_lt hmod, Nat.add_zero]
  refine ⟨(q + 1) * 2 ^ 52 + (m * 2 ^ (52 - m.log2) - 2 ^ 52), ?_, ?_⟩
  · have hinf : double.infinity = 2047 * 2 ^ 52 := rfl
    rw [hinf]
    omega
  · have hexp : double.exponent ((q + 1) * 2 ^ 52 + (m * 2 ^ (52 - m.log2) - 2 ^ 52)) =
        e - (52 - m.log2 : Nat) := by
      have hmin : double.minExponent = -1074 := rfl
      rw [exponent, hhidden, hdiv, hmin]
      omega
    have hsig : double.significand ((q + 1) * 2 ^ 52 + (m * 2 ^ (52 - m.log2) - 2 ^ 52)) =
        m * 2 ^ (52 - m.log2) := by
      rw [significand, hhidden, if_neg (by omega), Nat.mul_comm (q + 1), Nat.mul_add_mod,
        Nat.mod_eq_of_lt hmod]
      omega
    rw [value, hexp, hsig, zpow_sub₀ (by norm_num)]
    push_cast
    rw [zpow_natCast]
    field_simp

theorem widen_narrow {code : Nat} (h : code < single.infinity) :
    single.recode .double code < double.infinity ∧
      double.recode .single (single.recode .double code) = code := by
  have hinf : single.infinity = 255 * 2 ^ 23 := rfl
  have hhidden : single.hidden = 2 ^ 23 := rfl
  have hm : single.significand code < 2 ^ 24 := by
    have hmod := Nat.mod_lt code (by decide : 0 < 2 ^ 23)
    rw [significand, hhidden]
    split <;> omega
  have he : -149 ≤ single.exponent code ∧ single.exponent code ≤ 104 := by
    have hmin : single.minExponent = -149 := rfl
    have hdiv : code / 2 ^ 23 < 255 := (Nat.div_lt_iff_lt_mul (by decide)).mpr (by omega)
    rw [exponent, hhidden, hmin]
    omega
  obtain ⟨wide, hwide, hvalue⟩ := exists_double hm he.1 he.2
  have hrecode : single.recode .double code = wide := by
    rw [recode, if_neg (by omega), if_neg (by omega)]
    exact nearest_of_value _ (den_ratio _ _) ((value_ratio _ _).trans hvalue.symm) hwide
  rw [hrecode]
  refine ⟨hwide, ?_⟩
  rw [recode, if_neg (by omega), if_neg (by omega)]
  exact nearest_of_value _ (den_ratio _ _) ((value_ratio _ _).trans hvalue) h

theorem Double.negative_ofCode (negative : Bool) {code : Nat} (h : code < double.signWeight) :
    (Double.ofCode negative code).negative = negative ∧ (Double.ofCode negative code).code = code := by
  have hw : double.signWeight = 2 ^ 63 := rfl
  rw [hw] at h
  cases negative <;> simp [Double.negative, Double.code, Double.ofCode, hw, UInt64.toNat_ofNat'] <;> omega

theorem Single.ofCode_code (x : Single) : Single.ofCode x.negative x.code = x := by
  have hw : single.signWeight = 2 ^ 31 := rfl
  have hlt : x.bits.toNat < 2 ^ 32 := x.bits.toNat_lt
  have hbits : x.code + (if x.negative then single.signWeight else 0) = x.bits.toNat := by
    rw [Single.code, Single.negative, hw]
    split <;> rename_i h <;> simp only [decide_eq_true_eq] at h <;> omega
  rw [Single.ofCode, hbits, UInt32.ofNat_toNat]

/-- A number that is finite, infinite or the one that is made of no number. -/
def Single.Canonical (x : Single) : Prop :=
  x.code ≤ single.infinity ∨ x.code = single.infinity + single.hidden / 2

theorem Single.toSingle_toDouble {x : Single} (h : x.Canonical) : x.toDouble.toSingle = x := by
  have hcode : single.recode .double x.code < double.signWeight ∧
      double.recode .single (single.recode .double x.code) = x.code := by
    rcases h with h | h
    · rcases Nat.lt_or_eq_of_le h with h | h
      · obtain ⟨hlt, hback⟩ := widen_narrow h
        exact ⟨Nat.lt_trans hlt (by decide), hback⟩
      · rw [h]
        decide
    · rw [h]
      decide
  obtain ⟨hsign, hwide⟩ := Double.negative_ofCode x.negative hcode.1
  rw [Double.toSingle, Single.toDouble, hsign, hwide, hcode.2, Single.ofCode_code]

/-! ## Numbers that were read -/

theorem ofDecimal_single (d : Decimal) : single.ofDecimal d ≤ single.infinity ∨
    single.ofDecimal d = single.infinity + single.hidden / 2 := by
  cases d with
  | notANumber => exact Or.inr rfl
  | infinite => exact Or.inl (Nat.le_refl _)
  | finite m e =>
    left
    unfold ofDecimal nearestDecimal nearest
    dsimp only
    split
    · exact Nat.zero_le _
    split
    · exact Nat.le_refl _
    split
    · exact Nat.zero_le _
    split
    · exact Nat.zero_le _
    · exact Nat.min_le_right _ _

theorem Single.canonical_of_read {s : List Char} {x : Single} (h : Single.read s = some x) :
    x.Canonical := by
  obtain ⟨⟨negative, d⟩, -, rfl⟩ := Option.map_eq_some_iff.mp h
  have hw : single.signWeight = 2 ^ 31 := rfl
  have hd := ofDecimal_single d
  have hlt : single.ofDecimal d < 2 ^ 31 := by
    have hinf : single.infinity = 255 * 2 ^ 23 := rfl
    have hhidden : single.hidden = 2 ^ 23 := rfl
    omega
  have hcode : (Single.ofCode negative (single.ofDecimal d)).code = single.ofDecimal d := by
    cases negative <;> simp [Single.code, Single.ofCode, hw, UInt32.toNat_ofNat'] <;> omega
  rw [Single.Canonical, hcode]
  exact hd

end SqlRecord.Number
