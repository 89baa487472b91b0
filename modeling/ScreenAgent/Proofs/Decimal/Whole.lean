import ScreenAgent.Decimal.Scaled
import ScreenAgent.Proofs.Text.Numeral

namespace ScreenAgent.Decimal

open Float.Model UnpackedFloat

/-- Zero, or a finite number with an exponent that is not above a bound. -/
def AtMost (bound : Int) : UnpackedFloat → Prop
  | .zero _ => True
  | .finite _ _ exponent _ => exponent ≤ bound
  | _ => False

instance (bound : Int) (f : UnpackedFloat) : Decidable (AtMost bound f) := by
  unfold AtMost
  split <;> infer_instance

theorem atMost_finite {bound : Int} {sign : Sign} {m : Nat} {e : Int} {hm : 0 < m} :
    AtMost bound (.finite sign m e hm) ↔ e ≤ bound := Iff.rfl

theorem targetExponent_eq (total : Int) :
    Format.binary64.targetExponent total = max (total - 53) (-1074) := rfl

theorem log2_lt {m bits : Nat} (h : m < 2 ^ bits) (hb : 0 < bits) : m.log2 < bits := by
  by_cases hm : m = 0
  · simpa [hm] using hb
  · exact (Nat.log2_lt hm).mpr h

theorem mantissa_shift (em : ExtendedMantissa) (n : Nat) : (em >>> n).mantissa ≤ em.mantissa := by
  change (n.repeat ExtendedMantissa.shiftRightOne em).mantissa ≤ em.mantissa
  induction n with
  | zero => exact Nat.le_refl _
  | succ n ih => exact Nat.le_trans (Nat.div_le_self _ 2) ih

theorem roundedMantissa_le (em : ExtendedMantissa) : em.roundedMantissa ≤ em.mantissa + 1 := by
  obtain ⟨mantissa, roundBit, stickyBit⟩ := em
  cases roundBit <;> cases stickyBit <;>
    simp only [ExtendedMantissa.roundedMantissa, ExtendedMantissa.accuracy,
      Accuracy.roundToNearestEven] <;> omega

/-- A shift to the exponent that a format wants makes the mantissa no larger, and the exponent larger
by less than the mantissa has bits. -/
theorem shift_le {mantissa bits : Nat} (hm : mantissa < 2 ^ bits) (hb : 0 < bits) (exponent : Int)
    (accuracy : Accuracy) :
    let shifted := shiftToTargetExponent Format.binary64 mantissa exponent accuracy
    shifted.1.mantissa ≤ mantissa ∧ shifted.2 ≤ max exponent (-1074) + bits := by
  have hl := log2_lt hm hb
  intro shifted
  refine ⟨?_, ?_⟩
  · refine Nat.le_trans (mantissa_shift _ _) ?_
    rcases accuracy with _ | ordering
    · exact Nat.le_refl _
    · cases ordering <;> exact Nat.le_refl _
  · simp only [shifted, shiftToTargetExponent, shiftToExponent, targetExponent_eq, totalExponent]
    omega

theorem roundWithAccuracy_atMost {mantissa bits : Nat} (hm : mantissa < 2 ^ bits) (hb : 0 < bits)
    (sign : Sign) (exponent : Int) (accuracy : Accuracy) :
    AtMost (max exponent (-1074) + 2 * bits + 1)
      (roundWithAccuracy Format.binary64 sign mantissa exponent accuracy) := by
  -- a first shift leaves a mantissa that fits, and a second one is for the carry of its rounding
  obtain ⟨hm₁, he₁⟩ := shift_le hm hb exponent accuracy
  have hr := roundedMantissa_le (shiftToTargetExponent Format.binary64 mantissa exponent accuracy).1
  have hp : 2 ^ bits < 2 ^ (bits + 1) := Nat.pow_lt_pow_right (by decide) (by omega)
  have hm₂ := Nat.lt_of_le_of_lt (Nat.le_trans hr (Nat.le_trans (Nat.succ_le_succ hm₁) hm)) hp
  obtain ⟨-, he₂⟩ := shift_le hm₂ (by omega)
    (shiftToTargetExponent Format.binary64 mantissa exponent accuracy).2 .exact
  unfold roundWithAccuracy
  dsimp only
  by_cases h0 : (shiftToTargetExponent Format.binary64
      (shiftToTargetExponent Format.binary64 mantissa exponent accuracy).1.roundedMantissa
      (shiftToTargetExponent Format.binary64 mantissa exponent accuracy).2 .exact).1.mantissa = 0
  · rw [dif_pos h0]
    trivial
  · rw [dif_neg h0, atMost_finite]
    omega

theorem AtMost.mono {bound larger : Int} {f : UnpackedFloat} (h : AtMost bound f)
    (hb : bound ≤ larger) : AtMost larger f := by
  cases f with
  | zero => trivial
  | finite => exact Int.le_trans h hb
  | infinity => cases h
  | notANumber => cases h

theorem round_atMost {n : Nat} (hn : n < 2 ^ 64) (sign : Sign) :
    AtMost 129 (UnpackedFloat.round Format.binary64 sign n 0) := by
  have hl : n.log2 < 64 := log2_lt hn (by decide)
  unfold UnpackedFloat.round
  dsimp only [decreaseExponent, totalExponent]
  rw [targetExponent_eq]
  -- the number is moved up as far as its leading zeros go, so it still fits 64 bits
  generalize hs : (0 - max ((n.log2 : Int) + 1 + 0 - 53) (-1074)).toNat = s
  have hm : n <<< s < 2 ^ 64 := by
    have hp : 2 ^ (n.log2 + 1 + s) ≤ 2 ^ 64 := Nat.pow_le_pow_right (by decide) (by omega)
    rw [Nat.shiftLeft_eq]
    refine Nat.lt_of_lt_of_le ?_ hp
    rw [Nat.pow_add]
    exact Nat.mul_lt_mul_of_pos_right Nat.lt_log2_self (Nat.two_pow_pos s)
  exact (roundWithAccuracy_atMost hm (by decide) sign (0 - s) .exact).mono (by omega)

theorem mantissa_lt {b : BitVec Format.binary64.numBits} {sign : Sign} {m : Nat} {e : Int}
    {hm : 0 < m} (h : UnpackedFloat.unpack Format.binary64 b = .finite sign m e hm) :
    m < 2 ^ 53 := by
  unfold UnpackedFloat.unpack at h
  dsimp only at h
  by_cases hn : unpackExponent b = -1#11
  · rw [if_pos hn] at h
    by_cases h0 : unpackMantissa b = 0#52
    · rw [if_pos h0] at h
      cases h
    · rw [if_neg h0] at h
      cases h
  rw [if_neg hn] at h
  by_cases hz : unpackExponent b = 0#11
  · rw [if_pos hz] at h
    by_cases h0 : unpackMantissa b = 0#52
    · rw [dif_pos h0] at h
      cases h
    · rw [dif_neg h0] at h
      cases h
      exact Nat.lt_trans (BitVec.isLt _) (by decide)
  · rw [if_neg hz] at h
    cases h
    exact BitVec.isLt _

theorem unpack_atMost {bound : Int} (hb : 0 ≤ bound) {b : BitVec Format.binary64.numBits}
    (hf : (unpackExponent b).toNat < 2047)
    (he : ((unpackExponent b).toNat : Int) - 1075 ≤ bound) :
    AtMost bound (UnpackedFloat.unpack Format.binary64 b) := by
  have hn : unpackExponent b ≠ -1#11 := by
    intro h
    rw [h] at hf
    exact absurd hf (by decide)
  have hbias : ((Format.binary64.exponentBias : Int) + (52 : Nat)) = 1075 := rfl
  unfold UnpackedFloat.unpack
  dsimp only
  rw [if_neg hn, hbias]
  by_cases h0 : unpackExponent b = 0#11
  · rw [if_pos h0]
    by_cases hm : unpackMantissa b = 0#52
    · rw [dif_pos hm]
      trivial
    · rw [dif_neg hm, atMost_finite, h0]
      have hz : ((0#11).toNat : Int) = 0 := rfl
      omega
  · rw [if_neg h0]
    exact atMost_finite.mpr he

theorem unpack_pack {bound : Int} (hb : 0 ≤ bound) (hm : bound ≤ 900) {f : UnpackedFloat}
    (h : AtMost bound f) : AtMost bound (Float.Model.pack f).unpack := by
  cases f with
  | infinity => cases h
  | notANumber => cases h
  | zero sign => cases sign <;> trivial
  | finite sign m e hpos =>
    have he : e ≤ bound := h
    change AtMost bound (UnpackedFloat.unpack Format.binary64
      (UnpackedFloat.pack Format.binary64 (.finite sign m e hpos)))
    have hbias : (e + (Format.binary64.exponentBias : Nat) + (52 : Nat)).toNat = (e + 1075).toNat := by
      have hb : (Format.binary64.exponentBias : Int) = 1023 := rfl
      omega
    have hx : (BitVec.ofNat 11 (e + 1075).toNat).toNat = (e + 1075).toNat := by
      rw [BitVec.toNat_ofNat]
      omega
    unfold UnpackedFloat.pack
    dsimp only
    rw [hbias, if_neg (by omega)]
    split
    · apply unpack_atMost hb
      · rw [unpackExponent_packComponents, hx]
        omega
      · rw [unpackExponent_packComponents, hx]
        omega
    · apply unpack_atMost hb
      · rw [unpackExponent_packComponents]
        decide
      · rw [unpackExponent_packComponents]
        exact Int.le_trans (by decide) hb

theorem not_isInf {bound : Int} {f : UnpackedFloat} (h : AtMost bound f) : f.isInf = false := by
  cases f with
  | zero => rfl
  | finite => rfl
  | infinity => cases h
  | notANumber => cases h

/-- A product of numbers far from the largest ones stays far from them. -/
theorem mul_atMost {f g : UnpackedFloat} (hf : AtMost 129 f) (hg : AtMost 0 g)
    (hmf : ∀ {sign m e hm}, f = .finite sign m e hm → m < 2 ^ 53)
    (hmg : ∀ {sign m e hm}, g = .finite sign m e hm → m < 2 ^ 53) :
    AtMost 342 (UnpackedFloat.mul Format.binary64 f g) := by
  cases f with
  | infinity => cases hf
  | notANumber => cases hf
  | zero =>
    cases g with
    | infinity => cases hg
    | notANumber => cases hg
    | zero => trivial
    | finite => trivial
  | finite sign m e hm =>
    cases g with
    | infinity => cases hg
    | notANumber => cases hg
    | zero => trivial
    | finite sign' m' e' hm' =>
      have hp : m * m' < 2 ^ 53 * 2 ^ 53 := Nat.mul_lt_mul_of_lt_of_lt (hmf rfl) (hmg rfl)
      rw [← Nat.pow_add] at hp
      rw [atMost_finite] at hf hg
      exact (roundWithAccuracy_atMost hp (by decide) (sign * sign') (e + e') .exact).mono (by omega)

theorem mul_not_isInf {x y : Float} (hx : AtMost 129 x.toModel.unpack)
    (hy : AtMost 0 y.toModel.unpack) : (x * y).isInf = false :=
  not_isInf (unpack_pack (by decide) (by decide) (mul_atMost hx hy mantissa_lt mantissa_lt))

theorem toFloat_atMost (n : UInt64) : AtMost 129 n.toFloat.toModel.unpack := by
  refine unpack_pack (by decide) (by decide) ?_
  change AtMost 129 (UnpackedFloat.normalize Format.binary64 (n.toNat : Int) 0 .positive)
  unfold UnpackedFloat.normalize
  split
  · rename_i h
    exact absurd (Int.compare_eq_lt.mp h) (by omega)
  · trivial
  · exact round_atMost n.toNat_lt .positive

theorem tenTo_zero_atMost : AtMost 0 (tenTo 0).toModel.unpack := by decide +kernel

theorem le_spelled (taken : Nat) (ds : List Nat) : taken ≤ Text.spelled 10 taken ds := by
  induction ds generalizing taken with
  | nil => exact Nat.le_refl _
  | cons d ds ih =>
    have hd := ih (taken * 10 + d)
    simp only [Text.spelled, List.foldl_cons] at hd ⊢
    omega

theorem gather_eq {taken : Nat} {digits : List Char} {ds : List Nat}
    (hd : digits.mapM Text.digit? = some ds) (hs : Text.spelled 10 taken ds < UInt64.size) :
    gather taken digits = (Text.spelled 10 taken ds, []) := by
  induction digits generalizing taken ds with
  | nil =>
    cases hd
    rfl
  | cons c digits ih =>
    rw [List.mapM_cons] at hd
    cases hc : Text.digit? c with
    | none => simp [hc] at hd
    | some d =>
      cases hr : digits.mapM Text.digit? with
      | none => simp [hc, hr] at hd
      | some rest =>
        obtain rfl : d :: rest = ds := by simpa [hc, hr] using hd
        have hl := le_spelled (taken * 10 + d) rest
        change Text.spelled 10 (taken * 10 + d) rest < UInt64.size at hs
        rw [gather, hc, Option.getD_some, if_pos (Nat.lt_of_le_of_lt hl hs), ih hr hs]
        rfl

/-- A whole number that fits 64 bits is finite. -/
theorem toFloat?_ofNat {n : Nat} (h : n < UInt64.size) (negative : Bool) :
    (toFloat? negative (Text.ofNat n) [] none).isSome = true := by
  obtain ⟨ds, hd, hs⟩ := Text.mapM_toDigits (by decide) Text.digit?_digitChar n
  have hg : gather 0 (Text.ofNat n) = (n, []) := by
    rw [← hs] at h
    exact (gather_eq hd h).trans (by rw [hs])
  have hf := mul_not_isInf (toFloat_atMost (UInt64.ofNat n)) tenTo_zero_atMost
  simp [toFloat?, hg, gather, scale, hf]

end ScreenAgent.Decimal
