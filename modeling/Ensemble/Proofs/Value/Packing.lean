import Ensemble.Proofs.Value.Float
import Mathlib.Algebra.Order.Ring.Nat

/-!
# Stored floats

A float is stored as a sign, an exponent and a mantissa, and compared in its unpacked form.  Nothing
is lost when it is unpacked, and it is stored in the same way again.  So equal numbers are the same
float, apart from the two zeros, and adding zero changes no float but the negative zero.
-/

namespace Ensemble

open Float.Model

variable {spec : Format} {x y : BitVec spec.numBits} {u : UnpackedFloat}

/-! ## Components -/

theorem sign_ofBitVec_injective {s t : BitVec 1}
    (h : UnpackedFloat.Sign.ofBitVec s = UnpackedFloat.Sign.ofBitVec t) : s = t := by
  unfold UnpackedFloat.Sign.ofBitVec at h
  grind

/-- A stored number is put together from its sign, its exponent and its mantissa. -/
theorem eq_of_components (hs : UnpackedFloat.unpackSign x = UnpackedFloat.unpackSign y)
    (he : UnpackedFloat.unpackExponent x = UnpackedFloat.unpackExponent y)
    (hm : UnpackedFloat.unpackMantissa x = UnpackedFloat.unpackMantissa y) : x = y := by
  refine BitVec.eq_of_getLsbD_eq fun i hi => ?_
  have hmantissa := congrArg (·.getLsbD i) hm
  have hexponent := congrArg (·.getLsbD (i - spec.mantissaBitsWithoutImplicit)) he
  delta UnpackedFloat.unpackSign at hs
  have hsign := congrArg (·.getLsbD 0) hs
  simp only [UnpackedFloat.unpackMantissa, UnpackedFloat.unpackExponent, BitVec.getLsbD_cast,
    BitVec.getLsbD_extract, Nat.zero_add, Nat.add_zero] at hmantissa hexponent hsign
  have hpos := spec.hm
  have hpos' := spec.he
  unfold Format.numBits at hi
  rcases Nat.lt_trichotomy i (spec.mantissaBitsWithoutImplicit + spec.exponentBits) with h | h | h
  · rcases Nat.lt_or_ge i spec.mantissaBitsWithoutImplicit with h' | h'
    · grind
    · rw [Nat.add_sub_cancel' h'] at hexponent
      grind
  · grind
  · omega

/-- The leading one of a normal number is not stored. -/
theorem toNat_leadingOne {w : Nat} (m : BitVec w) : (1#1 ++ m).toNat = 2 ^ w + m.toNat := by
  have hor := Nat.two_pow_add_eq_or_of_lt m.isLt 1
  rw [BitVec.toNat_append, Nat.shiftLeft_eq, BitVec.toNat_ofNat, Nat.mul_comm]
  exact hor.symm.trans (by rw [Nat.mul_one])

/-! ## Unpacking -/

/-- What a stored number is unpacked to, by its exponent and its mantissa. -/
inductive Stored (spec : Format) (b : BitVec spec.numBits) (u : UnpackedFloat) : Prop
  | notANumber (hb : b = UnpackedFloat.packedNaN spec) (hu : u = .notANumber)
  | infinity (he : UnpackedFloat.unpackExponent b = -1#_)
    (hm : UnpackedFloat.unpackMantissa b = 0#_)
    (hu : u = .infinity (.ofBitVec (UnpackedFloat.unpackSign b)))
  | zero (he : UnpackedFloat.unpackExponent b = 0#_) (hm : UnpackedFloat.unpackMantissa b = 0#_)
    (hu : u = .zero (.ofBitVec (UnpackedFloat.unpackSign b)))
  | subnormal (he : UnpackedFloat.unpackExponent b = 0#_)
    (hm : 0 < (UnpackedFloat.unpackMantissa b).toNat)
    (hu : u = .finite (.ofBitVec (UnpackedFloat.unpackSign b))
      (UnpackedFloat.unpackMantissa b).toNat
      ((UnpackedFloat.unpackExponent b).toNat
        - (spec.exponentBias + spec.mantissaBitsWithoutImplicit) + 1) hm)
  | normal (he : UnpackedFloat.unpackExponent b ≠ 0#_)
    (he' : UnpackedFloat.unpackExponent b ≠ -1#_)
    (hm : 0 < (1#1 ++ UnpackedFloat.unpackMantissa b).toNat)
    (hu : u = .finite (.ofBitVec (UnpackedFloat.unpackSign b))
      (1#1 ++ UnpackedFloat.unpackMantissa b).toNat
      ((UnpackedFloat.unpackExponent b).toNat
        - (spec.exponentBias + spec.mantissaBitsWithoutImplicit)) hm)

theorem stored_unpack (hx : spec.Valid x) : Stored spec x (UnpackedFloat.unpack spec x) := by
  unfold UnpackedFloat.unpack
  dsimp only
  by_cases htop : UnpackedFloat.unpackExponent x = -1#_
  · rw [if_pos htop]
    by_cases hm : UnpackedFloat.unpackMantissa x = 0#_
    · rw [if_pos hm]
      exact .infinity htop hm rfl
    · rw [if_neg hm]
      exact .notANumber (hx.eq_packedNaN htop hm) rfl
  · rw [if_neg htop]
    by_cases he : UnpackedFloat.unpackExponent x = 0#_
    · rw [if_pos he]
      by_cases hm : UnpackedFloat.unpackMantissa x = 0#_
      · rw [dif_pos hm]
        exact .zero he hm rfl
      · rw [dif_neg hm]
        exact .subnormal he _ rfl
    · rw [if_neg he]
      exact .normal he htop _ rfl

/-- Of a valid stored number nothing is lost when it is unpacked. -/
theorem unpack_injective (hx : spec.Valid x) (hy : spec.Valid y)
    (h : UnpackedFloat.unpack spec x = UnpackedFloat.unpack spec y) : x = y := by
  have hsx := stored_unpack hx
  have hsy := stored_unpack hy
  rw [h] at hsx
  generalize UnpackedFloat.unpack spec y = u at hsx hsy
  have hlt := (UnpackedFloat.unpackMantissa x).isLt
  have hlt' := (UnpackedFloat.unpackMantissa y).isLt
  cases hsx <;> rename_i hu <;> subst hu <;> cases hsy
  case notANumber.notANumber hb hb' _ => exact hb.trans hb'.symm
  case infinity.infinity he hm he' hm' hu =>
    have hs := sign_ofBitVec_injective (UnpackedFloat.infinity.inj hu)
    exact eq_of_components hs (he.trans he'.symm) (hm.trans hm'.symm)
  case zero.zero he hm he' hm' hu =>
    have hs := sign_ofBitVec_injective (UnpackedFloat.zero.inj hu)
    exact eq_of_components hs (he.trans he'.symm) (hm.trans hm'.symm)
  case subnormal.subnormal he _ he' _ hu =>
    obtain ⟨hs, hm, -⟩ := UnpackedFloat.finite.inj hu
    exact eq_of_components (sign_ofBitVec_injective hs) (he.trans he'.symm)
      (BitVec.eq_of_toNat_eq hm)
  case normal.normal hu =>
    obtain ⟨hs, hm, he⟩ := UnpackedFloat.finite.inj hu
    rw [toNat_leadingOne, toNat_leadingOne] at hm
    exact eq_of_components (sign_ofBitVec_injective hs) (BitVec.eq_of_toNat_eq (by omega))
      (BitVec.eq_of_toNat_eq (by omega))
  -- The mantissa of a normal number is above those of the subnormal ones.
  case subnormal.normal hu =>
    have hm := (UnpackedFloat.finite.inj hu).2.1
    rw [toNat_leadingOne] at hm
    omega
  case normal.subnormal hu =>
    have hm := (UnpackedFloat.finite.inj hu).2.1
    rw [toNat_leadingOne] at hm
    omega
  all_goals
    rename_i hu
    cases hu

/-! ## Storing again -/

/-- The sign of a number that is put together is the one put in. -/
theorem sign_packComponents (spec : Format) (s : UnpackedFloat.Sign)
    (e : BitVec spec.exponentBits) (m : BitVec spec.mantissaBitsWithoutImplicit) :
    UnpackedFloat.Sign.ofBitVec
      (UnpackedFloat.unpackSign (UnpackedFloat.packComponents spec s e m)) = s := by
  have hbit : UnpackedFloat.unpackSign (UnpackedFloat.packComponents spec s e m) = s.toBitVec := by
    delta UnpackedFloat.unpackSign UnpackedFloat.packComponents
    ext i hi
    obtain rfl : i = 0 := by omega
    simp [BitVec.getLsbD_append, BitVec.getElem_append]
  rw [hbit]
  cases s <;> rfl

/-- A stored number is put together again from its parts. -/
theorem packComponents_parts {b : BitVec spec.numBits} {e : BitVec spec.exponentBits}
    {m : BitVec spec.mantissaBitsWithoutImplicit} (he : UnpackedFloat.unpackExponent b = e)
    (hm : UnpackedFloat.unpackMantissa b = m) :
    UnpackedFloat.packComponents spec (.ofBitVec (UnpackedFloat.unpackSign b)) e m = b := by
  refine eq_of_components (sign_ofBitVec_injective (sign_packComponents ..)) ?_ ?_
  · rw [he]
    exact UnpackedFloat.unpackExponent_packComponents
  · rw [hm]
    exact UnpackedFloat.unpackMantissa_packComponents

/-- The least exponent is stored as zero, without a leading one. -/
theorem pack_subnormal {s : UnpackedFloat.Sign} {m : Nat} (hpos : 0 < m) (hm : m < 2 ^ 52) :
    UnpackedFloat.pack .binary64 (.finite s m (-1074) hpos)
      = UnpackedFloat.packComponents .binary64 s 0#11 (.ofNat 52 m) := by
  have hbits : ¬ m.log2 + 1 = 53 := by
    have hlog : m.log2 < 52 := (Nat.log2_lt (by omega)).2 hm
    omega
  unfold UnpackedFloat.pack
  dsimp only
  rw [if_neg (by decide)]
  exact if_neg hbits

/-- The other exponents are stored with a bias. -/
theorem pack_normal {s : UnpackedFloat.Sign} {m k : Nat} {e : Int} (hpos : 0 < m)
    (hlow : 2 ^ 52 ≤ m) (hhigh : m < 2 ^ 53) (hk : k < 2047) (he : e = k - 1075) :
    UnpackedFloat.pack .binary64 (.finite s m e hpos)
      = UnpackedFloat.packComponents .binary64 s (.ofNat 11 k) (.ofNat 52 m) := by
  have hbits : m.log2 = 52 := (Nat.log2_eq_iff (by omega)).2 ⟨hlow, hhigh⟩
  have hbiased : (e + Format.binary64.exponentBias
      + Format.binary64.mantissaBitsWithoutImplicit).toNat = k := by
    show (e + 1023 + 52).toNat = k
    omega
  unfold UnpackedFloat.pack
  dsimp only
  rw [hbiased, hbits, if_neg (by show ¬ 2 ^ 11 ≤ k + 1; omega)]
  exact if_pos rfl

/-- A valid stored number is stored as it is after it was unpacked. -/
theorem pack_unpack {b : BitVec Format.binary64.numBits} (hb : Format.binary64.Valid b) :
    (UnpackedFloat.unpack .binary64 b).pack .binary64 = b := by
  have hexponent : (UnpackedFloat.unpackExponent b).toNat < 2 ^ 11 :=
    (UnpackedFloat.unpackExponent b).isLt
  have hmantissa : (UnpackedFloat.unpackMantissa b).toNat < 2 ^ 52 :=
    (UnpackedFloat.unpackMantissa b).isLt
  cases stored_unpack hb with
  | notANumber hb hu =>
    rw [hu]
    exact hb.symm
  | infinity he hm hu =>
    rw [hu]
    exact packComponents_parts he hm
  | zero he hm hu =>
    rw [hu]
    exact packComponents_parts he hm
  | subnormal he hm hu =>
    rw [he] at hu
    refine (congrArg _ hu).trans ((pack_subnormal hm hmantissa).trans ?_)
    apply packComponents_parts he
    exact BitVec.eq_of_toNat_eq (by rw [BitVec.toNat_ofNat, Nat.mod_eq_of_lt hmantissa])
  | normal he he' hm hu =>
    have hleading : (1#1 ++ UnpackedFloat.unpackMantissa b).toNat
        = 2 ^ 52 + (UnpackedFloat.unpackMantissa b).toNat := toNat_leadingOne _
    have htop : (UnpackedFloat.unpackExponent b).toNat ≠ 2047 := fun h =>
      he' (BitVec.eq_of_toNat_eq h)
    refine (congrArg _ hu).trans ((pack_normal (k := (UnpackedFloat.unpackExponent b).toNat)
      hm (by omega) (by omega) (by omega) rfl).trans ?_)
    apply packComponents_parts
    · exact BitVec.eq_of_toNat_eq (by rw [BitVec.toNat_ofNat, Nat.mod_eq_of_lt hexponent])
    · apply BitVec.eq_of_toNat_eq
      rw [BitVec.toNat_ofNat, hleading]
      exact (Nat.add_mod_left ..).trans (Nat.mod_eq_of_lt hmantissa) |>.symm

/-! ## Floats -/

theorem float_eq_of_unpack {x y : Float} (h : x.toModel.unpack = y.toModel.unpack) : x = y := by
  obtain ⟨⟨⟨b⟩, hb⟩⟩ := x
  obtain ⟨⟨⟨c⟩, hc⟩⟩ := y
  obtain rfl : b = c := unpack_injective hb hc h
  rfl

/-- Equal numbers are the same float, apart from the two zeros. -/
theorem eq_or_zeros_of_float_beq {x y : Float} (h : (x == y) = true) :
    x = y ∨ x = 0 ∧ y = -0 ∨ x = -0 ∧ y = 0 := by
  obtain hxy | ⟨s, t, hx, hy⟩ := unpacked_eq_or_zero (float_beq_iff.1 h)
  · exact .inl (float_eq_of_unpack hxy)
  · have eq_zero : ∀ {z : Float}, z.toModel.unpack = .zero .positive → z = 0 :=
      fun hz => float_eq_of_unpack hz
    have eq_neg_zero : ∀ {z : Float}, z.toModel.unpack = .zero .negative → z = -0 :=
      fun hz => float_eq_of_unpack hz
    cases s <;> cases t
    case positive.negative => exact .inr (.inl ⟨eq_zero hx, eq_neg_zero hy⟩)
    case negative.positive => exact .inr (.inr ⟨eq_neg_zero hx, eq_zero hy⟩)
    all_goals exact .inl (float_eq_of_unpack (hx.trans hy.symm))

theorem unpack_float_add (x y : Float) :
    (x + y).toModel.unpack
      = (Float.Model.pack (x.toModel.unpack.add .binary64 y.toModel.unpack)).unpack := rfl

theorem unpack_pack_toModel (x : Float) :
    (Float.Model.pack x.toModel.unpack).unpack = x.toModel.unpack := by
  obtain ⟨⟨⟨b⟩, hb⟩⟩ := x
  exact congrArg (UnpackedFloat.unpack .binary64) (pack_unpack hb)

/-- Adding zero changes no float but the negative zero. -/
theorem float_add_zero {x : Float} (hx : x ≠ -0) : x + 0 = x := by
  have hadd : x.toModel.unpack.add .binary64 (.zero .positive) = x.toModel.unpack := by
    cases hu : x.toModel.unpack with
    | zero s =>
      cases s with
      | positive => rfl
      | negative => exact absurd (float_eq_of_unpack hu) hx
    | _ => rfl
  apply float_eq_of_unpack
  rw [unpack_float_add]
  exact (congrArg (fun u => (Float.Model.pack u).unpack) hadd).trans (unpack_pack_toModel x)

end Ensemble
