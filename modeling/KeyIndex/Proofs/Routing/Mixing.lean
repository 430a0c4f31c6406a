import KeyIndex.Routing
import Mathlib.Algebra.Group.Units.Equiv
import Mathlib.Algebra.Order.Group.Abs
import Mathlib.Algebra.Order.Group.Int
import Mathlib.Data.LawfulXor.Basic
import Mathlib.Data.UInt

/-!
# What mixing does to hash codes

To mix a word loses nothing.  Every step of it is a permutation of the words of 32 bits, here
given with the step that undoes it: to multiply by an odd number is undone by its inverse
modulo `2 ^ 32`, a turn by the rest of the turn, and a shift to the right that is combined with
the word itself by two such shifts, since the third shifts everything out.  The magnitude
that follows keeps two words apart unless one is the other with its sign changed, and it gives
zero to zero and to the least word.  So each number that can come out comes from two codes.

Main definitions:

- `Routing.scaling`, `Routing.turning`, `Routing.folding`: the steps, each with its inverse.
- `Routing.mixing`: the permutation that they make together.
- `Routing.opposite`: the other word with the same magnitude.

Main results:

- Theorem `Routing.coe_mixing`: mixing a word is this permutation.
- Theorem `Routing.toInt_magnitude`: the magnitude is exact, and no change of a sign overflows.
- Theorem `Routing.magnitude_eq_iff`: which two words have a given magnitude.
- Theorem `Routing.scramble_two_to_one`: each number that is not negative comes from exactly
  two codes.
-/

namespace KeyIndex.Routing

/-! ## Steps that can be undone -/

/-- To multiply by a number that has an inverse. -/
def scaling (factor inverse : UInt32) (hinverse : factor * inverse = 1) : Equiv.Perm UInt32 where
  toFun h := h * factor
  invFun h := h * inverse
  left_inv h := by
    change h * factor * inverse = h
    rw [UInt32.mul_assoc, hinverse, UInt32.mul_one]
  right_inv h := by
    change h * inverse * factor = h
    rw [UInt32.mul_assoc, UInt32.mul_comm inverse, hinverse, UInt32.mul_one]

/-- The rest of a whole turn. -/
theorem toNat_rest {amount : UInt32} (hlt : amount.toNat < 32) :
    (32 - amount).toNat = 32 - amount.toNat :=
  UInt32.toNat_sub_of_le _ _ (UInt32.le_iff_toNat_le.mpr hlt.le)

/-- A turn of a machine word is a turn of its bits. -/
theorem toBitVec_rotateLeft (h : UInt32) {amount : UInt32} (hpos : 0 < amount.toNat)
    (hlt : amount.toNat < 32) :
    (rotateLeft h amount).toBitVec = h.toBitVec.rotateLeft amount.toNat := by
  have hleft : (amount.toBitVec % 32).toNat = amount.toNat := by
    rw [BitVec.toNat_umod]
    exact Nat.mod_eq_of_lt hlt
  have hright : ((32 - amount).toBitVec % 32).toNat = 32 - amount.toNat := by
    rw [BitVec.toNat_umod, UInt32.toNat_toBitVec, toNat_rest hlt]
    exact Nat.mod_eq_of_lt (Nat.sub_lt (by decide) hpos)
  rw [rotateLeft, BitVec.rotateLeft_def, Nat.mod_eq_of_lt hlt, UInt32.toBitVec_or,
    UInt32.toBitVec_shiftLeft, UInt32.toBitVec_shiftRight, BitVec.shiftLeft_eq',
    BitVec.ushiftRight_eq', hleft, hright]

/-- A turn, and then the rest of the whole turn, leaves every bit where it was. -/
theorem rotateLeft_rotateLeft (bits : BitVec 32) {amount : Nat} (hpos : 0 < amount)
    (hlt : amount < 32) : (bits.rotateLeft amount).rotateLeft (32 - amount) = bits := by
  have hmod : amount % 32 = amount := Nat.mod_eq_of_lt hlt
  have hrest : (32 - amount) % 32 = 32 - amount := Nat.mod_eq_of_lt (by omega)
  ext i hi
  simp only [BitVec.getElem_rotateLeft, hmod, hrest]
  split
  · rw [dif_neg (by omega)]
    congr 1
    omega
  · rw [dif_pos (by omega)]
    congr 1
    omega

/-- A turn is undone by the turn that completes it. -/
theorem rotateLeft_undone (h : UInt32) {amount rest : UInt32} (hpos : 0 < amount.toNat)
    (hlt : amount.toNat < 32) (hrest : rest.toNat = 32 - amount.toNat) :
    rotateLeft (rotateLeft h amount) rest = h := by
  have hrestPos : 0 < rest.toNat := by omega
  have hrestLt : rest.toNat < 32 := by omega
  apply UInt32.toBitVec_inj.mp
  rw [toBitVec_rotateLeft _ hrestPos hrestLt, toBitVec_rotateLeft _ hpos hlt, hrest]
  exact rotateLeft_rotateLeft _ hpos hlt

/-- A turn by some of the 32 bits. -/
def turning (amount : UInt32) (hpos : 0 < amount.toNat) (hlt : amount.toNat < 32) :
    Equiv.Perm UInt32 where
  toFun h := rotateLeft h amount
  invFun h := rotateLeft h (32 - amount)
  left_inv h := rotateLeft_undone h hpos hlt (toNat_rest hlt)
  right_inv h := by
    have hrest : (32 - amount).toNat = 32 - amount.toNat := toNat_rest hlt
    apply rotateLeft_undone <;> omega

/-- Three shifts to the right by eleven bits or more shift everything out. -/
theorem shiftRight_thrice (h : UInt32) {amount : UInt32} (hle : 11 ≤ amount.toNat)
    (hlt : amount.toNat < 32) : h >>> amount >>> amount >>> amount = 0 := by
  have hmod : amount.toNat % 32 = amount.toNat := Nat.mod_eq_of_lt hlt
  apply UInt32.toNat_inj.mp
  rw [UInt32.toNat_shiftRight, UInt32.toNat_shiftRight, UInt32.toNat_shiftRight, hmod,
    ← Nat.shiftRight_add, ← Nat.shiftRight_add]
  apply Nat.shiftRight_eq_zero
  calc
    h.toNat < 2 ^ 32 := h.toNat_lt
    _ ≤ 2 ^ (amount.toNat + (amount.toNat + amount.toNat)) :=
      Nat.pow_le_pow_right (by decide) (by omega)

/-- To combine a word with itself, shifted to the right. -/
def folding (amount : UInt32) (hle : 11 ≤ amount.toNat) (hlt : amount.toNat < 32) :
    Equiv.Perm UInt32 where
  toFun h := h ^^^ (h >>> amount)
  invFun h := h ^^^ (h >>> amount) ^^^ (h >>> amount >>> amount)
  left_inv h := by
    simp only [UInt32.shiftRight_xor, shiftRight_thrice h hle hlt, UInt32.xor_zero]
    rw [← UInt32.xor_assoc, xor_cancel_right, xor_cancel_right]
  right_inv h := by
    simp only [UInt32.shiftRight_xor, shiftRight_thrice h hle hlt, UInt32.xor_zero]
    rw [UInt32.xor_assoc h, xor_cancel_right]

/-! ## All steps together -/

/-- The final avalanche, as a permutation. -/
def avalanching : Equiv.Perm UInt32 :=
  (folding 16 (by decide) (by decide)).trans <|
    (scaling 0x85ebca6b 0xa5cb9243 (by decide)).trans <|
      (folding 13 (by decide) (by decide)).trans <|
        (scaling 0xc2b2ae35 0x7ed1b41d (by decide)).trans (folding 16 (by decide) (by decide))

/-- The round of mixing, as a permutation. -/
def mixing : Equiv.Perm UInt32 :=
  (scaling 0xcc9e2d51 0xdee13bb1 (by decide)).trans <|
    (turning 15 (by decide) (by decide)).trans <|
      (scaling 0x1b873593 0x56ed309b (by decide)).trans <|
        (turning 13 (by decide) (by decide)).trans <|
          (scaling 5 0xcccccccd (by decide)).trans <|
            (Equiv.addRight 0xe6546b64).trans <|
              (xor_left_involutive (4 : UInt32)).toPerm.trans avalanching

/-- To mix a word is to apply this permutation. -/
theorem coe_mixing : ⇑mixing = mixWord := rfl

/-- Signed words are words with another reading. -/
def reading : UInt32 ≃ Int32 where
  toFun := UInt32.toInt32
  invFun := Int32.toUInt32
  left_inv := UInt32.toUInt32_toInt32
  right_inv := Int32.toInt32_toUInt32

/-- The mixing of hash codes, before their sign is dropped. -/
def mixingCodes : Equiv.Perm Int32 := reading.symm.trans (mixing.trans reading)

/-- A code is mixed, and then its sign is dropped. -/
theorem scramble_eq (code : Int32) : scramble code = magnitude (mixingCodes code) := rfl

/-! ## Magnitudes -/

/-- To change the sign of a word does not overflow, unless it is the least one. -/
theorem toInt_neg_of_ne {n : Int32} (h : n ≠ Int32.minValue) : (-n).toInt = -n.toInt := by
  have hlow : -2 ^ 31 ≤ n.toInt := n.le_toInt
  have hhigh : n.toInt < 2 ^ 31 := n.toInt_lt
  have hleast : n.toInt ≠ -2 ^ 31 := by
    intro heq
    exact h (Int32.toInt_inj.mp (heq.trans Int32.toInt_minValue.symm))
  rw [Int32.toInt_neg]
  apply Int.bmod_eq_of_le <;> omega

/-- The magnitude of a word is its absolute value, and zero for the least word. -/
theorem toInt_magnitude (n : Int32) :
    (magnitude n).toInt = if n = Int32.minValue then 0 else |n.toInt| := by
  unfold magnitude
  by_cases hsign : 0 ≤ n
  · have hnumber : 0 ≤ n.toInt := Int32.le_iff_toInt_le.mp hsign
    have hne : n ≠ Int32.minValue := by
      rintro rfl
      exact absurd hsign (by decide)
    rw [if_pos hsign, if_neg hne, abs_of_nonneg hnumber]
  · have hnumber : n.toInt < 0 := Int32.lt_iff_toInt_lt.mp (Int32.not_le.mp hsign)
    rw [if_neg hsign]
    split
    · rfl
    · rename_i hne
      rw [toInt_neg_of_ne hne, abs_of_neg hnumber]

/-- A magnitude is not negative. -/
theorem magnitude_nonneg (n : Int32) : 0 ≤ magnitude n := by
  rw [Int32.le_iff_toInt_le, toInt_magnitude]
  split
  · exact le_rfl
  · exact abs_nonneg _

/-- The other word with the same magnitude. -/
def opposite (value : Int32) : Int32 := if value = 0 then Int32.minValue else -value

theorem toInt_opposite {value : Int32} (h : 0 ≤ value) :
    (opposite value).toInt = if value.toInt = 0 then -2 ^ 31 else -value.toInt := by
  unfold opposite
  by_cases hzero : value = 0
  · subst hzero
    rfl
  · have hnumber : value.toInt ≠ 0 := fun heq => hzero (Int32.toInt_inj.mp heq)
    have hne : value ≠ Int32.minValue := by
      rintro rfl
      exact absurd h (by decide)
    rw [if_neg hzero, if_neg hnumber, toInt_neg_of_ne hne]

/-- The two words with a given magnitude are different. -/
theorem ne_opposite {value : Int32} (h : 0 ≤ value) : value ≠ opposite value := by
  intro heq
  have hnumber : 0 ≤ value.toInt := Int32.le_iff_toInt_le.mp h
  have hsame : value.toInt = (opposite value).toInt := congrArg Int32.toInt heq
  rw [toInt_opposite h] at hsame
  split at hsame <;> omega

/-- Two words have a given magnitude: the number itself, and its opposite. -/
theorem magnitude_eq_iff {value : Int32} (h : 0 ≤ value) (n : Int32) :
    magnitude n = value ↔ n = value ∨ n = opposite value := by
  have hnumber : 0 ≤ value.toInt := Int32.le_iff_toInt_le.mp h
  have hhigh : value.toInt < 2 ^ 31 := value.toInt_lt
  have hleast : n = Int32.minValue ↔ n.toInt = -2 ^ 31 := by
    rw [← Int32.toInt_inj, Int32.toInt_minValue]
  rw [← Int32.toInt_inj, ← Int32.toInt_inj, ← Int32.toInt_inj, toInt_magnitude,
    toInt_opposite h]
  simp only [hleast]
  split
  · split <;> omega
  · rw [abs_eq hnumber]
    split <;> omega

/-! ## Codes -/

/-- To mix words of 32 bits permutes them.  What is made of a code after that is a number that
is not negative: the absolute value of the mixed code, exactly, and zero if that is the least
word.  Each number that is not negative is made of exactly two codes. -/
theorem scramble_two_to_one :
    Function.Bijective mixWord ∧
      (∀ code, 0 ≤ scramble code ∧ scramble code ≤ Int32.maxValue) ∧
      (∀ code, (scramble code).toInt =
        if (mixWord code.toUInt32).toInt32 = Int32.minValue then 0
        else |(mixWord code.toUInt32).toInt32.toInt|) ∧
      ∀ value : Int32, 0 ≤ value → ∃ first second, first ≠ second ∧
        ∀ code, scramble code = value ↔ code = first ∨ code = second := by
  refine ⟨coe_mixing ▸ mixing.bijective, ?_, ?_, ?_⟩
  · intro code
    exact ⟨magnitude_nonneg _, Int32.le_maxValue _⟩
  · intro code
    exact toInt_magnitude _
  · intro value hvalue
    refine ⟨mixingCodes.symm value, mixingCodes.symm (opposite value), ?_, ?_⟩
    · intro hsame
      exact ne_opposite hvalue (mixingCodes.symm.injective hsame)
    · intro code
      rw [scramble_eq, magnitude_eq_iff hvalue, Equiv.eq_symm_apply, Equiv.eq_symm_apply]

/-- The number that is made of the code 97 is made of one more code. -/
theorem scramble_two_to_one_letter :
    (0 : Int32) ≤ 1455541201 ∧ scramble 97 = 1455541201 ∧
      ∃ first second, first ≠ second ∧
        ∀ code, scramble code = 1455541201 ↔ code = first ∨ code = second :=
  ⟨by decide, by decide, scramble_two_to_one.2.2.2 1455541201 (by decide)⟩

end KeyIndex.Routing
