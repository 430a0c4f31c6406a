import KeyIndex.Routing
import Mathlib.Algebra.BigOperators.Fin
import Mathlib.Data.Int.ModEq
import Mathlib.Tactic.Ring

/-!
# What the hash of a key comes to

The hash of a key is taken unit by unit on words of 32 bits, which wrap at every step.  What
comes of it is a sum that does not wrap: each unit of the key in UTF-16, times the power of
31 for its place, modulo `2 ^ 32`.  So the hash of two texts, one after the other, is known
from their hashes and the number of units of the second.

Main definitions:

- `Text.Spells`: how a text is spelled in UTF-16.
- `Routing.unitSum`: the sum.

Main results:

- Theorem `Text.spells_iff`: a text has one spelling, its units.
- Theorem `Routing.foldl_hashUnit_modEq`: how the hash goes on from any code.
- Theorem `Routing.polynomialHash_unitSum`: the hash of a key, and of two texts together.
-/

namespace KeyIndex

/-! ## Spelling in UTF-16 -/

namespace Text

/-- Some units spell a text.  A character of the basic plane is spelled by the unit with its
number.  For any other the number, less `0x10000`, is cut into two parts of ten bits: the first
part makes the high surrogate and the second one the low surrogate. -/
inductive Spells : List UInt16 → List Char → Prop where
  | nil : Spells [] []
  | basic {unit : UInt16} {c : Char} {units : List UInt16} {text : List Char} :
      unit.toNat = c.toNat → Spells units text → Spells (unit :: units) (c :: text)
  | pair {high low : UInt16} {first second : Nat} {c : Char} {units : List UInt16}
      {text : List Char} :
      first < 0x400 → second < 0x400 → c.toNat = 0x10000 + first * 0x400 + second →
      high.toNat = 0xD800 + first → low.toNat = 0xDC00 + second → Spells units text →
        Spells (high :: low :: units) (c :: text)

/-- Characters are numbered up to `0x10FFFF`. -/
theorem toNat_char_lt (c : Char) : c.toNat < 0x110000 := by
  rcases c.valid with hlow | ⟨-, hhigh⟩
  · exact Nat.lt_trans hlow (by decide)
  · exact hhigh

/-- The unit of a character of the basic plane. -/
theorem charUnits16_of_basic {unit : UInt16} {c : Char} (h : unit.toNat = c.toNat) :
    charUnits16 c = [unit] := by
  have hlt : c.toNat < 0x10000 := h ▸ unit.toNat_lt
  rw [charUnits16, if_pos hlt, ← h]
  simp

/-- The two units of any other character. -/
theorem charUnits16_of_pair {high low : UInt16} {first second : Nat} {c : Char}
    (hfirst : first < 0x400) (hsecond : second < 0x400)
    (hc : c.toNat = 0x10000 + first * 0x400 + second) (hhigh : high.toNat = 0xD800 + first)
    (hlow : low.toNat = 0xDC00 + second) : charUnits16 c = [high, low] := by
  have hlt : ¬ c.toNat < 0x10000 := by omega
  have hdiv : (c.toNat - 0x10000) / 0x400 = first := by omega
  have hmod : (c.toNat - 0x10000) % 0x400 = second := by omega
  rw [charUnits16, if_neg hlt]
  simp only [hdiv, hmod, ← hhigh, ← hlow]
  simp

/-- The unit with a number. -/
theorem toNat_toUInt16 {n : Nat} (h : n < 0x10000) : n.toUInt16.toNat = n :=
  UInt16.toNat_ofNat_of_lt' h

/-- Every character is spelled by its units. -/
theorem Spells.cons {units : List UInt16} {text : List Char} (h : Spells units text) (c : Char) :
    Spells (charUnits16 c ++ units) (c :: text) := by
  have hbound := toNat_char_lt c
  by_cases hlt : c.toNat < 0x10000
  · have hunit : c.toNat.toUInt16.toNat = c.toNat := toNat_toUInt16 hlt
    rw [charUnits16_of_basic hunit]
    exact .basic hunit h
  · obtain ⟨first, second, hfirst, hsecond, hc⟩ : ∃ first second : Nat, first < 0x400 ∧
        second < 0x400 ∧ c.toNat = 0x10000 + first * 0x400 + second :=
      ⟨(c.toNat - 0x10000) / 0x400, (c.toNat - 0x10000) % 0x400, by omega, by omega, by omega⟩
    have hhigh : (0xD800 + first).toUInt16.toNat = 0xD800 + first := toNat_toUInt16 (by omega)
    have hlow : (0xDC00 + second).toUInt16.toNat = 0xDC00 + second := toNat_toUInt16 (by omega)
    rw [charUnits16_of_pair hfirst hsecond hc hhigh hlow]
    exact .pair hfirst hsecond hc hhigh hlow h

/-- A text has one spelling, its units. -/
theorem spells_iff (units : List UInt16) (text : String) :
    Spells units text.toList ↔ units = units16 text := by
  rw [units16]
  generalize text.toList = chars
  constructor
  · intro h
    induction h with
    | nil => rfl
    | basic hunit _ ih => rw [List.flatMap_cons, charUnits16_of_basic hunit, ← ih]; rfl
    | pair hfirst hsecond hc hhigh hlow _ ih =>
      rw [List.flatMap_cons, charUnits16_of_pair hfirst hsecond hc hhigh hlow, ← ih]
      rfl
  · rintro rfl
    induction chars with
    | nil => exact .nil
    | cons c chars ih => exact ih.cons c

/-- The units of two texts, one after the other. -/
theorem units16_append (text rest : String) :
    units16 (text ++ rest) = units16 text ++ units16 rest := by
  rw [units16, String.toList_append, List.flatMap_append]
  rfl

end Text

/-! ## Sums of units -/

namespace Routing

open Text

/-- The sum of some units, each times a power of 31: the last one stands for itself, and each
one counts 31 times as much as it would in the next place. -/
def unitSum (units : List UInt16) : ℤ :=
  ∑ i : Fin units.length, (units[i].toNat : ℤ) * 31 ^ (units.length - 1 - i)

theorem unitSum_cons (unit : UInt16) (units : List UInt16) :
    unitSum (unit :: units) = unit.toNat * 31 ^ units.length + unitSum units := by
  change ∑ i : Fin (units.length + 1), ((unit :: units)[i].toNat : ℤ) * 31 ^ (units.length - i) = _
  rw [Fin.sum_univ_succ, unitSum]
  congr 1
  refine Finset.sum_congr rfl fun i _ => ?_
  have hplace : units.length - (i.succ : ℕ) = units.length - 1 - i := by
    rw [Fin.val_succ]
    omega
  rw [hplace]
  rfl

theorem unitSum_append (units more : List UInt16) :
    unitSum (units ++ more) = unitSum units * 31 ^ more.length + unitSum more := by
  induction units with
  | nil => simp [unitSum]
  | cons unit units ih =>
    rw [List.cons_append, unitSum_cons, unitSum_cons, ih, List.length_append]
    ring

/-! ## The hash -/

/-- A unit as a signed word is its number. -/
theorem toInt_unit (unit : UInt16) : unit.toUInt32.toInt32.toInt = unit.toNat := by
  have hlt := unit.toNat_lt
  have hsmall : 2 * unit.toUInt32.toBitVec.toNat < 2 ^ 32 := by
    rw [UInt32.toNat_toBitVec, UInt16.toNat_toUInt32]
    omega
  change unit.toUInt32.toBitVec.toInt = unit.toNat
  rw [BitVec.toInt_eq_toNat_of_lt hsmall, UInt32.toNat_toBitVec, UInt16.toNat_toUInt32]

/-- A word that has wrapped stands for the number modulo `2 ^ 32`. -/
theorem bmod_modEq (n : ℤ) : n.bmod (2 ^ 32) ≡ n [ZMOD 2 ^ 32] := Int.bmod_emod

/-- One more unit is taken into a hash code. -/
theorem hashUnit_modEq (code : Int32) (unit : UInt16) :
    (code * 31 + unit.toUInt32.toInt32).toInt ≡ code.toInt * 31 + unit.toNat [ZMOD 2 ^ 32] := by
  rw [Int32.toInt_add, Int32.toInt_mul, toInt_unit]
  calc
    (((code.toInt * 31).bmod (2 ^ 32) + unit.toNat).bmod (2 ^ 32) : ℤ)
      ≡ (code.toInt * 31).bmod (2 ^ 32) + unit.toNat [ZMOD 2 ^ 32] := bmod_modEq _
    _ ≡ code.toInt * 31 + unit.toNat [ZMOD 2 ^ 32] := (bmod_modEq _).add_right _

/-- Some units are taken into a hash code, one after another.  The code that is there at the
start counts as much as the units before them would. -/
theorem foldl_hashUnit_modEq (units : List UInt16) (code : Int32) :
    (units.foldl (fun hash unit => hash * 31 + unit.toUInt32.toInt32) code).toInt ≡
      code.toInt * 31 ^ units.length + unitSum units [ZMOD 2 ^ 32] := by
  induction units generalizing code with
  | nil => simp [unitSum]
  | cons unit units ih =>
    rw [List.foldl_cons, unitSum_cons]
    calc
      _ ≡ (code * 31 + unit.toUInt32.toInt32).toInt * 31 ^ units.length + unitSum units
          [ZMOD 2 ^ 32] := ih _
      _ ≡ (code.toInt * 31 + unit.toNat) * 31 ^ units.length + unitSum units [ZMOD 2 ^ 32] :=
        ((hashUnit_modEq code unit).mul_right _).add_right _
      _ = code.toInt * 31 ^ (unit :: units).length +
          (unit.toNat * 31 ^ units.length + unitSum units) := by
        rw [List.length_cons]
        ring

/-- The hash of a key is the sum of its units, modulo `2 ^ 32`. -/
theorem polynomialHash_modEq (key : String) :
    (polynomialHash key).toInt ≡ unitSum (units16 key) [ZMOD 2 ^ 32] := by
  have hall := foldl_hashUnit_modEq (units16 key) 0
  rwa [Int32.toInt_zero, zero_mul, zero_add] at hall

/-- A signed word is known from its number modulo `2 ^ 32`. -/
theorem eq_of_toInt_modEq {a b : Int32} (h : a.toInt ≡ b.toInt [ZMOD 2 ^ 32]) : a = b := by
  have ha := a.le_toInt
  have ha' := a.toInt_lt
  have hb := b.le_toInt
  have hb' := b.toInt_lt
  rw [Int.modEq_iff_dvd] at h
  apply Int32.toInt_inj.mp
  omega

/-- The hash of a key is the one signed word of 32 bits that is, modulo `2 ^ 32`, the sum of
the units that spell the key in UTF-16, each times the power of 31 for its place.  And the hash
of two texts, one after the other, is that of the first times a power of 31, the number of
units of the second, and that of the second. -/
theorem polynomialHash_unitSum (key rest : String) :
    (∀ units, Spells units key.toList ↔ units = units16 key) ∧
      (∀ code : Int32, code = polynomialHash key ↔
        code.toInt ≡ ∑ i : Fin (units16 key).length,
          ((units16 key)[i].toNat : ℤ) * 31 ^ ((units16 key).length - 1 - i) [ZMOD 2 ^ 32]) ∧
      (polynomialHash (key ++ rest)).toInt ≡
        (polynomialHash key).toInt * 31 ^ (units16 rest).length + (polynomialHash rest).toInt
          [ZMOD 2 ^ 32] := by
  refine ⟨fun units => spells_iff units key, fun code => ⟨?_, fun hcode => ?_⟩, ?_⟩
  · rintro rfl
    exact polynomialHash_modEq key
  · exact eq_of_toInt_modEq (hcode.trans (polynomialHash_modEq key).symm)
  · calc
      (polynomialHash (key ++ rest)).toInt
        ≡ unitSum (units16 key ++ units16 rest) [ZMOD 2 ^ 32] := by
          rw [← units16_append]
          exact polynomialHash_modEq _
      _ = unitSum (units16 key) * 31 ^ (units16 rest).length + unitSum (units16 rest) :=
        unitSum_append _ _
      _ ≡ (polynomialHash key).toInt * 31 ^ (units16 rest).length + (polynomialHash rest).toInt
          [ZMOD 2 ^ 32] :=
        ((polynomialHash_modEq key).symm.mul_right _).add (polynomialHash_modEq rest).symm

/-- A character outside the basic plane counts as two units. -/
example : polynomialHash "𝄞a" = (0xD834 * 31 + 0xDD1E) * 31 + 97 := by decide

end Routing

end KeyIndex
