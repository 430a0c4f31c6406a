import KeyIndex.Proofs.Routing.Owner
import Mathlib.Algebra.Order.Floor.Div
import Mathlib.Order.Interval.Finset.Nat

/-!
# The key groups of a worker

The range of a worker and the routing of key groups say the same.  A key group is routed to a
worker by a quotient that is rounded down, and the range of the worker begins at a quotient that
is rounded up and ends below the next one.  Both say between which two multiples of the number of
key groups a product lies, and that is what the proofs go by: rounding up is the lower adjoint of
multiplication, so that no quotient has to be taken apart.

Main definitions:

- `Routing.workerOfGroup?`, `Routing.groupRange?`: routing with arithmetic that fails where a
  result does not fit.
- `Routing.groupCount`: how many key groups are routed to a worker.

Main results:

- Theorem `Routing.workerOfGroup_eq_iff`: which key groups are routed to a worker.
- Theorems `Routing.toNat_first`, `Routing.toNat_last`: the ends of a range, rounded up.
- Theorem `Routing.groupRange_inverse`: a range contains what is routed to its worker, and
  nothing overflows on the way.
- Theorem `Routing.groupCount_even`: the key groups are spread evenly.
-/

namespace KeyIndex.Routing

variable {group worker groups workers : UInt32}

/-! ## Quotients rounded up -/

/-- A share rounded down is `w` from the first multiple that reaches `w`, up to the next one. -/
theorem share_eq_iff {g m t w : Nat} (hm : 0 < m) (ht : 0 < t) :
    g * t / m = w ↔ w * m ⌈/⌉ t ≤ g ∧ g < (w + 1) * m ⌈/⌉ t := by
  rw [ceilDiv_le_iff_le_mul ht, ← not_le, ceilDiv_le_iff_le_mul ht, not_le, mul_comm t g]
  constructor
  · rintro rfl
    constructor
    · exact Nat.div_mul_le_self _ _
    · exact Nat.lt_mul_of_div_lt (Nat.lt_succ_self _) hm
  · rintro ⟨hlow, hhigh⟩
    apply Nat.le_antisymm
    · exact Nat.lt_succ_iff.mp ((Nat.div_lt_iff_lt_mul hm).mpr hhigh)
    · exact (Nat.le_div_iff_mul_le hm).mpr hlow

/-- From one multiple to the next, quotients that are rounded up grow by at least the quotient
of what is added, rounded down. -/
theorem ceilDiv_add_le {a m t : Nat} (ht : 0 < t) : a ⌈/⌉ t + m / t ≤ (a + m) ⌈/⌉ t := by
  have hup : a + m ≤ t * ((a + m) ⌈/⌉ t) := (ceilDiv_le_iff_le_mul ht).mp le_rfl
  have hdown : t * (m / t) ≤ m := Nat.mul_div_le m t
  have hlow : a ⌈/⌉ t ≤ (a + m) ⌈/⌉ t - m / t := by
    rw [ceilDiv_le_iff_le_mul ht, Nat.mul_sub]
    omega
  have hfits : m / t ≤ (a + m) ⌈/⌉ t := by
    refine Nat.le_of_mul_le_mul_left ?_ ht
    omega
  omega

/-- They grow by at most the quotient of what is added, rounded up. -/
theorem le_ceilDiv_add {a m t : Nat} (ht : 0 < t) : (a + m) ⌈/⌉ t ≤ a ⌈/⌉ t + m ⌈/⌉ t := by
  have hfirst : a ≤ t * (a ⌈/⌉ t) := (ceilDiv_le_iff_le_mul ht).mp le_rfl
  have hsecond : m ≤ t * (m ⌈/⌉ t) := (ceilDiv_le_iff_le_mul ht).mp le_rfl
  rw [ceilDiv_le_iff_le_mul ht, Nat.mul_add]
  omega

/-- Rounding up gives at most one more than rounding down. -/
theorem ceilDiv_le_succ {m t : Nat} (ht : 0 < t) : m ⌈/⌉ t ≤ m / t + 1 := by
  rw [ceilDiv_le_iff_le_mul ht]
  exact (Nat.lt_mul_div_succ m ht).le

/-- A quotient is rounded up by adding one to it, unless the division leaves no rest. -/
theorem ceilDiv_eq {m t : Nat} (ht : 0 < t) :
    m ⌈/⌉ t = if m % t = 0 then m / t else m / t + 1 := by
  have hsplit : t * (m / t) + m % t = m := Nat.div_add_mod m t
  split
  · apply Nat.le_antisymm
    · rw [ceilDiv_le_iff_le_mul ht]
      omega
    · exact (floorDiv_le_ceilDiv : m ⌊/⌋ t ≤ m ⌈/⌉ t)
  · apply Nat.le_antisymm (ceilDiv_le_succ ht)
    apply Nat.succ_le_of_lt
    rw [← not_le, ceilDiv_le_iff_le_mul ht]
    omega

/-! ## The ends of a range -/

/-- Nothing is below zero. -/
theorem ne_zero_of_lt {a b : UInt32} (h : a < b) : b ≠ 0 := by
  rintro rfl
  exact UInt32.not_lt_zero h

/-- A quotient is less than what is divided if the division leaves a rest, so that there is
room for one more. -/
theorem div_add_one_lt {a b : UInt64} (hrest : a.toNat % b.toNat ≠ 0) :
    a.toNat / b.toNat + 1 < 2 ^ 64 := by
  have hsize : a.toNat < 2 ^ 64 := a.toNat_lt
  rcases Nat.eq_zero_or_pos b.toNat with hzero | hpos
  · rw [hzero, Nat.div_zero]
    decide
  · have hsplit : b.toNat * (a.toNat / b.toNat) + a.toNat % b.toNat = a.toNat :=
      Nat.div_add_mod _ _
    have hquotient : a.toNat / b.toNat ≤ b.toNat * (a.toNat / b.toNat) :=
      Nat.le_mul_of_pos_left _ hpos
    omega

/-- Whether a division of words leaves a rest. -/
theorem mod_eq_zero_iff {a b : UInt64} : a % b = 0 ↔ a.toNat % b.toNat = 0 := by
  rw [← UInt64.toNat_inj, UInt64.toNat_mod]
  rfl

/-- The quotient of two words, rounded up, is that of their numbers. -/
theorem toNat_divUp {a b : UInt64} (hb : 0 < b.toNat) :
    (divUp a b).toNat = a.toNat ⌈/⌉ b.toNat := by
  rw [divUp, ceilDiv_eq hb]
  by_cases hrest : a.toNat % b.toNat = 0
  · rw [if_pos (mod_eq_zero_iff.mpr hrest), if_pos hrest, UInt64.toNat_div]
  · rw [if_neg (fun h => hrest (mod_eq_zero_iff.mp h)), if_neg hrest, UInt64.toNat_add,
      UInt64.toNat_div]
    exact Nat.mod_eq_of_lt (div_add_one_lt hrest)

/-- The number after that of a worker fits. -/
theorem toNat_next (worker : UInt32) : (worker.toUInt64 + 1).toNat = worker.toNat + 1 := by
  have hworker : worker.toNat < 2 ^ 32 := worker.toNat_lt
  rw [UInt64.toNat_add, UInt32.toNat_toUInt64]
  apply Nat.mod_eq_of_lt
  rw [UInt64.toNat_one]
  omega

/-- The product for the next worker is below `2 ^ 64`. -/
theorem next_mul_lt (worker groups : UInt32) :
    (worker.toNat + 1) * groups.toNat < 2 ^ 64 := by
  calc
    (worker.toNat + 1) * groups.toNat ≤ 2 ^ 32 * groups.toNat :=
      Nat.mul_le_mul_right _ worker.toNat_lt
    _ < 2 ^ 32 * 2 ^ 32 := Nat.mul_lt_mul_of_pos_left groups.toNat_lt (by decide)
    _ = 2 ^ 64 := by decide

/-- The product for the next worker fits. -/
theorem toNat_next_mul (worker groups : UInt32) :
    ((worker.toUInt64 + 1) * groups.toUInt64).toNat = (worker.toNat + 1) * groups.toNat := by
  rw [UInt64.toNat_mul, toNat_next, UInt32.toNat_toUInt64]
  exact Nat.mod_eq_of_lt (next_mul_lt worker groups)

section Layout

variable (hworker : worker < workers) (hgroups : workers ≤ groups)
include hworker hgroups

/-- The numbers of a layout: there are workers, and key groups for each of them. -/
theorem layout_bounds :
    worker.toNat < workers.toNat ∧ workers.toNat ≤ groups.toNat ∧ 0 < workers.toNat ∧
      0 < groups.toNat := by
  have hlt : worker.toNat < workers.toNat := UInt32.lt_iff_toNat_lt.mp hworker
  have hle : workers.toNat ≤ groups.toNat := UInt32.le_iff_toNat_le.mp hgroups
  omega

/-- The key groups of the workers up to one end below the number of key groups. -/
theorem ceilDiv_next_le : (worker.toNat + 1) * groups.toNat ⌈/⌉ workers.toNat ≤ groups.toNat := by
  rcases layout_bounds hworker hgroups with ⟨hlt, -, hpos, -⟩
  rw [ceilDiv_le_iff_le_mul hpos]
  exact Nat.mul_le_mul_right _ hlt

/-- There is a key group between one worker and the next. -/
theorem ceilDiv_lt_next :
    worker.toNat * groups.toNat ⌈/⌉ workers.toNat <
      (worker.toNat + 1) * groups.toNat ⌈/⌉ workers.toNat := by
  rcases layout_bounds hworker hgroups with ⟨-, hle, hpos, -⟩
  have hone : 1 ≤ groups.toNat / workers.toNat := (Nat.one_le_div_iff hpos).mpr hle
  rw [Nat.add_one_mul]
  exact lt_of_lt_of_le (Nat.lt_add_of_pos_right hone) (ceilDiv_add_le hpos)

/-- The share of the workers before a worker, rounded up. -/
theorem toNat_divUp_share :
    (divUp (worker.toUInt64 * groups.toUInt64) workers.toUInt64).toNat =
      worker.toNat * groups.toNat ⌈/⌉ workers.toNat := by
  rcases layout_bounds hworker hgroups with ⟨-, -, hpos, -⟩
  rw [toNat_divUp (by rwa [UInt32.toNat_toUInt64]), toNat_mul_toUInt64, UInt32.toNat_toUInt64]

/-- There is something to take one from. -/
theorem one_le_next_mul : (1 : UInt64) ≤ (worker.toUInt64 + 1) * groups.toUInt64 := by
  rcases layout_bounds hworker hgroups with ⟨-, -, -, hgroupsPos⟩
  rw [UInt64.le_iff_toNat_le, toNat_next_mul]
  exact Nat.mul_pos (Nat.succ_pos _) hgroupsPos

/-- One less than the share of the workers up to a worker, rounded up. -/
theorem toNat_div_next :
    (((worker.toUInt64 + 1) * groups.toUInt64 - 1) / workers.toUInt64).toNat + 1 =
      (worker.toNat + 1) * groups.toNat ⌈/⌉ workers.toNat := by
  rcases layout_bounds hworker hgroups with ⟨-, -, hpos, hgroupsPos⟩
  have hone := one_le_next_mul hworker hgroups
  have hproduct : 1 ≤ (worker.toNat + 1) * groups.toNat := Nat.mul_pos (Nat.succ_pos _) hgroupsPos
  rw [UInt64.toNat_div, UInt64.toNat_sub_of_le _ _ hone, toNat_next_mul, UInt32.toNat_toUInt64,
    UInt64.toNat_one, Nat.ceilDiv_eq_add_pred_div, ← Nat.add_div_right _ hpos]
  congr 1
  omega

/-- A range begins at the share of the workers before its worker, rounded up. -/
theorem toNat_first :
    (groupRange worker groups workers).first.toNat =
      worker.toNat * groups.toNat ⌈/⌉ workers.toNat := by
  have hshare := toNat_divUp_share hworker hgroups
  have hlt := ceilDiv_lt_next hworker hgroups
  have hle := ceilDiv_next_le hworker hgroups
  have hsize : groups.toNat < 2 ^ 32 := groups.toNat_lt
  have hworkers := ne_zero_of_lt hworker
  rw [groupRange, max_one hworkers, UInt64.toNat_toUInt32, hshare]
  exact Nat.mod_eq_of_lt (by omega)

/-- A range ends before the share of the workers up to its worker, rounded up. -/
theorem toNat_last :
    (groupRange worker groups workers).last.toNat + 1 =
      (worker.toNat + 1) * groups.toNat ⌈/⌉ workers.toNat := by
  have hnext := toNat_div_next hworker hgroups
  have hle := ceilDiv_next_le hworker hgroups
  have hsize : groups.toNat < 2 ^ 32 := groups.toNat_lt
  have hworkers := ne_zero_of_lt hworker
  rw [groupRange, max_one hworkers, UInt64.toNat_toUInt32, Nat.mod_eq_of_lt (by omega), hnext]

/-- The key groups of a worker are those between the shares, rounded up. -/
theorem workerOfGroup_eq_iff (hgroup : group < groups) :
    workerOfGroup group groups workers = worker ↔
      worker.toNat * groups.toNat ⌈/⌉ workers.toNat ≤ group.toNat ∧
        group.toNat < (worker.toNat + 1) * groups.toNat ⌈/⌉ workers.toNat := by
  rcases layout_bounds hworker hgroups with ⟨-, -, hpos, hgroupsPos⟩
  rw [← UInt32.toNat_inj, toNat_workerOfGroup workers hgroup]
  exact share_eq_iff hgroupsPos hpos

end Layout

/-! ## Arithmetic that fails where a result does not fit -/

/-- A product of words, if it fits. -/
def mul? (a b : UInt64) : Option UInt64 :=
  if a.toNat * b.toNat < 2 ^ 64 then some (a * b) else none

/-- A sum of words, if it fits. -/
def add? (a b : UInt64) : Option UInt64 :=
  if a.toNat + b.toNat < 2 ^ 64 then some (a + b) else none

/-- A difference of words, if it is not negative. -/
def sub? (a b : UInt64) : Option UInt64 := if b ≤ a then some (a - b) else none

/-- The lower half of a word, if the word has nothing else. -/
def cut? (a : UInt64) : Option UInt32 := if a.toNat < 2 ^ 32 then some a.toUInt32 else none

/-- The quotient of two words, rounded up, if it fits. -/
def divUp? (a b : UInt64) : Option UInt64 := if a % b = 0 then some (a / b) else add? (a / b) 1

/-- The worker of a key group, as `workerOfGroup` computes it, if everything fits. -/
def workerOfGroup? (group groups workers : UInt32) : Option UInt32 := do
  let product ← mul? group.toUInt64 workers.toUInt64
  cut? (product / (max groups 1).toUInt64)

/-- The key groups of a worker, as `groupRange` computes them, if everything fits. -/
def groupRange? (worker groups workers : UInt32) : Option GroupRange := do
  let total := (max workers 1).toUInt64
  let before ← mul? worker.toUInt64 groups.toUInt64
  let first ← cut? (← divUp? before total)
  let next ← add? worker.toUInt64 1
  let upTo ← mul? next groups.toUInt64
  let last ← cut? ((← sub? upTo 1) / total)
  return ⟨first, last⟩

/-- The product of two words of 32 bits fits. -/
theorem mul?_eq (a b : UInt32) :
    mul? a.toUInt64 b.toUInt64 = some (a.toUInt64 * b.toUInt64) := by
  have hfits : a.toNat * b.toNat < 2 ^ 32 * 2 ^ 32 := Nat.mul_lt_mul'' a.toNat_lt b.toNat_lt
  rw [mul?, if_pos]
  rw [UInt32.toNat_toUInt64, UInt32.toNat_toUInt64]
  exact hfits

/-- A quotient that is rounded up fits. -/
theorem divUp?_eq (a b : UInt64) : divUp? a b = some (divUp a b) := by
  unfold divUp? divUp
  split
  · rfl
  · rename_i hrest
    rw [add?, if_pos]
    rw [UInt64.toNat_div]
    exact div_add_one_lt (fun h => hrest (mod_eq_zero_iff.mpr h))

/-- Nothing overflows when a key group is routed. -/
theorem workerOfGroup?_eq (workers : UInt32) (hgroup : group < groups) :
    workerOfGroup? group groups workers = some (workerOfGroup group groups workers) := by
  have hlt : group.toNat < groups.toNat := UInt32.lt_iff_toNat_lt.mp hgroup
  have hgroups := ne_zero_of_lt hgroup
  have hquotient : group.toNat * workers.toNat / groups.toNat ≤ workers.toNat := by
    apply Nat.div_le_of_le_mul
    exact Nat.mul_le_mul_right _ hlt.le
  have hsize : workers.toNat < 2 ^ 32 := workers.toNat_lt
  rw [workerOfGroup?, mul?_eq, Option.bind_eq_bind, Option.bind_some, cut?, if_pos]
  · rfl
  · rw [max_one hgroups, UInt64.toNat_div, toNat_mul_toUInt64, UInt32.toNat_toUInt64]
    omega

/-- Nothing overflows when the range of a worker is computed. -/
theorem groupRange?_eq (hworker : worker < workers) (hgroups : workers ≤ groups) :
    groupRange? worker groups workers = some (groupRange worker groups workers) := by
  have hshare := toNat_divUp_share hworker hgroups
  have hnext := toNat_div_next hworker hgroups
  have hlt := ceilDiv_lt_next hworker hgroups
  have hle := ceilDiv_next_le hworker hgroups
  have hsize : groups.toNat < 2 ^ 32 := groups.toNat_lt
  have hworkers := ne_zero_of_lt hworker
  have hadd : add? worker.toUInt64 1 = some (worker.toUInt64 + 1) := by
    have hworkerSize : worker.toNat < 2 ^ 32 := worker.toNat_lt
    rw [add?, if_pos]
    rw [UInt32.toNat_toUInt64, UInt64.toNat_one]
    omega
  have hmul : mul? (worker.toUInt64 + 1) groups.toUInt64 =
      some ((worker.toUInt64 + 1) * groups.toUInt64) := by
    rw [mul?, if_pos]
    rw [toNat_next, UInt32.toNat_toUInt64]
    exact next_mul_lt worker groups
  have hsub : sub? ((worker.toUInt64 + 1) * groups.toUInt64) 1 =
      some ((worker.toUInt64 + 1) * groups.toUInt64 - 1) :=
    if_pos (one_le_next_mul hworker hgroups)
  have hfirst : cut? (divUp (worker.toUInt64 * groups.toUInt64) workers.toUInt64) =
      some (groupRange worker groups workers).first := by
    rw [cut?, if_pos (by omega), groupRange, max_one hworkers]
  have hlast : cut? (((worker.toUInt64 + 1) * groups.toUInt64 - 1) / workers.toUInt64) =
      some (groupRange worker groups workers).last := by
    rw [cut?, if_pos (by omega), groupRange, max_one hworkers]
  simp only [groupRange?, max_one hworkers, mul?_eq, divUp?_eq, hadd, hmul, hsub, hfirst, hlast,
    Option.bind_eq_bind, Option.bind_some, Option.pure_def]

/-! ## Ranges and routing -/

/-- The range of a worker and routing are inverse to each other: a key group is routed to the
worker exactly if the range of the worker contains it.  No range is empty, and none goes beyond
the key groups.  The worker of a key group is the exact quotient, rounded down, and is one of
the workers.  No product, sum or difference overflows on the way, and nothing is cut off. -/
theorem groupRange_inverse (hworker : worker < workers) (hgroups : workers ≤ groups) :
    (∀ group < groups,
      (workerOfGroup group groups workers = worker ↔
        (groupRange worker groups workers).contains group) ∧
      (workerOfGroup group groups workers).toNat =
        group.toNat * workers.toNat / groups.toNat ∧
      workerOfGroup group groups workers < workers ∧
      workerOfGroup? group groups workers = some (workerOfGroup group groups workers)) ∧
    (groupRange worker groups workers).first ≤ (groupRange worker groups workers).last ∧
    (groupRange worker groups workers).last < groups ∧
    groupRange? worker groups workers = some (groupRange worker groups workers) := by
  have hfirst := toNat_first hworker hgroups
  have hlast := toNat_last hworker hgroups
  have hlt := ceilDiv_lt_next hworker hgroups
  have hle := ceilDiv_next_le hworker hgroups
  have hworkers := ne_zero_of_lt hworker
  refine ⟨?_, ?_, ?_, groupRange?_eq hworker hgroups⟩
  · intro group hgroup
    refine ⟨?_, toNat_workerOfGroup workers hgroup, workerOfGroup_lt hgroup hworkers,
      workerOfGroup?_eq workers hgroup⟩
    rw [workerOfGroup_eq_iff hworker hgroups hgroup, GroupRange.contains, Bool.and_eq_true,
      decide_eq_true_eq, decide_eq_true_eq, UInt32.le_iff_toNat_le, UInt32.le_iff_toNat_le]
    omega
  · rw [UInt32.le_iff_toNat_le]
    omega
  · rw [UInt32.lt_iff_toNat_lt]
    omega

/-- The last of `2 ^ 32 - 2` workers, over `2 ^ 32 - 1` key groups. -/
theorem groupRange_inverse_widest :
    (4294967293 : UInt32) < 4294967294 ∧ (4294967294 : UInt32) ≤ 4294967295 ∧
      groupRange 4294967293 4294967295 4294967294 = ⟨4294967294, 4294967294⟩ ∧
      (∀ group < (4294967295 : UInt32),
        (workerOfGroup group 4294967295 4294967294 = 4294967293 ↔
          (groupRange 4294967293 4294967295 4294967294).contains group) ∧
        (workerOfGroup group 4294967295 4294967294).toNat =
          group.toNat * (4294967294 : UInt32).toNat / (4294967295 : UInt32).toNat ∧
        workerOfGroup group 4294967295 4294967294 < 4294967294 ∧
        workerOfGroup? group 4294967295 4294967294 =
          some (workerOfGroup group 4294967295 4294967294)) ∧
      groupRange? 4294967293 4294967295 4294967294 =
        some (groupRange 4294967293 4294967295 4294967294) :=
  have hinverse := groupRange_inverse (by decide) (by decide)
  ⟨by decide, by decide, by decide, hinverse.1, hinverse.2.2.2⟩

/-! ## How many key groups a worker has -/

/-- How many of the key groups are routed to a worker. -/
def groupCount (worker groups workers : UInt32) : Nat :=
  ((Finset.range groups.toNat).filter fun group =>
    workerOfGroup group.toUInt32 groups workers = worker).card

/-- The key groups of a worker are those from one share up to the next. -/
theorem groupCount_eq (hworker : worker < workers) (hgroups : workers ≤ groups) :
    groupCount worker groups workers =
      (worker.toNat + 1) * groups.toNat ⌈/⌉ workers.toNat -
        worker.toNat * groups.toNat ⌈/⌉ workers.toNat := by
  have hle := ceilDiv_next_le hworker hgroups
  have hsize : groups.toNat < 2 ^ 32 := groups.toNat_lt
  have hrouted : ∀ number < groups.toNat,
      (workerOfGroup number.toUInt32 groups workers = worker ↔
        worker.toNat * groups.toNat ⌈/⌉ workers.toNat ≤ number ∧
          number < (worker.toNat + 1) * groups.toNat ⌈/⌉ workers.toNat) := by
    intro number hnumber
    have hword : number.toUInt32.toNat = number := Nat.mod_eq_of_lt (by omega)
    have hgroup : number.toUInt32 < groups := by
      rw [UInt32.lt_iff_toNat_lt, hword]
      exact hnumber
    rw [workerOfGroup_eq_iff hworker hgroups hgroup, hword]
  rw [groupCount, ← Nat.card_Ico]
  congr 1
  ext number
  rw [Finset.mem_filter, Finset.mem_range, Finset.mem_Ico]
  constructor
  · rintro ⟨hnumber, h⟩
    exact (hrouted number hnumber).mp h
  · intro h
    have hnumber : number < groups.toNat := by omega
    exact ⟨hnumber, (hrouted number hnumber).mpr h⟩

/-- The key groups are spread evenly: each worker has their number divided by that of the
workers, rounded down or rounded up. -/
theorem groupCount_even (hworker : worker < workers) (hgroups : workers ≤ groups) :
    groupCount worker groups workers = groups.toNat / workers.toNat ∨
      groupCount worker groups workers = groups.toNat ⌈/⌉ workers.toNat := by
  rcases layout_bounds hworker hgroups with ⟨-, -, hpos, -⟩
  have hcount := groupCount_eq hworker hgroups
  rw [Nat.add_one_mul] at hcount
  have hlow := ceilDiv_add_le (a := worker.toNat * groups.toNat) (m := groups.toNat) hpos
  have hhigh := le_ceilDiv_add (a := worker.toNat * groups.toNat) (m := groups.toNat) hpos
  have hstep := ceilDiv_le_succ (m := groups.toNat) hpos
  omega

/-- The second of three workers, over 128 key groups. -/
theorem groupCount_even_second :
    (1 : UInt32) < 3 ∧ (3 : UInt32) ≤ 128 ∧
      (groupCount 1 128 3 = 128 / 3 ∨ groupCount 1 128 3 = 128 ⌈/⌉ 3) :=
  ⟨by decide, by decide, groupCount_even (by decide) (by decide)⟩

end KeyIndex.Routing
