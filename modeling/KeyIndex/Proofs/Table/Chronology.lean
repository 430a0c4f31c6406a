import KeyIndex.Proofs.Table.Replay
import KeyIndex.Table.Contents
import Mathlib.Data.Nat.Digits.Defs

/-!
# Instants and the order of time

An instant is a text, and instants are ordered as texts: the first place where two of them
differ decides.  Where they are written in as many decimal digits, this is the order of the
numbers that they denote, since a digit counts for more than all the digits after it together.
So a replay keeps a block whose instant is written like its snapshot if, and only if, the number
of the block is not above that of the snapshot.

Main definitions:

- `Text.decimal`, `Instant.number`: the number that decimal digits denote.
- `Instant.HasDigits`: an instant is written in so many decimal digits.
- `LogBlock.isInTime`: whether a block is in time for a snapshot, by the numbers.
- `LogView.Replays`: a view is the replay of those of some blocks that are of a kind.

Main results:

- Theorem `Text.lt_iff_decimal_lt`: digits in as many places are ordered as their numbers.
- Theorem `LogBlock.isVisible_eq_isInTime`: what a replay keeps can be told by the numbers.
- Theorem `LogView.chronological_of_reads`: the order of instants, and what is kept of log files
  that are read.
-/

namespace KeyIndex

/-! ## Decimal digits -/

namespace Text

/-- The number of a decimal digit. -/
def digit (c : Char) : ℕ := c.toNat - '0'.toNat

/-- The number that some decimal digits denote: the last one stands for itself, and each one
counts ten times as much as it would in the next place. -/
def decimal (digits : List Char) : ℕ := Nat.ofDigits 10 (digits.map digit).reverse

theorem decimal_cons (c : Char) (rest : List Char) :
    decimal (c :: rest) = decimal rest + 10 ^ rest.length * digit c := by
  rw [decimal, List.map_cons, Nat.ofDigits_reverse_cons, List.length_map, decimal]

variable {c d : Char} {first second : List Char}

/-- The digits stand one after another among the characters. -/
theorem toNat_eq_add_digit (h : c.isDigit) : c.toNat = '0'.toNat + digit c :=
  (Nat.add_sub_of_le (Char.isDigit_iff_toNat.mp h).1).symm

theorem digit_lt_ten (h : c.isDigit) : digit c < 10 := by
  have hlast : c.toNat ≤ '9'.toNat := (Char.isDigit_iff_toNat.mp h).2
  have hnine : '9'.toNat = '0'.toNat + 9 := rfl
  rw [toNat_eq_add_digit h] at hlast
  omega

/-- The digits are ordered as characters are. -/
theorem digit_lt_iff (hc : c.isDigit) (hd : d.isDigit) : digit c < digit d ↔ c < d := by
  have hlt : c < d ↔ c.toNat < d.toNat := Iff.rfl
  rw [hlt, toNat_eq_add_digit hc, toNat_eq_add_digit hd, Nat.add_lt_add_iff_left]

theorem digit_inj (hc : c.isDigit) (hd : d.isDigit) : digit c = digit d ↔ c = d := by
  rw [← Char.toNat_inj, toNat_eq_add_digit hc, toNat_eq_add_digit hd, Nat.add_left_cancel_iff]

/-- Digits in some places denote a number below the weight of the place before them. -/
theorem decimal_lt (h : ∀ c ∈ first, c.isDigit) : decimal first < 10 ^ first.length := by
  have hdigits : ∀ x ∈ (first.map digit).reverse, x < 10 := by
    intro x hx
    rcases List.mem_map.mp (List.mem_reverse.mp hx) with ⟨c, hc, rfl⟩
    exact digit_lt_ten (h c hc)
  have hbound := Nat.ofDigits_lt_base_pow_length (by decide) hdigits
  rwa [List.length_reverse, List.length_map] at hbound

/-- The digit with the most weight decides, and the rest only where it is the same. -/
theorem add_weight_mul_lt_iff {weight x y rest other : ℕ} (hrest : rest < weight)
    (hother : other < weight) :
    rest + weight * x < other + weight * y ↔ x < y ∨ x = y ∧ rest < other := by
  rcases Nat.lt_trichotomy x y with hlt | rfl | hgt
  · have hmul : weight * (x + 1) ≤ weight * y := Nat.mul_le_mul_left weight hlt
    rw [Nat.mul_succ] at hmul
    omega
  · omega
  · have hmul : weight * (y + 1) ≤ weight * x := Nat.mul_le_mul_left weight hgt
    rw [Nat.mul_succ] at hmul
    omega

/-- Digits in as many places are ordered as the numbers that they denote. -/
theorem lt_iff_decimal_lt (hlength : first.length = second.length)
    (hfirst : ∀ c ∈ first, c.isDigit) (hsecond : ∀ c ∈ second, c.isDigit) :
    first < second ↔ decimal first < decimal second := by
  induction first generalizing second with
  | nil =>
    rw [List.eq_nil_of_length_eq_zero hlength.symm]
    simp
  | cons c first ih =>
    cases second with
    | nil => cases hlength
    | cons d second =>
      have hrest : first.length = second.length := Nat.succ.inj hlength
      rcases List.forall_mem_cons.mp hfirst with ⟨hc, hfirst⟩
      rcases List.forall_mem_cons.mp hsecond with ⟨hd, hsecond⟩
      have hother : decimal second < 10 ^ first.length := hrest ▸ decimal_lt hsecond
      rw [List.cons_lt_cons_iff, ih hrest hfirst hsecond, decimal_cons, decimal_cons, ← hrest,
        add_weight_mul_lt_iff (decimal_lt hfirst) hother, digit_lt_iff hc hd, digit_inj hc hd]

end Text

/-! ## The numbers of instants -/

namespace Instant

/-- An instant is written in so many decimal digits. -/
structure HasDigits (instant : Instant) (width : ℕ) : Prop where
  length : instant.text.toList.length = width
  isDigit : ∀ c ∈ instant.text.toList, c.isDigit

-- The characters of the text are tested, and not all characters for being in the text.
instance (instant : Instant) (width : ℕ) : Decidable (instant.HasDigits width) :=
  decidable_of_iff (instant.text.toList.length = width ∧ instant.text.toList.all Char.isDigit)
    ⟨fun h => ⟨h.1, List.all_eq_true.mp h.2⟩, fun h => ⟨h.length, List.all_eq_true.mpr h.isDigit⟩⟩

/-- The number that the digits of an instant denote. -/
def number (instant : Instant) : ℕ := Text.decimal instant.text.toList

variable {first second : Instant} {width : ℕ}

/-- Instants in as many digits are ordered as their numbers. -/
theorem HasDigits.lt_iff (hfirst : first.HasDigits width) (hsecond : second.HasDigits width) :
    first < second ↔ first.number < second.number :=
  Text.lt_iff_decimal_lt (hfirst.length.trans hsecond.length.symm) hfirst.isDigit hsecond.isDigit

/-- Instants in as many digits are the same if their numbers are. -/
theorem HasDigits.eq_iff (hfirst : first.HasDigits width) (hsecond : second.HasDigits width) :
    first = second ↔ first.number = second.number := by
  refine ⟨congrArg number, fun hnumber => ?_⟩
  have hle : first.text ≤ second.text := String.not_lt.mp fun hlt =>
    Nat.ne_of_gt ((hsecond.lt_iff hfirst).mp hlt) hnumber
  have hge : second.text ≤ first.text := String.not_lt.mp fun hlt =>
    Nat.ne_of_lt ((hfirst.lt_iff hsecond).mp hlt) hnumber
  exact congrArg Instant.mk (String.le_antisymm hle hge)

/-- In different widths the order of the texts may not be that of the numbers. -/
example : (⟨"10"⟩ : Instant) < ⟨"9"⟩ ∧ (⟨"09"⟩ : Instant) < ⟨"10"⟩ := by decide

end Instant

/-! ## What a replay keeps -/

/-- Whether a block is in time for a snapshot: by the numbers, if its instant is in as many
digits as the snapshot. -/
def LogBlock.isInTime (asOf : Instant) (width : ℕ) (block : LogBlock) : Bool :=
  if block.instant.HasDigits width then decide (block.instant.number ≤ asOf.number)
  else block.isVisible asOf

/-- The blocks that are not later than a snapshot are those that are in time. -/
theorem LogBlock.isVisible_eq_isInTime {asOf : Instant} {width : ℕ} (h : asOf.HasDigits width) :
    LogBlock.isVisible asOf = LogBlock.isInTime asOf width := by
  funext block
  by_cases hblock : block.instant.HasDigits width
  · rw [isInTime, if_pos hblock, isVisible]
    simp only [h.lt_iff hblock, ← decide_not, Nat.not_lt]
  · rw [isInTime, if_neg hblock]

namespace LogView

open LogBlock

/-- A view is the replay of those of some blocks that are of a kind.  Of the others it has the
count, and nothing else. -/
structure Replays (view : LogView) (kept : LogBlock → Bool) (all : List LogBlock) : Prop where
  records : Records view.keys (surviving (all.filter kept))
  passedOver : view.afterSnapshot = all.countP fun block => !kept block
  rolledBack : view.rolledBack + (surviving (all.filter kept)).length =
    (all.filter kept).countP (·.operation?.isSome)

/-- A replay as of a snapshot keeps the blocks that are not later. -/
theorem replays_ofBlocks (asOf : Instant) (all : List LogBlock) :
    (ofBlocks asOf all).Replays (·.isVisible asOf) all := by
  have haccounts := Survivors.accounts_ofBlocks asOf all
  have hrolled := haccounts.rolledBack
  rw [haccounts.blocks] at hrolled
  refine ⟨?_, ?_, hrolled⟩
  · rw [ofBlocks, haccounts.blocks]
    exact records_foldl_apply _
  · rw [ofBlocks, haccounts.afterSnapshot]
    simp [isVisible]

/-- Instants that are written in as many decimal digits are ordered as the numbers that they
denote, and they are the same if the numbers are.  So the replay of log files that are all read,
as of a snapshot in some width, has a result; and of the blocks whose instants have this width
it keeps those whose number is not above that of the snapshot. -/
theorem chronological_of_reads (width : ℕ) :
    (∀ first second : Instant, first.HasDigits width → second.HasDigits width →
      (first < second ↔ first.number < second.number) ∧
        (first = second ↔ first.number = second.number)) ∧
      ∀ asOf : Instant, asOf.HasDigits width →
        ∀ (files : List (String × List LogBlock)) (schema : Schema),
          ∃ view : LogView, view.Replays (·.isInTime asOf width) (files.flatMap (·.2)) ∧
            ∀ result, (LogView.read (files.map (·.1)) schema asOf).Ends
              (files.map (.ofLog schema)) result ↔ result = .ok view := by
  refine ⟨fun first second hfirst hsecond => ?_, fun asOf hasOf files schema => ?_⟩
  · exact ⟨hfirst.lt_iff hsecond, hfirst.eq_iff hsecond⟩
  · have hends := (ends_readLogs (files.map (·.1)) schema files).map (ofBlocks asOf)
    have hreplays := replays_ofBlocks asOf (files.flatMap (·.2))
    rw [isVisible_eq_isInTime hasOf] at hreplays
    refine ⟨ofBlocks asOf (files.flatMap (·.2)), hreplays, fun result => ?_⟩
    exact hends.result_iff result

/-- A log file with a block that is in time, one that is late, and one in another width. -/
def lateFile : String × List LogBlock :=
  ("l", [⟨⟨"009"⟩, .data ["k"]⟩, ⟨⟨"011"⟩, .delete ["k"]⟩, ⟨⟨"9"⟩, .delete ["k"]⟩])

/-- The block at the instant 9 is kept as of 10, and the one at 11 is not. -/
theorem chronological_of_lateFile :
    (⟨"009"⟩ : Instant).HasDigits 3 ∧ (⟨"010"⟩ : Instant).HasDigits 3 ∧
      (⟨"009"⟩ : Instant) < ⟨"010"⟩ ∧
      lateFile.2.filter (·.isInTime ⟨"010"⟩ 3) = [⟨⟨"009"⟩, .data ["k"]⟩] ∧
      ∃ view : LogView, view.Replays (·.isInTime ⟨"010"⟩ 3) lateFile.2 ∧
        ∀ result, (LogView.read ["l"] .plain ⟨"010"⟩).Ends [.ofLog .plain lateFile] result ↔
          result = .ok view := by
  have hearly : (⟨"009"⟩ : Instant).HasDigits 3 := by decide
  have hasOf : (⟨"010"⟩ : Instant).HasDigits 3 := by decide
  rcases chronological_of_reads 3 with ⟨horder, hreads⟩
  exact ⟨hearly, hasOf, (horder _ _ hearly hasOf).1.mpr (by decide), by decide,
    hreads _ hasOf [lateFile] .plain⟩

end LogView

end KeyIndex
