import KeyIndex.Unicode.CaseFold

/-!
# Sets of characters

A set of characters is described by ranges of code points and by the operations
of sets.  Membership is decided from the description; no table is computed.

Main definitions:

- `CharSet` and `CharSet.contains`.
- `CharSet.anyCase`: the set with all characters that differ in case only.
-/

namespace KeyIndex.Unicode

/-- A description of a set of characters. -/
inductive CharSet where
  /-- The code points in one of the ranges, both ends included. -/
  | ranges (table : List (Nat × Nat))
  | union (a b : CharSet)
  | inter (a b : CharSet)
  | compl (a : CharSet)
  /-- The characters of which some case variant is in `a`. -/
  | anyCase (a : CharSet)

namespace CharSet

/-- Whether a code point is in one of the ranges of a table. -/
def inTable (table : List (Nat × Nat)) (code : Nat) : Bool :=
  table.any fun (first, last) => first ≤ code && code ≤ last

/-- Whether a character is in a set. -/
def contains : CharSet → Char → Bool
  | ranges table, c => inTable table c.toNat
  | union a b, c => a.contains c || b.contains c
  | inter a b, c => a.contains c && b.contains c
  | compl a, c => !a.contains c
  | anyCase a, c => (variants c).any a.contains

/-- The set without characters. -/
def empty : CharSet := .ranges []

/-- The set of one character. -/
def single (c : Char) : CharSet := .ranges [(c.toNat, c.toNat)]

/-- The characters from one to another, both included. -/
def range (first last : Char) : CharSet := .ranges [(first.toNat, last.toNat)]

/-- The characters of any of the sets. -/
def unions (sets : List CharSet) : CharSet := sets.foldr .union empty

/-- The characters of one set that are not in another. -/
def diff (a b : CharSet) : CharSet := .inter a (.compl b)

/-- The characters that are in exactly one of two sets. -/
def symmDiff (a b : CharSet) : CharSet := .union (a.diff b) (b.diff a)

/-- All characters. -/
def all : CharSet := .ranges [(0, 0x10FFFF)]

/-! ## Runs -/

/-- Code points at which membership in a set may change, apart from case variants. -/
def edges : CharSet → List Nat
  | ranges table => table.flatMap fun (first, last) => [first, last + 1]
  | union a b => a.edges ++ b.edges
  | inter a b => a.edges ++ b.edges
  | compl a => a.edges
  | anyCase a => a.edges

/-- Puts the code points from `start` to before `stop` in front of some runs that are
not before `stop`. -/
def addRun (start stop : Nat) : List (Nat × Nat) → List (Nat × Nat)
  | [] => [(start, stop)]
  | (first, last) :: runs =>
    if first = stop then (start, last) :: runs else (start, stop) :: (first, last) :: runs

/-- The code points of a set, apart from case variants, in runs without gaps: for each
run the first code point of it and the first one after it. -/
def runs (set : CharSet) : List (Nat × Nat) :=
  let cuts := (0 :: set.edges).mergeSort (· ≤ ·)
  (cuts.zip (cuts.drop 1 ++ [0x110000])).foldr
    (fun (start, stop) runs =>
      if start < stop && set.contains (.ofNat start) then addRun start stop runs else runs) []

@[simp] theorem contains_union (a b : CharSet) (c : Char) :
    (union a b).contains c = (a.contains c || b.contains c) := rfl

@[simp] theorem contains_inter (a b : CharSet) (c : Char) :
    (inter a b).contains c = (a.contains c && b.contains c) := rfl

@[simp] theorem contains_compl (a : CharSet) (c : Char) :
    (compl a).contains c = !a.contains c := rfl

end CharSet

end KeyIndex.Unicode
