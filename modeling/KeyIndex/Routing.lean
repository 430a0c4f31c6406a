import KeyIndex.Text.Units

/-!
# Routing of keys to workers

A key is hashed to a key group, and the key groups are split into contiguous
ranges, one for each worker.  Changing the number of workers moves whole key
groups only, and what a worker owns is what live traffic with the same key is
routed to.

All arithmetic is on machine words: the hash wraps at 32 bits, the products of
routing are taken in 64 bits, where they are exact, and results are cut to 32.

Main definitions:

- `polynomialHash`, `scramble`, `keyGroup`: from a key to its key group.
- `workerOfGroup`, `workerOfKey`: from a key group, or a key, to its worker.
- `groupRange`: the key groups of a worker.
-/

namespace KeyIndex.Routing

/-! ## From keys to key groups -/

/-- The polynomial with base 31 over the UTF-16 units of a key, modulo `2 ^ 32`,
as a signed number. -/
def polynomialHash (key : String) : Int32 :=
  (Text.units16 key).foldl (fun hash unit => hash * 31 + unit.toUInt32.toInt32) 0

/-- Turns the bits of a word to the left. -/
def rotateLeft (h : UInt32) (amount : UInt32) : UInt32 := (h <<< amount) ||| (h >>> (32 - amount))

/-- The final avalanche of a 32-bit hash: each bit of the input reaches each bit of
the result. -/
def avalanche (h : UInt32) : UInt32 :=
  let h := h ^^^ (h >>> 16)
  let h := h * 0x85ebca6b
  let h := h ^^^ (h >>> 13)
  let h := h * 0xc2b2ae35
  h ^^^ (h >>> 16)

/-- One round of mixing for a four-byte message.  Every step can be undone, so
different words stay different. -/
def mixWord (h : UInt32) : UInt32 :=
  let h := h * 0xcc9e2d51
  let h := rotateLeft h 15
  let h := h * 0x1b873593
  let h := rotateLeft h 13
  let h := h * 5 + 0xe6546b64
  avalanche (h ^^^ 4)

/-- The magnitude of a signed word, with zero for the one word that has none. -/
def magnitude (n : Int32) : Int32 :=
  if 0 ≤ n then n else if n = Int32.minValue then 0 else -n

/-- A hash code mixed and made non-negative. -/
def scramble (code : Int32) : Int32 := magnitude (mixWord code.toUInt32).toInt32

/-- The key group of a key, among `groups` of them. -/
def keyGroup (key : String) (groups : UInt32) : UInt32 :=
  (scramble (polynomialHash key)).toUInt32 % max groups 1

/-! ## From key groups to workers -/

/-- The worker of a key group: the group's share of all groups, as a share of the
workers, rounded down. -/
def workerOfGroup (group groups workers : UInt32) : UInt32 :=
  (group.toUInt64 * workers.toUInt64 / (max groups 1).toUInt64).toUInt32

/-- The worker that a key is routed to. -/
def workerOfKey (key : String) (groups workers : UInt32) : UInt32 :=
  workerOfGroup (keyGroup key groups) groups workers

/-- Whether a key is routed to the given worker. -/
def isRoutedTo (key : String) (groups workers worker : UInt32) : Bool :=
  workerOfKey key groups workers == worker

/-- Key groups `first`, ..., `last`; none when `last` is below `first`. -/
structure GroupRange where
  first : UInt32
  last : UInt32
deriving DecidableEq

/-- Whether a range contains a key group. -/
def GroupRange.contains (range : GroupRange) (group : UInt32) : Bool :=
  range.first ≤ group && group ≤ range.last

/-- The quotient of two words, rounded up. -/
def divUp (a b : UInt64) : UInt64 := if a % b = 0 then a / b else a / b + 1

/-- The key groups of a worker: from the first one whose share reaches the
worker's, to the last one before the next worker's. -/
def groupRange (worker groups workers : UInt32) : GroupRange :=
  let total := (max workers 1).toUInt64
  let first := divUp (worker.toUInt64 * groups.toUInt64) total
  let last := ((worker.toUInt64 + 1) * groups.toUInt64 - 1) / total
  ⟨first.toUInt32, last.toUInt32⟩

end KeyIndex.Routing
