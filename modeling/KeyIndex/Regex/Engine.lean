import KeyIndex.Regex.Size

/-!
# Engines for regular expressions

What a pattern describes does not depend on who reads it, apart from the properties of
characters that are known.  Whether it is taken at all does depend on that: an engine
refuses a pattern whose automaton would be too large, and it knows the properties of its
own version of Unicode.  So an engine is a parameter of all that compiles patterns.

Main definitions:

- `Engine`: what an engine knows.
- `Regex.ofPattern?`: the expression of the text of a pattern, if the engine takes it.
- `Engine.builtin`: an engine to run.
-/

namespace KeyIndex.Regex

/-- What an engine knows besides the syntax of patterns. -/
structure Engine where
  /-- The properties of characters. -/
  properties : Unicode.Properties
  /-- The size of the automaton of a pattern, in bytes. -/
  size : Pattern → Nat
  /-- What is said of a text that is refused. -/
  complaint : String → String

/-- The greatest size of the automaton of a pattern. -/
def maxSize : Nat := 10 * 1048576

/-- The expression of the text of a pattern. -/
def ofPattern? (engine : Engine) (text : String) : Option Regex := do
  let pattern ← Pattern.parse? text.toList
  let (r, _) ← pattern.meaning? engine.properties .initial
  if engine.size pattern ≤ maxSize then some r else none

/-- An engine to run, with the properties that have a table and the estimate of sizes.  It
does not say what is wrong with a pattern. -/
def Engine.builtin : Engine where
  properties := .builtin
  size := Pattern.estimate .builtin
  complaint _ := "regex parse error"

end KeyIndex.Regex
