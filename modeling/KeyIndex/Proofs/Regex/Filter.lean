import KeyIndex.Proofs.Regex.Group
import KeyIndex.Proofs.Regex.Matcher
import KeyIndex.Settings
import Mathlib

/-!
# The filter for partitions

The pattern of the settings is put into a group, and the start and the end of the text are
asked for around it.  The filter that this gives describes what the pattern describes of whole
texts, as long as the pattern can be read alone.  A pattern that closes the group and opens
another one gives a filter too, which has no such meaning.

Main definitions:

- `Regex.whole`: the expression that describes a whole text, or nothing of it.
- `Regex.Engine.SizeGrows`: what is asked of an engine's sizes.

Main results:

- Theorem `Regex.occurs_whole_iff`: the whole text is described.
- Theorem `Regex.ofPattern?_wholeMatch`: the expression of a pattern that was put into a group.
- Theorem `Settings.filter_of_check`: what the filter of settings describes that pass their
  check.
- Theorem `Settings.occurs_unbalanced`: a filter that lets more through.
-/

namespace KeyIndex

namespace Regex

/-! ## Whole texts -/

/-- The start of a text, what is described, and the end of the text. -/
def whole (r : Regex) : Regex := sequence [.look .start, r, .look .stop]

/-- All of a text is described when some part of it is that starts where the text does, and ends
where it does. -/
theorem occurs_whole_iff (r : Regex) (text : Chars) : r.whole.Occurs text ↔ r.Covers text := by
  constructor
  · rintro ⟨i, j, -, first, ⟨rfl, hstart⟩, last, hspans, stop, ⟨rfl, hstop⟩, rfl⟩
    have hfirst : first = 0 := by simpa [Look.holds] using hstart
    have hlast : j = text.size := by simpa [Look.holds] using hstop
    rw [Covers]
    rw [hfirst, hlast] at hspans
    exact hspans
  · intro hcovers
    exact ⟨0, text.size, Nat.zero_le _, 0, ⟨rfl, by simp [Look.holds]⟩, text.size, hcovers,
      text.size, ⟨rfl, by simp [Look.holds]⟩, rfl⟩

/-! ## Patterns in a group -/

namespace Pattern

/-- A pattern in a group, between the start and the end of the text. -/
def whole (p : Pattern) : Pattern :=
  .concat [.assertion .lineStart, .group false [] p, .assertion .lineStop]

theorem depth_le_whole (p : Pattern) : p.depth ≤ p.whole.depth := by
  have hdepth : p.whole.depth = max 0 (max (p.depth + 1) (max 0 0)) + 1 := rfl
  omega

/-- A group keeps its flags to itself, so that the assertions around it are about the text. -/
theorem meaning?_whole (properties : Unicode.Properties) (p : Pattern) :
    p.whole.meaning? properties .initial =
      (p.meaning? properties .initial).map fun read => (read.1.whole, Flags.initial) := by
  have hflags : Flags.initial.apply [] = Flags.initial := rfl
  have hstart : Assertion.meaning .initial .lineStart = Look.start := rfl
  simp only [whole, meaning?, meanings?, Option.bind_eq_bind, Option.bind_some, hflags, hstart]
  cases p.meaning? properties .initial <;> rfl

/-- What was put into a group is read alone, unless it closes the group. -/
theorem parse?_wholeMatch {text : String} {p : Pattern}
    (h : parse? (Settings.wholeMatch text).toList = some p) :
    Parser.ClosesOutside .initial text.toList ∨
      ∃ own, parse? text.toList = some own ∧ p = own.whole := by
  have htext : (Settings.wholeMatch text).toList =
      '^' :: '(' :: '?' :: ':' :: (text.toList ++ closing) := by
    simp [Settings.wholeMatch, closing]
  rw [parse?, htext, Parser.run_opening] at h
  rcases Option.bind_eq_some_iff.mp h with ⟨last, hrun, hlast⟩
  split at hlast
  · rename_i hcheck
    simp only [Bool.and_eq_true, List.isEmpty_iff, decide_eq_true_eq] at hcheck
    cases hlast
    rcases Parser.run_within hrun hcheck.1 with houtside | ⟨own, hown, hframes, hclosed⟩
    · exact .inl houtside
    · have hbody : last.body = own.body.whole := by
        rw [hclosed]
        rfl
      have hdepth : own.body.depth ≤ maxDepth :=
        Nat.le_trans (depth_le_whole own.body) (hbody ▸ hcheck.2)
      refine .inr ⟨own.body, ?_, hbody⟩
      simp [parse?, hown, hframes, hdepth]
  · cases hlast

end Pattern

/-! ## Sizes -/

namespace Engine

/-- An engine takes no more for a pattern alone than for the pattern as a whole.  The group adds
nothing, and the assertions around it have states of their own. -/
def SizeGrows (engine : Engine) : Prop := ∀ p : Pattern, engine.size p ≤ engine.size p.whole

/-- So it is with the estimate. -/
theorem sizeGrows_builtin : builtin.SizeGrows := by
  intro p
  have hmarked : p.whole.marked = p.marked.whole := rfl
  have hsize : ∀ r : Regex, r.whole.size = 32 + (r.size + (32 + 32)) := fun _ => rfl
  simp only [builtin, Pattern.estimate, hmarked, Pattern.meaning?_whole]
  cases p.marked.meaning? .builtin .initial with
  | none => exact Nat.le_refl _
  | some read =>
    simp only [Option.map_some, hsize]
    omega

end Engine

variable {engine : Engine}

/-- The expression of a pattern that was put into a group between the start and the end of the
text. -/
theorem ofPattern?_wholeMatch {text : String} {filter : Regex} (hsize : engine.SizeGrows)
    (h : ofPattern? engine (Settings.wholeMatch text) = some filter) :
    Pattern.Parser.ClosesOutside .initial text.toList ∨
      ∃ r, ofPattern? engine text = some r ∧ filter = r.whole := by
  rcases Option.bind_eq_some_iff.mp h with ⟨p, hparse, hmeaning⟩
  rcases Pattern.parse?_wholeMatch hparse with houtside | ⟨own, hown, rfl⟩
  · exact .inl houtside
  · rw [Pattern.meaning?_whole] at hmeaning
    rcases Option.bind_eq_some_iff.mp hmeaning with ⟨read, hread, hfits⟩
    rcases Option.map_eq_some_iff.mp hread with ⟨⟨r, flags⟩, hr, rfl⟩
    dsimp only at hfits
    split at hfits
    · rename_i hless
      cases hfits
      have halone : engine.size own ≤ maxSize := Nat.le_trans (hsize own) hless
      refine .inr ⟨r, ?_, rfl⟩
      simp [ofPattern?, hown, hr, halone]
    · cases hfits

/-- A pattern that closes a group around it is none alone. -/
theorem ofPattern?_of_closesOutside {text : String}
    (h : Pattern.Parser.ClosesOutside .initial text.toList) : ofPattern? engine text = none := by
  simp [ofPattern?, Pattern.parse?, Pattern.Parser.run_of_closesOutside h]

end Regex

/-! ## The filter of settings -/

namespace Settings

variable {settings : Settings} {engine : Regex.Engine}

/-- Settings that pass their check have a filter. -/
theorem exists_filter_of_check (h : settings.check engine = .ok ()) :
    ∃ filter, settings.filter engine = .ok filter := by
  unfold check at h
  split at h
  · cases h
  split at h
  · cases h
  split at h
  · cases h
  split at h
  · cases h
  cases hfilter : settings.filter engine with
  | error cause =>
    rw [hfilter] at h
    cases h
  | ok filter => exact ⟨filter, rfl⟩

theorem ofPattern?_of_filter {filter : Regex} (h : settings.filter engine = .ok filter) :
    Regex.ofPattern? engine (wholeMatch settings.partitions) = some filter := by
  unfold Settings.filter at h
  split at h
  · cases h
    assumption
  · cases h

/-- The filter of settings that pass their check, whatever properties the engine knows.  It
lets through what the pattern describes as a whole, if the pattern can be read alone.  If it
cannot, this is because it closes a group that it has not opened, and takes the one that was put
around it. -/
theorem filter_of_check (hsize : engine.SizeGrows) (h : settings.check engine = .ok ()) :
    ∃ filter, settings.filter engine = .ok filter ∧
      ((∃ r, Regex.ofPattern? engine settings.partitions = some r ∧
          ∀ path : String, filter.occurs path = true ↔ r.Covers path.toList.toArray) ∨
        Regex.ofPattern? engine settings.partitions = none ∧
          Regex.Pattern.Parser.ClosesOutside .initial settings.partitions.toList) := by
  rcases exists_filter_of_check h with ⟨filter, hfilter⟩
  refine ⟨filter, hfilter, ?_⟩
  rcases Regex.ofPattern?_wholeMatch hsize (ofPattern?_of_filter hfilter) with
    houtside | ⟨r, hr, rfl⟩
  · exact .inr ⟨Regex.ofPattern?_of_closesOutside houtside, houtside⟩
  · refine .inl ⟨r, hr, fun path => ?_⟩
    rw [Regex.occurs_iff, Regex.occurs_whole_iff]

/-- Settings with nothing but a pattern pass their check if the pattern gives a filter. -/
theorem check_of_filter {text : String} {filter : Regex}
    (h : ({ partitions := text } : Settings).filter engine = .ok filter) :
    ({ partitions := text } : Settings).check engine = .ok () := by
  have hname : defaultRendezvous.isEmpty = false := by decide
  have hinterval : (Duration.ofSeconds 5).isZero = false := by decide
  have hmarker : defaultMarkerFile.isEmpty = false := by decide
  rw [@check_eq_filter { partitions := text } engine hname hinterval rfl hmarker, h]
  rfl

/-- One of two partitions. -/
def eitherPartition : Settings := { partitions := "a|b" }

/-- The choice is one of whole texts. -/
theorem filter_eitherPartition :
    Regex.Engine.builtin.SizeGrows ∧ eitherPartition.check .builtin = .ok () ∧
      ∃ filter, eitherPartition.filter .builtin = .ok filter ∧
        ((∃ r, Regex.ofPattern? .builtin eitherPartition.partitions = some r ∧
            ∀ path : String, filter.occurs path = true ↔ r.Covers path.toList.toArray) ∨
          Regex.ofPattern? .builtin eitherPartition.partitions = none ∧
            Regex.Pattern.Parser.ClosesOutside .initial eitherPartition.partitions.toList) := by
  have hfilter : eitherPartition.filter .builtin = .ok
      (Regex.either (.one (.single 'a')) (.one (.single 'b'))).whole := by cbv
  have hcheck : eitherPartition.check .builtin = .ok () := check_of_filter hfilter
  exact ⟨Regex.Engine.sizeGrows_builtin, hcheck,
    filter_of_check Regex.Engine.sizeGrows_builtin hcheck⟩

/-- A pattern that closes a group and opens another one. -/
def unbalanced : Settings := { partitions := "a)|(b" }

/-- The settings pass their check, and their filter lets a text through of which it describes
only the start.  The pattern alone is none that describes a text. -/
theorem occurs_unbalanced :
    ¬ ∀ settings : Settings, settings.check .builtin = .ok () → ∀ path : String,
      (∃ filter, settings.filter .builtin = .ok filter ∧ filter.occurs path = true) ↔
        ∃ r, Regex.ofPattern? .builtin settings.partitions = some r ∧
          r.Covers path.toList.toArray := by
  intro hall
  have hfilter : unbalanced.filter .builtin = .ok
      (.either (.seq (.look .start) (.seq (.one (.single 'a')) .empty))
        (.seq (.one (.single 'b')) (.seq (.look .stop) .empty))) := by cbv
  have hnone : Regex.ofPattern? .builtin unbalanced.partitions = none := by cbv
  rcases (hall unbalanced (check_of_filter hfilter) "ax").mp ⟨_, hfilter, by cbv⟩ with
    ⟨r, hr, -⟩
  rw [hnone] at hr
  cases hr

end Settings

end KeyIndex
