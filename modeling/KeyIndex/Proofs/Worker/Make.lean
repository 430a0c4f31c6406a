import KeyIndex.Worker.Basic

/-!
# Workers that can be made

A worker is made from settings that pass their checks.  It is fresh, and it waits on the
terms of its settings.

Main results:

- Theorems `Worker.eq_of_make`, `Worker.fresh_of_make`: what a worker is that could be made.
- Theorem `Worker.make_unpartitioned`: a worker of a table without partitions.
-/

namespace KeyIndex

open Rendezvous

namespace Worker

variable {α : Type} {engine : Regex.Engine} {layout : Layout} {settings : Settings}
  {worker : Worker α}

/-- A worker that could be made has the filter of its settings, and is fresh. -/
theorem eq_of_make (h : make engine layout settings = .ok worker) :
    settings.check engine = .ok () ∧ settings.filter engine = .ok worker.filter ∧
      worker = { layout, filter := worker.filter, meeting := terms layout settings } := by
  unfold make at h
  cases hcheck : settings.check engine with
  | error cause =>
    rw [hcheck] at h
    cases h
  | ok _ =>
    cases hfilter : settings.filter engine with
    | error cause =>
      rw [hcheck, hfilter] at h
      cases h
    | ok filter =>
      rw [hcheck, hfilter] at h
      cases h
      exact ⟨rfl, rfl, rfl⟩

/-- It has the place that it was given, and it is in no call. -/
theorem fresh_of_make (h : make engine layout settings = .ok worker) :
    worker.phase = .fresh ∧ worker.call = none ∧ worker.layout = layout := by
  rw [(eq_of_make h).2.2]
  exact ⟨rfl, rfl, rfl⟩

end Worker

/-! ## Tables without partitions -/

/-- What describes the empty text, and no other text as a whole. -/
def Regex.emptyText : Regex := .seq (.look .start) (.seq .empty (.seq (.look .stop) .empty))

/-- The settings for a table without partitions, in which all is in one partition with
an empty name. -/
def Settings.unpartitioned : Settings := { partitions := "" }

/-- Where the parser gets with the pattern that describes the empty text only. -/
theorem Regex.Pattern.run_emptyText :
    Parser.run .initial ['^', '(', '?', ':', ')', '$'] =
      some ⟨[], [.assertion .lineStop, .group false [] .empty, .assertion .lineStart], [], false,
        []⟩ := by
  simp [Parser.run, Parser.step, Parser.afterParenthesis, Parser.primitive, skip,
    Parser.State.initial, Parser.flagChanges, Parser.openGroup, Parser.verboseAfter,
    Parser.closeGroup, Parser.State.push, Parser.State.body]
  rfl

theorem Settings.filter_unpartitioned :
    Settings.unpartitioned.filter .builtin = .ok Regex.emptyText := by
  have htext : (wholeMatch Settings.unpartitioned.partitions).toList =
      ['^', '(', '?', ':', ')', '$'] := rfl
  have hpattern : Regex.ofPattern? .builtin (wholeMatch Settings.unpartitioned.partitions) =
      some Regex.emptyText := by
    rw [Regex.ofPattern?, Regex.Pattern.parse?, htext, Regex.Pattern.run_emptyText]
    rfl
  rw [filter, hpattern]

theorem Settings.check_unpartitioned : Settings.unpartitioned.check .builtin = .ok () := by
  rw [check_eq_filter (by decide) (by decide) (by decide) (by decide), filter_unpartitioned]
  rfl

/-- With these settings a worker can be made for every layout. -/
theorem Worker.make_unpartitioned (α : Type) (layout : Layout) :
    make .builtin layout .unpartitioned = .ok
      ({ layout, filter := .emptyText, meeting := terms layout .unpartitioned } : Worker α) := by
  rw [make, Settings.check_unpartitioned, Settings.filter_unpartitioned]
  rfl

end KeyIndex
