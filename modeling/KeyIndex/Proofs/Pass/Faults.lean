import KeyIndex.Proofs.Pass.Course

/-!
# Where a pass can fail

A reading of a table fails by nothing but a failure among the answers that it gets, and
neither does a pass over a table whose output takes every entry.  So a table that
answers all that it is asked is loaded to the end.

Main results:

- Theorems `Reading.Fair.query`, `Reading.Fair.bind`: how such readings are built.
- Theorems `fair_liveSlices`, `fair_keys`: the readings of a pass.
- Theorems `Pass.fair_load`, `Pass.load_of_answers`: the pass of a worker.
-/

namespace KeyIndex

/-- A result that is no failure. -/
@[simp] theorem isOk_ok {ε α : Type} (a : α) : (Except.ok a : Except ε α).isOk = true := rfl

/-- A failure. -/
@[simp] theorem isOk_error {ε α : Type} (e : ε) : (Except.error e : Except ε α).isOk = false := rfl

/-- A failure stays one, whatever it is reported as. -/
@[simp] theorem isOk_mapError {ε α : Type} (wrap : ε → ε) (result : Except ε α) :
    (result.mapError wrap).isOk = result.isOk := by
  cases result <;> rfl

/-- A result that is no failure has a value. -/
theorem exists_ok_iff {ε α : Type} {result : Except ε α} :
    (∃ a, result = .ok a) ↔ result.isOk := by
  cases result <;> simp

/-- The table answers all of some questions. -/
def Table.Answers (table : Table) (asked : List Query) : Prop :=
  ∀ query ∈ asked, (table.answer query).isOk

@[simp] theorem Table.answers_nil (table : Table) : table.Answers [] := by
  simp [Table.Answers]

@[simp] theorem Table.answers_append (table : Table) (asked more : List Query) :
    table.Answers (asked ++ more) ↔ table.Answers asked ∧ table.Answers more := by
  simp only [Table.Answers, List.mem_append, or_imp, forall_and]

@[simp] theorem Table.answers_cons (table : Table) (query : Query) (asked : List Query) :
    table.Answers (query :: asked) ↔ (table.answer query).isOk ∧ table.Answers asked := by
  simp [Table.Answers]

/-! ## Readings -/

namespace Reading

variable {α β : Type}

/-- A reading that succeeds just when everything that it asks is answered. -/
def Fair (reading : Reading α) : Prop :=
  ∀ table, (reading.run table).1.isOk ↔ table.Answers (reading.run table).2

theorem Fair.pure (a : α) : Fair (pure a : Reading α) := by
  intro table
  exact iff_of_true rfl (table.answers_nil)

/-- A question whose failure is reported as it is. -/
theorem query_id (query : Query) : Reading.query query id = ask query done := by
  refine congrArg (ask query) (funext fun answer => ?_)
  cases answer <;> rfl

/-- A single question is answered or not, however its failure is reported. -/
theorem Fair.query (query : Query) (wrap : Failure → Failure) :
    Fair (Reading.query query wrap) := by
  intro table
  simp [Reading.query]

/-- Two readings one after another. -/
theorem Fair.bind {reading : Reading α} {next : α → Reading β} (hfirst : Fair reading)
    (hnext : ∀ a, Fair (next a)) : Fair (reading.bind next) := by
  intro table
  have hfair := hfirst table
  rw [run_bind]
  cases hrun : (reading.run table).1 with
  | ok a =>
    have hanswers : table.Answers (reading.run table).2 := hfair.mp (by simp [hrun])
    simpa [hanswers] using hnext a table
  | error cause =>
    have hnot : ¬ table.Answers (reading.run table).2 := by
      intro hanswers
      simpa [hrun] using hfair.mpr hanswers
    simp [hnot]

end Reading

open Reading

theorem fair_liveSlices (partition : String) (instant : Instant) :
    Fair (liveSlices partition instant) :=
  .bind (.query _ _) fun _ => .pure _

theorem fair_readLogs (all : List String) (schema : Schema) (paths : List String) :
    Fair (readLogs all schema paths) := by
  induction paths with
  | nil => exact .pure []
  | cons path paths ih => exact .bind (.query _ _) fun _ => .bind ih fun _ => .pure _

theorem fair_baseKeys (slice : FileSlice) : Fair slice.baseKeys := by
  unfold FileSlice.baseKeys
  split
  · exact .pure []
  · exact .query _ _

/-- The keys of a slice are found just when all its files can be read. -/
theorem fair_keys (slice : FileSlice) (schema : Schema) (asOf : Instant) :
    Fair (slice.keys schema asOf) := by
  refine .bind (fair_baseKeys slice) fun base => ?_
  dsimp only
  split
  · exact .pure _
  · exact .bind (.bind (fair_readLogs _ _ _) fun _ => .pure _) fun _ => .pure _

/-! ## Passes -/

namespace Pass

/-- A pass that succeeds just when everything that it asks is answered. -/
def Fair (pass : Pass) : Prop :=
  ∀ table, (pass.result table).isOk ↔ table.Answers (pass.asked table)

theorem Fair.done : Fair .done := by
  intro table
  exact iff_of_true rfl table.answers_nil

theorem Fair.count {counter : Counter} {next : Pass} (hnext : Fair next) :
    Fair (.count counter next) := hnext

theorem Fair.emitAll {sending : List IndexEntry} {next : Pass} (hnext : Fair next) :
    Fair (emitAll sending next) := by
  intro table
  rw [result_emitAll, asked_emitAll]
  exact hnext table

theorem Fair.read {α : Type} {reading : Reading α} {next : α → Pass}
    (hreading : reading.Fair) (hnext : ∀ a, Fair (next a)) : Fair (read reading next) := by
  intro table
  have hfair := hreading table
  rw [result_read, asked, events_read]
  cases hrun : (reading.run table).1 with
  | ok a =>
    have hanswers : table.Answers (reading.run table).2 :=
      hfair.mp (by simp [hrun])
    simpa [hanswers, asked] using hnext a table
  | error cause =>
    have hnot : ¬ table.Answers (reading.run table).2 := by
      intro hanswers
      simpa [hrun] using hfair.mpr hanswers
    simpa using hnot

variable (layout : Layout) (filter : Regex) (schema : Schema) (asOf : Instant)

theorem fair_loadSlices {next : Pass} (hnext : Fair next) (slices : List FileSlice) :
    Fair (loadSlices layout schema asOf slices next) := by
  induction slices with
  | nil => exact hnext
  | cons slice slices ih =>
    unfold loadSlices
    split
    · exact .read (fair_keys slice schema asOf) fun _ => .emitAll (.count ih)
    · exact .count ih

theorem fair_loadPartitions {next : Pass} (hnext : Fair next) (partitions : List String) :
    Fair (loadPartitions layout filter schema asOf partitions next) := by
  induction partitions with
  | nil => exact hnext
  | cons partition partitions ih =>
    unfold loadPartitions
    split
    · exact .read (fair_liveSlices partition asOf) fun slices =>
        fair_loadSlices layout schema asOf (.count ih) slices
    · exact .count ih

/-- The load of a worker succeeds just when the table answers all that it asks. -/
theorem fair_load : Fair (load layout filter) := by
  refine .read (.query _ _) fun latest => ?_
  cases latest with
  | none => exact .done
  | some asOf =>
    exact .read (.query _ _) fun schema => .read (.query _ _) fun partitions =>
      fair_loadPartitions layout filter schema asOf .done partitions

/-- A load over a table that answers all that it asks comes to its end. -/
theorem load_of_answers {table : Table} {layout : Layout} {filter : Regex}
    (h : table.Answers ((load layout filter).asked table)) :
    (load layout filter).result table = .ok () := by
  rcases exists_ok_iff.mpr ((fair_load layout filter table).mpr h) with ⟨_, hload⟩
  exact hload

end Pass

end KeyIndex
