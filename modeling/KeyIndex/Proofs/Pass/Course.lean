import KeyIndex.Worker.Pass

/-!
# The course of a pass

A pass takes its course with the answers that it gets.  Some part of a course leads
from a pass to what is left of it, as long as the output takes every entry.  Over a
table, which gives the same question the same answer each time, the whole course of a
pass is determined, and every course with the answers of the table is a part of it.

Main results:

- Definition `Pass.Leads`: some events lead from a pass to another.
- Definitions `Pass.events`, `Pass.result`: the course of a pass over a table.
- Theorem `Pass.Leads.events_eq`: a course with the answers of a table is a part of
  the course over that table.
- Theorems `Pass.events_read`, `Pass.events_emitAll`: the course of a pass that is
  built of readings and entries.
-/

namespace KeyIndex

namespace Pass

/-! ## Events -/

/-- One thing that happens in a pass. -/
inductive Event where
  /-- A question had the given answer. -/
  | asked (query : Query) (answer : Except Failure query.Answer)
  /-- An entry was taken by the output. -/
  | sent (entry : IndexEntry)
  /-- Something was counted. -/
  | counted (counter : Counter)

namespace Event

/-- The question of an event, if it is one. -/
def query? : Event → Option Query
  | asked query _ => some query
  | _ => none

/-- The entry of an event, if one was sent. -/
def entry? : Event → Option IndexEntry
  | sent entry => some entry
  | _ => none

/-- What an event counted, if anything. -/
def counter? : Event → Option Counter
  | counted counter => some counter
  | _ => none

/-- The questions that were asked, in order. -/
def queries (events : List Event) : List Query := events.filterMap query?

/-- The entries that were sent, in order. -/
def entries (events : List Event) : List IndexEntry := events.filterMap entry?

/-- What was counted, in order. -/
def counters (events : List Event) : List Counter := events.filterMap counter?

@[simp] theorem queries_nil : queries [] = [] := rfl

@[simp] theorem entries_nil : entries [] = [] := rfl

@[simp] theorem counters_nil : counters [] = [] := rfl

@[simp] theorem queries_append (events more : List Event) :
    queries (events ++ more) = queries events ++ queries more :=
  List.filterMap_append

@[simp] theorem entries_append (events more : List Event) :
    entries (events ++ more) = entries events ++ entries more :=
  List.filterMap_append

@[simp] theorem counters_append (events more : List Event) :
    counters (events ++ more) = counters events ++ counters more :=
  List.filterMap_append

/-- The event of a question to a table. -/
def ofQuery (table : Table) (query : Query) : Event := asked query (table.answer query)

@[simp] theorem queries_map_ofQuery (table : Table) (asked : List Query) :
    queries (asked.map (ofQuery table)) = asked := by
  simp [queries, List.filterMap_map, Function.comp_def, ofQuery, query?]

@[simp] theorem entries_map_ofQuery (table : Table) (asked : List Query) :
    entries (asked.map (ofQuery table)) = [] := by
  simp [entries, List.filterMap_map, Function.comp_def, ofQuery, entry?]

@[simp] theorem counters_map_ofQuery (table : Table) (asked : List Query) :
    counters (asked.map (ofQuery table)) = [] := by
  simp [counters, List.filterMap_map, Function.comp_def, ofQuery, counter?]

@[simp] theorem queries_map_sent (sending : List IndexEntry) :
    queries (sending.map sent) = [] := by
  simp [queries, List.filterMap_map, Function.comp_def, query?]

@[simp] theorem entries_map_sent (sending : List IndexEntry) :
    entries (sending.map sent) = sending := by
  simp [entries, List.filterMap_map, Function.comp_def, entry?]

@[simp] theorem counters_map_sent (sending : List IndexEntry) :
    counters (sending.map sent) = [] := by
  simp [counters, List.filterMap_map, Function.comp_def, counter?]

end Event

/-! ## Courses with any answers -/

/-- The events lead from one pass to another, which is what is left of it. -/
inductive Leads : Pass → List Event → Pass → Prop where
  | refl (pass : Pass) : Leads pass [] pass
  | ask {query : Query} {next : Except Failure query.Answer → Pass} {events : List Event}
      {rest : Pass} (answer : Except Failure query.Answer) :
      Leads (next answer) events rest →
        Leads (.ask query next) (.asked query answer :: events) rest
  | emit {entry : IndexEntry} {next rest : Pass} {events : List Event} :
      Leads next events rest → Leads (.emit entry next) (.sent entry :: events) rest
  | count {counter : Counter} {next rest : Pass} {events : List Event} :
      Leads next events rest → Leads (.count counter next) (.counted counter :: events) rest

/-- One course after another. -/
theorem Leads.append {pass middle rest : Pass} {events more : List Event}
    (h : Leads pass events middle) (hmore : Leads middle more rest) :
    Leads pass (events ++ more) rest := by
  induction h with
  | refl pass => exact hmore
  | ask answer _ ih => exact .ask answer (ih hmore)
  | emit _ ih => exact .emit (ih hmore)
  | count _ ih => exact .count (ih hmore)

/-- A course to a question, and the answer to it. -/
theorem Leads.asked {pass : Pass} {events : List Event} {query : Query}
    {next : Except Failure query.Answer → Pass} (h : Leads pass events (.ask query next))
    (answer : Except Failure query.Answer) :
    Leads pass (events ++ [.asked query answer]) (next answer) :=
  h.append (.ask answer (.refl _))

/-- A course to an entry, and its sending. -/
theorem Leads.sent {pass next : Pass} {events : List Event} {entry : IndexEntry}
    (h : Leads pass events (.emit entry next)) : Leads pass (events ++ [.sent entry]) next :=
  h.append (.emit (.refl _))

/-- A course to something that is counted. -/
theorem Leads.counted {pass next : Pass} {events : List Event} {counter : Counter}
    (h : Leads pass events (.count counter next)) :
    Leads pass (events ++ [.counted counter]) next :=
  h.append (.count (.refl _))

/-! ## The course over a table -/

/-- What happens in a pass over a table whose output takes every entry. -/
def events (table : Table) : Pass → List Event
  | done => []
  | failed _ => []
  | ask query next => .ofQuery table query :: events table (next (table.answer query))
  | emit entry next => .sent entry :: events table next
  | count counter next => .counted counter :: events table next

/-- The result of a pass over a table whose output takes every entry. -/
def result (table : Table) : Pass → Except Failure Unit
  | done => .ok ()
  | failed cause => .error cause
  | ask query next => result table (next (table.answer query))
  | emit _ next => result table next
  | count _ next => result table next

/-- The questions that a pass over a table asks, in order. -/
def asked (table : Table) (pass : Pass) : List Query := Event.queries (pass.events table)

/-- The entries that a pass over a table sends, in order. -/
def entries (table : Table) (pass : Pass) : List IndexEntry :=
  Event.entries (pass.events table)

/-- What a pass over a table counts, in order. -/
def counters (table : Table) (pass : Pass) : List Counter :=
  Event.counters (pass.events table)

/-- The table gave the answers that are recorded in some events. -/
def Answered (table : Table) (events : List Event) : Prop :=
  ∀ query answer, .asked query answer ∈ events → table.answer query = answer

/-- The course over a table leads to where the pass stops. -/
theorem leads_events (table : Table) (pass : Pass) :
    Leads pass (pass.events table)
      (match pass.result table with
        | .ok () => .done
        | .error cause => .failed cause) := by
  induction pass with
  | done => exact .refl _
  | failed cause => exact .refl _
  | ask query next ih => exact .ask _ (ih (table.answer query))
  | emit entry next ih => exact .emit ih
  | count counter next ih => exact .count ih

/-- The course over a table has the answers of the table. -/
theorem answered_events (table : Table) (pass : Pass) : Answered table (pass.events table) := by
  induction pass with
  | done => simp [Answered, events]
  | failed cause => simp [Answered, events]
  | ask query next ih =>
    intro other answer hmem
    rcases List.mem_cons.mp hmem with heq | hmem
    · cases heq
      rfl
    · exact ih (table.answer query) other answer hmem
  | emit entry next ih => simpa [Answered, events] using ih
  | count counter next ih => simpa [Answered, events] using ih

/-- A course with the answers of a table is a part of the course over the table. -/
theorem Leads.events_eq {table : Table} {pass rest : Pass} {events : List Event}
    (h : Leads pass events rest) (hanswered : Answered table events) :
    pass.events table = events ++ rest.events table ∧
      pass.result table = rest.result table := by
  induction h with
  | refl pass => exact ⟨rfl, rfl⟩
  | @ask query next events rest answer _ ih =>
    have hanswer : table.answer query = answer := hanswered query answer (by simp)
    have hrest := ih fun other reply hmem => hanswered other reply (by simp [hmem])
    subst hanswer
    exact ⟨congrArg (Event.ofQuery table query :: ·) hrest.1, hrest.2⟩
  | @emit entry next rest events _ ih =>
    have hrest := ih fun other reply hmem => hanswered other reply (by simp [hmem])
    exact ⟨congrArg (Event.sent entry :: ·) hrest.1, hrest.2⟩
  | @count counter next rest events _ ih =>
    have hrest := ih fun other reply hmem => hanswered other reply (by simp [hmem])
    exact ⟨congrArg (Event.counted counter :: ·) hrest.1, hrest.2⟩

/-! ## Passes that are built of readings and entries -/

variable {α : Type}

/-- The course of a reading and what follows from it: the questions of the reading, and
then, if it succeeds, what follows. -/
theorem events_read (table : Table) (reading : Reading α) (next : α → Pass) :
    (read reading next).events table =
      (reading.run table).2.map (Event.ofQuery table) ++
        match (reading.run table).1 with
        | .ok a => (next a).events table
        | .error _ => [] := by
  induction reading with
  | done result => cases result <;> rfl
  | ask query rest ih =>
    rw [read, events, ih (table.answer query)]
    rfl

/-- A reading and what follows from it succeed if both do. -/
theorem result_read (table : Table) (reading : Reading α) (next : α → Pass) :
    (read reading next).result table =
      match (reading.run table).1 with
      | .ok a => (next a).result table
      | .error cause => .error cause := by
  induction reading with
  | done result => cases result <;> rfl
  | ask query rest ih =>
    rw [read, result, ih (table.answer query)]
    rfl

/-- The course of some entries and what follows them. -/
theorem events_emitAll (table : Table) (sending : List IndexEntry) (next : Pass) :
    (emitAll sending next).events table = sending.map .sent ++ next.events table := by
  induction sending with
  | nil => rfl
  | cons entry rest ih => exact congrArg (Event.sent entry :: ·) ih

@[simp] theorem result_emitAll (table : Table) (sending : List IndexEntry) (next : Pass) :
    (emitAll sending next).result table = next.result table := by
  induction sending with
  | nil => rfl
  | cons entry rest ih => exact ih

@[simp] theorem asked_emitAll (table : Table) (sending : List IndexEntry) (next : Pass) :
    (emitAll sending next).asked table = next.asked table := by
  simp [asked, events_emitAll]

@[simp] theorem entries_emitAll (table : Table) (sending : List IndexEntry) (next : Pass) :
    (emitAll sending next).entries table = sending ++ next.entries table := by
  simp [entries, events_emitAll]

@[simp] theorem counters_emitAll (table : Table) (sending : List IndexEntry) (next : Pass) :
    (emitAll sending next).counters table = next.counters table := by
  simp [counters, events_emitAll]

@[simp] theorem result_count (table : Table) (counter : Counter) (next : Pass) :
    (count counter next).result table = next.result table := rfl

@[simp] theorem asked_count (table : Table) (counter : Counter) (next : Pass) :
    (count counter next).asked table = next.asked table := rfl

@[simp] theorem entries_count (table : Table) (counter : Counter) (next : Pass) :
    (count counter next).entries table = next.entries table := rfl

@[simp] theorem counters_count (table : Table) (counter : Counter) (next : Pass) :
    (count counter next).counters table = counter :: next.counters table := rfl

/-- What comes after a reading succeeds if the reading has a result with which it does. -/
theorem read_ok_iff {table : Table} {reading : Reading α} {next : α → Pass} :
    (read reading next).result table = .ok () ↔
      ∃ a, (reading.run table).1 = .ok a ∧ (next a).result table = .ok () := by
  rw [result_read]
  cases (reading.run table).1 <;> simp

/-- What succeeds after a reading has the result of the reading, which itself sends
nothing and counts nothing. -/
theorem exists_of_read_ok {table : Table} {reading : Reading α} {next : α → Pass}
    (h : (read reading next).result table = .ok ()) :
    ∃ a, (reading.run table).1 = .ok a ∧ (next a).result table = .ok () ∧
      (read reading next).entries table = (next a).entries table ∧
      (read reading next).counters table = (next a).counters table := by
  rcases read_ok_iff.mp h with ⟨a, hrun, hnext⟩
  rw [entries, counters, events_read, hrun]
  exact ⟨a, rfl, hnext, by simp [entries], by simp [counters]⟩

end Pass

end KeyIndex
