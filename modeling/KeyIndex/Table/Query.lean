import KeyIndex.Failure
import KeyIndex.Table.Log
import KeyIndex.Table.Schema
import KeyIndex.Text.Quoted

/-!
# Questions to a table, and readings of it

A table is what answers questions: for its latest commit, its schema, its
partitions, the slices of a partition, and what is in a file.  A reading is a
computation that asks such questions, one after another, each of them chosen by the
answers before it.

Main definitions:

- `Query`, `Query.Answer`, `Table`: the questions, the type of their answers, and
  what gives the answers.
- `Reading`: computations that ask.
- `Reading.run`: the result of a reading of a table, and all that it asked.
-/

namespace KeyIndex

/-! ## Questions and answers -/

/-- A question to a table. -/
inductive Query where
  /-- Which commit is the latest one, if there is any? -/
  | latestInstant
  /-- What is the schema? -/
  | schema
  /-- Which partitions are there? -/
  | partitions
  /-- What are the file slices of a partition, as of an instant? -/
  | slices (partition : String) (instant : Instant)
  /-- What are the keys in a base file? -/
  | baseKeys (path : String)
  /-- What are the blocks of a log file? -/
  | logBlocks (path : String) (schema : Schema)
deriving Inhabited

/-- What answers a question. -/
def Query.Answer : Query → Type
  | latestInstant => Option Instant
  | schema => Schema
  | partitions => List String
  | slices .. => List FileSlice
  | baseKeys _ => List RecordKey
  | logBlocks .. => List LogBlock

/-- A table, with the path it is at. -/
structure Table where
  basePath : String
  answer : (query : Query) → Except Failure query.Answer

/-- A table as it stands in messages. -/
def Table.text (table : Table) : String :=
  r"TableContext { base_path: " ++ Text.quoted table.basePath ++ r", .. }"

/-- The table with another answer to the question for its partitions. -/
def Table.withPartitions (table : Table) (partitions : Except Failure (List String)) : Table where
  basePath := table.basePath
  answer
    | .partitions => partitions
    | query => table.answer query

/-! ## Readings -/

/-- A computation that asks questions. -/
inductive Reading (α : Type) where
  /-- The computation has its result. -/
  | done (result : Except Failure α)
  /-- A question is asked, and the computation goes on with the answer. -/
  | ask (query : Query) (next : Except Failure query.Answer → Reading α)

namespace Reading

variable {α β : Type}

/-- One reading after another.  A failure of the first is the failure of both. -/
def bind : Reading α → (α → Reading β) → Reading β
  | done (.ok a), next => next a
  | done (.error cause), _ => done (.error cause)
  | ask query rest, next => ask query fun answer => (rest answer).bind next

instance : Monad Reading where
  pure a := done (.ok a)
  bind := bind

/-- A reading and nothing after it is the reading. -/
theorem bind_pure_self (reading : Reading α) : reading.bind pure = reading := by
  induction reading with
  | done result => cases result <;> rfl
  | ask query next ih => exact congrArg (ask query) (funext ih)

/-- Readings one after another may be put together in any way. -/
theorem bind_assoc {γ : Type} (reading : Reading α) (f : α → Reading β) (g : β → Reading γ) :
    (reading.bind f).bind g = reading.bind fun a => (f a).bind g := by
  induction reading with
  | done result => cases result <;> rfl
  | ask query next ih => exact congrArg (ask query) (funext ih)

instance : LawfulMonad Reading :=
  LawfulMonad.mk' Reading bind_pure_self (fun _ _ => rfl) bind_assoc

/-- Asks one question.  Its failure is reported as `wrap` says. -/
def query (query : Query) (wrap : Failure → Failure) : Reading query.Answer :=
  ask query fun answer => done (answer.mapError wrap)

/-- The result of a reading of a table, and the questions it asked, in order. -/
def run (table : Table) : Reading α → Except Failure α × List Query
  | done result => (result, [])
  | ask query next =>
    let (result, queries) := run table (next (table.answer query))
    (result, query :: queries)

@[simp] theorem run_done (table : Table) (result : Except Failure α) :
    (done result).run table = (result, []) := rfl

@[simp] theorem run_ask (table : Table) (query : Query)
    (next : Except Failure query.Answer → Reading α) :
    (ask query next).run table =
      (((next (table.answer query)).run table).1,
        query :: ((next (table.answer query)).run table).2) := rfl

/-- One reading after another asks what the first asks, and then, if it succeeds, what
the second asks. -/
theorem run_bind (table : Table) (reading : Reading α) (f : α → Reading β) :
    (reading.bind f).run table =
      match (reading.run table).1 with
      | .ok a => (((f a).run table).1, (reading.run table).2 ++ ((f a).run table).2)
      | .error cause => (.error cause, (reading.run table).2) := by
  induction reading with
  | done result => cases result <;> rfl
  | ask query next ih =>
    rw [bind, run_ask, run_ask, ih (table.answer query)]
    cases ((next (table.answer query)).run table).1 <;> rfl

end Reading

end KeyIndex
