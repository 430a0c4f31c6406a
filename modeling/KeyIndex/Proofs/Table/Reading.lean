import KeyIndex.Table.Query

/-!
# Readings of a table

What a reading of a table comes to, and what it asks, by the readings that it is built of;
and what a reading comes to with any answers at all.

Main results:

- Theorems `Reading.run_query_ok_iff`, `Reading.run_bind_ok_iff`: when a reading has a
  result.
- Theorems `Reading.eq_of_mem_run_query`, `Reading.mem_run_bind`: what a reading asks.
- Definition `Reading.Ends`: with some answers a reading comes to its end.
- Theorem `Reading.Ends.unique`: it comes to one end.
- Definition `Respondent`: who answers, and may answer by what has been answered before.
- Theorems `Reading.ends_course`, `Reading.ends_run`: with the answers of a respondent, or of a
  table, a reading comes to its end.
-/

namespace KeyIndex

namespace Reading

variable {α β : Type} {table : Table}

/-! ## Results -/

/-- A question has a result if it is answered, however its failure would be reported. -/
theorem run_query_ok_iff {query : Query} {wrap : Failure → Failure} {answer : query.Answer} :
    ((Reading.query query wrap).run table).1 = .ok answer ↔ table.answer query = .ok answer := by
  rw [Reading.query, run_ask, run_done]
  cases table.answer query with
  | ok _ => exact Iff.rfl
  | error cause => exact iff_of_false nofun nofun

/-- One reading after another has the result of the second with a result of the first. -/
theorem run_bind_ok_iff {reading : Reading α} {next : α → Reading β} {b : β} :
    ((reading.bind next).run table).1 = .ok b ↔
      ∃ a, (reading.run table).1 = .ok a ∧ ((next a).run table).1 = .ok b := by
  rw [run_bind]
  cases (reading.run table).1 with
  | ok a => simp
  | error cause => simp

/-! ## Questions -/

/-- A reading that has its result asks nothing. -/
theorem not_mem_run_pure {a : α} {query : Query} : query ∉ ((pure a : Reading α).run table).2 :=
  List.not_mem_nil

/-- A single question is what is asked. -/
theorem eq_of_mem_run_query {asked query : Query} {wrap : Failure → Failure}
    (h : query ∈ ((Reading.query asked wrap).run table).2) : query = asked :=
  List.mem_singleton.mp h

/-- What is asked in one reading after another. -/
theorem mem_run_bind {reading : Reading α} {next : α → Reading β} {query : Query}
    (h : query ∈ ((reading.bind next).run table).2) :
    query ∈ (reading.run table).2 ∨
      ∃ a, (reading.run table).1 = .ok a ∧ query ∈ ((next a).run table).2 := by
  rw [run_bind] at h
  cases hrun : (reading.run table).1 with
  | ok a =>
    rw [hrun] at h
    rcases List.mem_append.mp h with hreading | hnext
    · exact .inl hreading
    · exact .inr ⟨a, rfl, hnext⟩
  | error cause =>
    rw [hrun] at h
    exact .inl h

end Reading

/-! ## Any answers -/

/-- A question, and what was answered. -/
structure Response where
  query : Query
  answer : Except Failure query.Answer

/-- Who answers questions, one after another.  An answer may depend on all the responses before
it. -/
abbrev Respondent : Type := List Response → (query : Query) → Except Failure query.Answer

namespace Reading

variable {α β : Type}

/-- With some answers, one after another, a reading comes to its end with a result.  A
question that is asked twice may have two answers. -/
inductive Ends : Reading α → List Response → Except Failure α → Prop where
  | done (result : Except Failure α) : Ends (.done result) [] result
  | ask {query : Query} {next : Except Failure query.Answer → Reading α}
      {responses : List Response} {result : Except Failure α}
      (answer : Except Failure query.Answer) :
      Ends (next answer) responses result →
        Ends (.ask query next) (⟨query, answer⟩ :: responses) result

/-- With the same answers a reading comes to the same end. -/
theorem Ends.unique {reading : Reading α} {responses : List Response}
    {first second : Except Failure α} (hfirst : reading.Ends responses first)
    (hsecond : reading.Ends responses second) : first = second := by
  induction hfirst with
  | done result =>
    cases hsecond
    rfl
  | ask answer _ ih =>
    cases hsecond with
    | ask _ hrest => exact ih hrest

/-- With some answers that bring it to its end a reading has one result. -/
theorem Ends.result_iff {reading : Reading α} {responses : List Response}
    {result : Except Failure α} (h : reading.Ends responses result) (other : Except Failure α) :
    reading.Ends responses other ↔ other = result :=
  ⟨fun hother => hother.unique h, fun hsame => hsame ▸ h⟩

/-- The course of a reading with a respondent, after the responses that there were before it:
the responses to the reading, and its result. -/
def course (respondent : Respondent) :
    List Response → Reading α → List Response × Except Failure α
  | _, done result => ([], result)
  | past, ask query next =>
    let response : Response := ⟨query, respondent past query⟩
    let rest := course respondent (past ++ [response]) (next response.answer)
    (response :: rest.1, rest.2)

/-- With the answers of a respondent a reading comes to its end. -/
theorem ends_course (respondent : Respondent) (past : List Response) (reading : Reading α) :
    reading.Ends (reading.course respondent past).1 (reading.course respondent past).2 := by
  induction reading generalizing past with
  | done result => exact .done result
  | ask query next ih => exact .ask _ (ih (respondent past query) _)

/-- A table is a respondent that answers a question in the same way each time. -/
theorem course_table (table : Table) (past : List Response) (reading : Reading α) :
    reading.course (fun _ => table.answer) past =
      ((reading.run table).2.map fun query => ⟨query, table.answer query⟩,
        (reading.run table).1) := by
  induction reading generalizing past with
  | done result => rfl
  | ask query next ih =>
    rw [course, ih (table.answer query)]
    rfl

/-- With the answers of a table a reading comes to the result of its run. -/
theorem ends_run (table : Table) (reading : Reading α) :
    reading.Ends ((reading.run table).2.map fun query => ⟨query, table.answer query⟩)
      (reading.run table).1 := by
  have hends := reading.ends_course (fun _ => table.answer) []
  rw [course_table] at hends
  exact hends

/-- A question that is answered. -/
theorem ends_query {query : Query} (wrap : Failure → Failure) (answer : query.Answer) :
    Ends (Reading.query query wrap) [⟨query, .ok answer⟩] (.ok answer) :=
  .ask _ (.done _)

/-- One reading after another. -/
theorem Ends.bind {reading : Reading α} {next : α → Reading β} {responses more : List Response}
    {a : α} {result : Except Failure β} (h : reading.Ends responses (.ok a))
    (hnext : (next a).Ends more result) : (reading.bind next).Ends (responses ++ more) result := by
  generalize hfirst : Except.ok a = first at h
  induction h with
  | done _ =>
    subst hfirst
    exact hnext
  | ask answer _ ih => exact .ask answer (ih hfirst)

/-- A reading of whose result something is made. -/
theorem Ends.map {reading : Reading α} {responses : List Response} {a : α}
    (h : reading.Ends responses (.ok a)) (f : α → β) :
    (reading.bind fun a => pure (f a)).Ends responses (.ok (f a)) := by
  have hnext : (pure (f a) : Reading β).Ends [] (.ok (f a)) := .done _
  have hboth : (reading.bind fun a => pure (f a)).Ends (responses ++ []) (.ok (f a)) :=
    h.bind hnext
  rw [List.append_nil] at hboth
  exact hboth

end Reading

end KeyIndex
