import KeyIndex.Layout
import KeyIndex.Text.Quoted

/-!
# Failures

What can go wrong while the index of a table is loaded.  A failure to read a file
of a slice carries the failure of the reader as its cause.

Main definitions:

- `Failure`: the causes.
- `Failure.message`: their texts.
-/

namespace KeyIndex

/-- Why an operation failed. -/
inductive Failure where
  /-- The file system refused. -/
  | io (text : String)
  /-- The storage of the table failed. -/
  | storage (text : String)
  /-- The commits of the table could not be listed. -/
  | timeline (text : String)
  /-- The schema of the table is not known. -/
  | schema (text : String)
  /-- A file could not be decoded. -/
  | decode (text : String)
  /-- The base file of a slice could not be read. -/
  | baseFile (path : String) (cause : Failure)
  /-- One of the log files of a slice could not be read. -/
  | logFiles (paths : List String) (cause : Failure)
  /-- The place where workers register did not answer. -/
  | registry (text : String)
  /-- Not all workers registered in time.  The time `waited` is in milliseconds. -/
  | timedOut (rendezvous : String) (registered expected waited : Nat)
  /-- Nobody takes the output any more. -/
  | outputClosed
  /-- An earlier pass of the worker failed or was given up. -/
  | incomplete (worker : UInt32)
  /-- The settings are not valid. -/
  | settings (text : String)
  /-- The partition filter is no pattern. -/
  | pattern (text : String)
  /-- The place of the worker in its job is not valid. -/
  | layout (cause : LayoutError)
deriving DecidableEq, Inhabited

/-- The text of a failure. -/
def Failure.message : Failure → String
  | .io text => "I/O error: " ++ text
  | .storage text => "Storage error: " ++ text
  | .timeline text => "Timeline error: " ++ text
  | .schema text => "Schema error: " ++ text
  | .decode text => "Decode error: " ++ text
  | .baseFile path _ => "Error when loading record keys from file: " ++ path
  | .logFiles paths _ =>
    "Error when loading record keys from files: " ++ Text.quotedList paths
  | .registry text => "Registry error: " ++ text
  | .timedOut rendezvous registered expected waited =>
    s!"Barrier {rendezvous} timed out after {waited} ms with {registered}/{expected} workers"
  | .outputClosed => "Output channel closed"
  | .incomplete worker => s!"Bootstrap of worker {worker} did not complete"
  | .settings text => "Configuration error: " ++ text
  | .pattern text => "Invalid partition filter: " ++ text
  | .layout cause => "Invalid worker layout: " ++ cause.message

end KeyIndex
