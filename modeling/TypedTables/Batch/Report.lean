import TypedTables.File.System

/-!
# Reports

What became of the tables of a batch. A table that fails is told and noted, and the batch goes on
with the next one.
-/

namespace TypedTables

/-- A table that failed. -/
structure Failure where
  name : String
  error : TableError

/-- The tables of a batch by what became of them, in the order of the batch. -/
structure Report where
  succeeded : List String
  failed : List Failure

namespace Report

/-- Whether no table failed. -/
def isSuccess (r : Report) : Bool := r.failed.isEmpty

def summary (r : Report) : String :=
  s!"{r.succeeded.length} generated, {r.failed.length} failed"

def cons (r : Report) (name : String) : Except TableError Unit → Report
  | .ok () => { r with succeeded := name :: r.succeeded }
  | .error e => { r with failed := ⟨name, e⟩ :: r.failed }

end Report

namespace Batch

open FileSystem (log)

variable {m : Type → Type} [Monad m] [FileSystem m]

def outcome (kind name : String) : Except TableError Unit → LogLine
  | .ok () => ⟨.info, s!"generated {kind} '{name}'"⟩
  | .error e => ⟨.error, s!"{kind} '{name}' failed: {e.message}"⟩

def runEach (kind : String) (process : String → Task m Unit) : List String → m Report
  | [] => return ⟨[], []⟩
  | name :: rest => do
    log ⟨.info, s!"generate {kind} '{name}'"⟩
    let result ← (process name).run
    log (outcome kind name result)
    let report ← runEach kind process rest
    return report.cons name result

def run (kind : String) (process : String → Task m Unit) (names : List String) : m Report := do
  let report ← runEach kind process names
  log ⟨.info, s!"{kind} batch: {report.summary}"⟩
  return report

end Batch

end TypedTables
