import TypedTables.Wire.Form

/-!
# Records back to back

Records follow each other without anything in between, so they are read one after the other until
no byte is left. A record that takes no bytes could be repeated without end and is refused.
-/

namespace TypedTables

/-- Reads the records that begin at the reader; `row k` reads the one with number `k`. -/
def readRowsFrom {α : Type} (row : Nat → Read α) (k : Nat) (r : Reader) :
    Except RowError (List α) :=
  if r.isAtEnd then .ok []
  else match row k r with
    | .error e _ => .error e
    | .ok v next =>
      if next.rest.length < r.rest.length then
        (readRowsFrom row (k + 1) next).map (v :: ·)
      else .error (.malformed .noProgress)
termination_by r.rest.length

def readRows {α : Type} (row : Read α) (bytes : List UInt8) : Except RowError (List α) :=
  readRowsFrom (fun _ => row) 0 (.ofBytes bytes)

end TypedTables
