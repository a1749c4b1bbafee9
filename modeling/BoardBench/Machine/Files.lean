import BoardBench.Bytes
import BoardBench.Machine.Bench

/-!
# Files

What is asked of the files of the machine: what is in one, how large it is, whether it is there, and
that something be written into one; what stands in a directory, and where a path really leads.
-/

namespace BoardBench

/-- A machine with files. -/
class Files (δ : Type) where
  /-- Size in bytes. -/
  fileSize : String → δ → Except Fault Nat
  isThere : String → δ → Bool
  readFile : String → δ → Except Fault Bytes
  /-- Names of what stands in a directory, in some order. -/
  list : String → δ → List String
  /-- The absolute path that a path leads to, without links. -/
  realPath : String → δ → Option String
  /-- Puts bytes in place of what the file holds; makes the file if it is not there. -/
  writeFile : String → Bytes → δ → Except Fault Unit × δ

namespace Files

variable {δ : Type} [Files δ]

/-- Writes a text into a file, or fails. -/
def put (path text : String) : Act δ Unit := fun d =>
  match writeFile path (Bytes.ofText text) d with
  | (.ok _, d') => (.ok (), d')
  | (.error f, d') => (.error (.io f), d')

variable [Bench δ]

/-- Looks for a file every `step`, until it is there (true) or `limit` has passed since `start`. -/
def waitSince (path : String) (step limit : Span) (start : Nat) (d : δ) : Bool × δ :=
  if isThere path d then (true, d)
  else if limit.nanos ≤ Bench.now d - start then (false, d)
  else if step.nanos = 0 then (false, d)
  else waitSince path step limit start (Bench.sleep step d)
termination_by start + limit.nanos - Bench.now d
decreasing_by
  rw [Bench.now_sleep]
  omega

/-- Waits for a file, looking for it every `step`, at most for `limit`. -/
def waitFor (path : String) (step limit : Span) (d : δ) : Bool × δ :=
  waitSince path step limit (Bench.now d) d

end Files
end BoardBench
