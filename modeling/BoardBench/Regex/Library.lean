import BoardBench.Proofs.Regex.Forward
import BoardBench.Regex
import BoardBench.Regex.Reader

/-!
# A library of regular expressions

The reader and the search of this directory, as a library that the bench can be run with.
-/

namespace BoardBench.Regex

namespace Parsed

/-- What the groups of a hit are called, with the bytes that they caught. -/
def groups (p : Parsed) (hit : Hit) : List (String × Bytes) :=
  p.names.filterMap fun (index, name) =>
    (hit.caught.find? (·.1 == index)).map fun (_, first, last) =>
      (name, first.rest.take (last.pos - first.pos))

def captures (p : Parsed) (bytes : Bytes) : Option Captures :=
  (search p.node bytes).map fun hit => ⟨hit.start.pos, hit.finish.pos, p.groups hit⟩

theorem captures_within (p : Parsed) (bytes : Bytes) (c : Captures) (h : p.captures bytes = some c) :
    c.start ≤ c.finish ∧ c.finish ≤ bytes.length := by
  obtain ⟨hit, hhit, rfl⟩ := Option.map_eq_some_iff.1 h
  exact search_within hhit

/-- The expression as a library gives it. -/
def compiled (p : Parsed) : Regex := ⟨p.source, p.captures, p.captures_within⟩

end Parsed

/-- A number under a group of the given index. -/
def numberGroup (index : Nat) : Node := .group index (.rep 1 none true (.char .digit))

/-- The report on one block of a format: `block`, its index, a slash, the number of blocks, and
something that is no digit, so that the number is complete. -/
def blockReport : Parsed :=
  let literal (s : String) : List Node := s.toList.map fun c => .char (.single c.toNat)
  { source := blockReportSource
    node := Node.cats (literal "block " ++ [numberGroup 1] ++ literal "/" ++
      [numberGroup 2, .char (.compl .digit)])
    names := [(1, "index"), (2, "count")] }

/-- The written form of the report is read as these parts. -/
theorem read_blockReport : read blockReportSource = .ok blockReport := by
  have h : (read blockReportSource).toOption = some blockReport := by decide +kernel
  cases hr : read blockReportSource with
  | error e => rw [hr] at h; cases h
  | ok p => rw [hr] at h; cases h; rfl

/-- The library. -/
def library : Regexes where
  compile source := (read source).map Parsed.compiled
  blockReport := blockReport.compiled
  compile_blockReport := by rw [read_blockReport]; rfl

end BoardBench.Regex
