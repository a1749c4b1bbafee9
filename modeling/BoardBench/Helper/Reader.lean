import BoardBench.Bytes

/-!
# Reading what a helper prints

The output of a helper is kept whole. The helper is ready once its marker stands in the output; with
every piece of output only the part in which the marker can be new is searched.
-/

namespace BoardBench

/-- What was read of a helper's output. -/
structure HelperReader where
  marker : Bytes
  output : Bytes
  /-- Whether the helper has been found ready. -/
  ready : Bool
  deriving DecidableEq, Repr

namespace HelperReader

/-- Nothing has been read yet. -/
def start (marker : Bytes) : HelperReader := ⟨marker, [], false⟩

/-- Reads one more piece. -/
def feed (chunk : Bytes) (r : HelperReader) : HelperReader :=
  let output := r.output ++ chunk
  let recent := output.drop (r.output.length - r.marker.length)
  { r with output, ready := r.ready || Bytes.contains recent r.marker }

end HelperReader
end BoardBench
