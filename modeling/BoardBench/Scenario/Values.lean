import BoardBench.Error
import BoardBench.Json.Basic
import BoardBench.Pattern
import BoardBench.Regex.Library
import BoardBench.Text.Numeral
import BoardBench.Text.Utf8

/-!
# Values in scenarios

A scenario is a JSON value that says who stands on a simulated bench and what is done there. This
module reads the plain values that scenarios are made of: bytes, texts, spans of time, errors and
patterns. Bytes are a text, hexadecimal digits, a repetition or a list of parts.
-/

namespace BoardBench.Scenario

/-- The bytes of pairs of hexadecimal digits. -/
def hexBytes : List Char → Bytes
  | a :: b :: rest => ((Text.ofDigits? 16 Text.hexDigit? [a, b]).getD 0).toUInt8 :: hexBytes rest
  | _ => []

/-- Reads bytes that are nested less than `fuel` deep. -/
def nestedBytes : Nat → Json → Bytes
  | 0, _ => []
  | fuel + 1, j =>
    match j with
    | .str s => Bytes.ofText s
    | j =>
      match j.member? "hex", j.member? "repeat", j.member? "cat" with
      | some (.str s), _, _ => hexBytes s.toList
      | _, some (.arr [b, n]), _ => (List.replicate (n.nat?.getD 0) (nestedBytes fuel b)).flatten
      | _, _, some (.arr items) => items.flatMap (nestedBytes fuel)
      | _, _, _ => []

/-- Reads bytes. -/
def bytesOf (j : Json) : Bytes := nestedBytes (j.depth + 1) j

/-- Reads a text; bytes that are none are decoded. -/
def textOf (j : Json) : String :=
  match j with
  | .str s => s
  | j => Text.lossy (bytesOf j)

/-- The bytes under a name, if there are any. -/
def bytesAt (j : Json) (k : String) : Bytes := ((j.member? k).map bytesOf).getD []
/-- The text under a name, or an empty one. -/
def textAt (j : Json) (k : String) : String := ((j.member? k).map textOf).getD ""
/-- The text under a name, if there is one. -/
def textAt? (j : Json) (k : String) : Option String := (j.member? k).map textOf

/-- Reads a span: milliseconds, seconds and nanoseconds, or the longest. -/
def spanOf (j : Json) : Span :=
  match j with
  | .int (.ofNat n) => .ofMillis n
  | .str "max" => .max
  | .obj _ => ⟨j.natAt "s" * 1000000000 + j.natAt "ns"⟩
  | _ => .zero

def spanAt? (j : Json) (k : String) : Option Span := (j.member? k).map spanOf
def spanAt (j : Json) (k : String) (default : Span) : Span := (spanAt? j k).getD default

/-- The timeout of a step. -/
def stepTimeout (j : Json) : Span := spanAt j "timeout" (.ofMillis 1000)

def faultKindOf (s : String) : FaultKind := (FaultKind.ofName? s).getD .other

/-- Reads an error from its kind and its parts. -/
def errorOf (j : Json) : Error :=
  let message := textAt j "message"
  match textAt j "kind" with
  | "Io" => .io ⟨faultKindOf (textAt j "io"), message⟩
  | "StreamTimeout" => .streamTimeout (textAt j "patterns") (spanAt j "timeout" .zero) (textAt j "before")
  | "Eof" => .endOfStream (textAt j "patterns") (textAt j "before")
  | "Device" => .device (textAt j "command") (textAt j "reason") (textAt j "output")
  | "Flash" => .flash message (textAt j "output")
  | "BackgroundService" => .service (textAt j "program") (textAt j "reason") (textAt j "output")
  | "Reboot" => .reboot message
  | "HarnessComposition" => .composition message
  | "Unsupported" => .unsupported message
  | "Config" => .config message
  | _ => .interrupted

def errorAt? (j : Json) (k : String) : Option Error := (j.member? k).map errorOf

/-- Reads a pattern: a regular expression is marked, all else is literal. -/
def patternOf (j : Json) : Except Error Pattern :=
  match j.member? "re" with
  | some source => Pattern.ofRegex? Regex.library (textOf source)
  | none => .ok (.literal (bytesOf j))

def patternsOf (j : Json) (k : String) : Except Error (List Pattern) := (j.itemsAt k).mapM patternOf

end BoardBench.Scenario
