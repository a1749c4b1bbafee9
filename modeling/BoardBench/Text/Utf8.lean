import BoardBench.Bytes

/-!
# UTF-8

Bytes are cut into characters and runs of junk: `head` takes one off the front. A run of junk is the
longest one that a character could have begun with, so a cut character counts once. `lossy` reads
every run of junk as U+FFFD, `decode?` refuses it.
-/

namespace BoardBench.Text

/-- Whether a byte continues a character. -/
def isContinuation (b : UInt8) : Bool := 0x80 ≤ b && b ≤ 0xBF

/-- The payload of a continuation byte. -/
def payload (b : UInt8) : Nat := b.toNat % 64

/-- How many bytes follow the first byte of a character, and which range the second must be in. -/
def leadShape (b : UInt8) : Option (Nat × UInt8 × UInt8) :=
  if 0xC2 ≤ b && b ≤ 0xDF then some (1, 0x80, 0xBF)
  else if b == 0xE0 then some (2, 0xA0, 0xBF)
  else if b == 0xED then some (2, 0x80, 0x9F)
  else if 0xE1 ≤ b && b ≤ 0xEF then some (2, 0x80, 0xBF)
  else if b == 0xF0 then some (3, 0x90, 0xBF)
  else if b == 0xF4 then some (3, 0x80, 0x8F)
  else if 0xF1 ≤ b && b ≤ 0xF3 then some (3, 0x80, 0xBF)
  else none

/-- Takes `n` continuation bytes: the code point they complete, or none, and what is left. -/
def continuations : Nat → Nat → Bytes → Option Nat × Bytes
  | 0, acc, rest => (some acc, rest)
  | n + 1, acc, b :: rest =>
    if isContinuation b then continuations n (acc * 64 + payload b) rest else (none, b :: rest)
  | _ + 1, _, [] => (none, [])

/-- What stands at the front of `b :: rest`: a code point, or none for a run of junk; and the rest. -/
def head (b : UInt8) (rest : Bytes) : Option Nat × Bytes :=
  if b < 0x80 then (some b.toNat, rest)
  else
    match leadShape b, rest with
    | some (n, lo, hi), c :: after =>
      if lo ≤ c && c ≤ hi then
        continuations (n - 1) (b.toNat % (0x40 >>> n) * 64 + payload c) after
      else (none, rest)
    | _, _ => (none, rest)

theorem continuations_length (n acc : Nat) (bs : Bytes) :
    (continuations n acc bs).2.length ≤ bs.length := by
  fun_induction continuations n acc bs <;> simp_all
  omega

theorem head_length (b : UInt8) (rest : Bytes) : (head b rest).2.length ≤ rest.length := by
  unfold head
  split
  · simp
  · split
    · split
      · exact Nat.le_trans (continuations_length _ _ _) (by simp)
      · simp
    · simp

/-- The characters and runs of junk that bytes consist of. -/
def pieces : Bytes → List (Option Nat)
  | [] => []
  | b :: rest => (head b rest).1 :: pieces (head b rest).2
termination_by bs => bs.length
decreasing_by have := head_length b rest; simp only [List.length_cons]; omega

/-- The text of bytes, with U+FFFD for every run of junk. -/
def lossy (bytes : Bytes) : String :=
  String.ofList ((pieces bytes).map fun p => (p.map Char.ofNat).getD '\uFFFD')

/-- The text of bytes, if they are UTF-8 throughout. -/
def decode? (bytes : Bytes) : Option String :=
  ((pieces bytes).mapM id).map fun cs => String.ofList (cs.map Char.ofNat)

end BoardBench.Text
