import BoardBench.Proofs.Pattern.Split
import BoardBench.Session

/-!
# Rounds

An expectation goes through rounds: it looks for a match, looks at the clock, and reads.
`expectSince_rounds` is the induction on them, `expectSince_of_fill` one round that has to read.
Writing goes through rounds too, one for each call on the transport (`writeLoop_rounds`,
`writeLoop_of_write`).
-/

namespace BoardBench

variable {δ : Type} [Bench δ] [Transport δ]

namespace Transport

/-- What a write that takes nothing counts as. -/
def tookNothing : Fault := ⟨.writeZero, "failed to write whole buffer"⟩

/-- One round of writing bytes. -/
theorem writeLoop_of_write {bytes : Bytes} {d d' : δ} {x : Except Fault Nat}
    (hbytes : ¬ bytes.isEmpty = true) (h : write bytes d = (x, d')) :
    writeLoop bytes d = match x with
      | .error f => if f.kind = .interrupted then writeLoop bytes d' else (.error f, d')
      | .ok 0 => (.error tookNothing, d')
      | .ok (n + 1) => writeLoop (bytes.drop (n + 1)) d' := by
  rw [writeLoop, if_neg hbytes]
  split <;> rename_i heq <;> cases h.symm.trans heq <;> rfl

/-- What each round of writing keeps holds when it is over. -/
theorem writeLoop_rounds (P : Bytes → δ → Except Fault Unit × δ → Prop)
    (done : ∀ d, P [] d (.ok (), d))
    (again : ∀ bytes d f d' r, write bytes d = (.error f, d') → f.kind = .interrupted → P bytes d' r →
      P bytes d r)
    (failed : ∀ bytes d f d', write bytes d = (.error f, d') → P bytes d (.error f, d'))
    (stuck : ∀ bytes d d', write bytes d = (.ok 0, d') → P bytes d (.error tookNothing, d'))
    (more : ∀ bytes d n d' r, write bytes d = (.ok (n + 1), d') → P (bytes.drop (n + 1)) d' r →
      P bytes d r)
    (bytes : Bytes) (d : δ) : P bytes d (writeLoop bytes d) := by
  fun_induction writeLoop bytes d with
  | case1 bytes d hempty =>
    rw [List.isEmpty_iff.1 hempty]
    exact done d
  | case2 bytes d hempty f d' hw hf ih => exact again bytes d f d' _ hw hf ih
  | case3 bytes d hempty f d' hw hf => exact failed bytes d f d' hw
  | case4 bytes d hempty d' hw => exact stuck bytes d d' hw
  | case5 bytes d hempty n d' hw ih => exact more bytes d n d' _ hw ih

end Transport

namespace Session

variable {start : Nat} {ps : List Pattern} {timeout : Span}

/-- What each round of an expectation keeps holds when it is over. -/
theorem expectSince_rounds (P : Session δ → Except Error Match × Session δ → Prop)
    (met : ∀ s m rest, Pattern.split? ps s.buffer = some (m, rest) →
      P s (.ok m, { s with buffer := rest }))
    (late : ∀ s, Pattern.split? ps s.buffer = none → timeout.nanos ≤ s.now - start →
      P s (.error (.streamTimeout (Pattern.describeAll ps) timeout (Text.lossy s.buffer)), s))
    (failed : ∀ s wait e t, Pattern.split? ps s.buffer = none → s.now - start < timeout.nanos →
      fill wait s = (.error e, t) → P s (.error e, t))
    (ended : ∀ s wait t, Pattern.split? ps s.buffer = none → s.now - start < timeout.nanos →
      fill wait s = (.ok .ended, t) →
      P s (.error (.endOfStream (Pattern.describeAll ps) (Text.lossy t.buffer)), t))
    (next : ∀ s wait f t r, Pattern.split? ps s.buffer = none → s.now - start < timeout.nanos →
      fill wait s = (.ok f, t) → f ≠ .ended → P t r → P s r)
    (s : Session δ) : P s (expectSince start ps timeout s) := by
  fun_induction expectSince start ps timeout s with
  | case1 s index found hf => exact met s _ _ (by rw [Pattern.split?, hf]; rfl)
  | case2 s hn elapsed hle => exact late s (Pattern.split?_eq_none_iff.2 hn) hle
  | case3 s hn elapsed hle e t hfill =>
    exact failed s _ e t (Pattern.split?_eq_none_iff.2 hn) (Nat.lt_of_not_le hle) hfill
  | case4 s hn elapsed hle t hfill =>
    exact ended s _ t (Pattern.split?_eq_none_iff.2 hn) (Nat.lt_of_not_le hle) hfill
  | case5 s hn elapsed hle t hfill ih =>
    exact next s _ _ t _ (Pattern.split?_eq_none_iff.2 hn) (Nat.lt_of_not_le hle) hfill (by decide) ih
  | case6 s hn elapsed hle t hfill ih =>
    exact next s _ _ t _ (Pattern.split?_eq_none_iff.2 hn) (Nat.lt_of_not_le hle) hfill (by decide) ih

/-- One round of an expectation that finds nothing and has time left. -/
theorem expectSince_of_fill {s t : Session δ} {x : Except Error Fill}
    (hn : Pattern.earliest? ps s.buffer = none) (hlt : ¬ timeout.nanos ≤ s.now - start)
    (h : fill ⟨min (timeout.nanos - (s.now - start)) pollInterval.nanos⟩ s = (x, t)) :
    expectSince start ps timeout s = match x with
      | .error e => (.error e, t)
      | .ok .ended => (.error (.endOfStream (Pattern.describeAll ps) (Text.lossy t.buffer)), t)
      | .ok _ => expectSince start ps timeout t := by
  rw [expectSince]
  simp only [hn, if_neg hlt]
  split <;> rename_i heq <;> cases h.symm.trans heq <;> rfl

end Session
end BoardBench
