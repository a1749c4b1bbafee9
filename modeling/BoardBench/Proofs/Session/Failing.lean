import BoardBench.Proofs.Failing
import BoardBench.Proofs.Session.Rounds

/-!
# What sessions fail with

A session raises the errors that its transport raises, and those of a stream in which a pattern is
awaited. If the transport raises only errors of the machine, none of them ends a run (`Error.Minor`).
-/

namespace BoardBench

/-- An error that a transport raises, or the system under it. -/
inductive Transport.Raises (δ : Type) [Bench δ] [Transport δ] : Error → Prop
  | fault (f : Fault) : Raises δ (.io f)
  | setTimeout {t : Span} {d d' : δ} {e : Error} : Transport.setTimeout t d = (.error e, d') → Raises δ e
  | clear {d d' : δ} {e : Error} : Transport.clear d = (.error e, d') → Raises δ e
  | reopen {d d' : δ} {e : Error} : Transport.reopen d = (.error e, d') → Raises δ e

/-- An error of the machine that the bench runs on. -/
inductive Error.OfMachine : Error → Prop
  | io (fault : Fault) : OfMachine (.io fault)
  | serial (reason : String) : OfMachine (.serial reason)
  | unsupported (reason : String) : OfMachine (.unsupported reason)

/-- The errors that the transport raises are those of the machine. -/
def Transport.FailsAsMachine (δ : Type) [Bench δ] [Transport δ] : Prop :=
  ∀ e, Raises δ e → e.OfMachine

/-- An error of a stream in which patterns were awaited. -/
inductive Error.OfStream : Error → Prop
  | late (patterns : String) (timeout : Span) (before : String) :
      OfStream (.streamTimeout patterns timeout before)
  | ended (patterns before : String) : OfStream (.endOfStream patterns before)

/-- An error that ends one test at most. -/
def Error.Minor (e : Error) : Prop := e.isFatal = false

namespace Error

theorem OfMachine.minor {e : Error} (h : e.OfMachine) : e.Minor := by
  cases h <;> rfl

theorem OfStream.minor {e : Error} (h : e.OfStream) : e.Minor := by
  cases h <;> rfl

theorem Minor.withCommand {e : Error} (h : e.Minor) (cmd : String) : (e.withCommand cmd).Minor := by
  unfold Error.withCommand
  split
  · rfl
  · rfl
  · rfl
  · exact h

end Error

namespace Session

open Act Transport

variable {δ : Type} [Bench δ] [Transport δ]

omit [Bench δ] [Transport δ] in
theorem touch_fails {P : Error → Prop} (f : δ → δ) : FailsOnly P (touch f) := .change _

omit [Transport δ] in
theorem note_fails {P : Error → Prop} (level : Level) (text : String) :
    FailsOnly P (note level text : Act (Session δ) Unit) := touch_fails _

omit [Transport δ] in
theorem sleep_fails {P : Error → Prop} (t : Span) : FailsOnly P (sleep t : Act (Session δ) Unit) :=
  touch_fails _

theorem writeAll_fails (bytes : Bytes) : FailsOnly (Raises δ) (Transport.writeAll bytes : Act δ Unit) := by
  intro d e d' h
  unfold Transport.writeAll at h
  split at h
  · cases h
    exact .fault _
  · split at h
    · cases h
      exact .fault _
    · cases h

theorem send_fails (bytes : Bytes) : FailsOnly (Raises δ) (send bytes : Act (Session δ) Unit) :=
  (writeAll_fails bytes).zoom.bind fun _ => .change _

theorem sendLine_fails (line : Bytes) : FailsOnly (Raises δ) (sendLine line : Act (Session δ) Unit) :=
  send_fails _

theorem fill_fails (wait : Span) : FailsOnly (Raises δ) (fill wait : Act (Session δ) Fill) := by
  intro s e s' h
  unfold fill at h
  split at h
  · rename_i hset
    cases h
    exact .setTimeout hset
  · split at h
    · cases h
    · cases h
    · split at h
      · cases h
      · cases h
        exact .fault _

theorem expect_fails (ps : List Pattern) (timeout : Span) :
    FailsOnly (fun e => Raises δ e ∨ e.OfStream) (expect ps timeout : Act (Session δ) Match) := by
  intro s e s' h
  have hrounds : (expectSince s.now ps timeout s).1 = .error e := congrArg Prod.fst h
  refine expectSince_rounds (fun _ r => ∀ e, r.1 = .error e → Raises δ e ∨ e.OfStream) ?met ?late
    ?failed ?ended ?next s e hrounds
  case met =>
    intro s m rest _ e he
    cases he
  case late =>
    intro s _ _ e he
    cases he
    exact .inr (.late _ _ _)
  case failed =>
    intro s wait e' t _ _ hfill e he
    cases he
    exact .inl (fill_fails wait s _ t hfill)
  case ended =>
    intro s wait t _ _ _ e he
    cases he
    exact .inr (.ended _ _)
  case next =>
    intro s wait f t r _ _ _ _ ih
    exact ih

theorem expect_minor (hδ : FailsAsMachine δ) (ps : List Pattern) (timeout : Span) :
    FailsOnly Error.Minor (expect ps timeout : Act (Session δ) Match) :=
  (expect_fails ps timeout).mono fun e he => he.elim (fun h => (hδ e h).minor) fun h => h.minor

theorem sendLine_minor (hδ : FailsAsMachine δ) (line : Bytes) :
    FailsOnly Error.Minor (sendLine line : Act (Session δ) Unit) :=
  (sendLine_fails line).mono fun e he => (hδ e he).minor

theorem drainSince_fails (start : Nat) :
    FailsOnly (Raises δ) (fun s => drainSince start s : Act (Session δ) Unit) := by
  intro s e s' h
  dsimp only at h
  fun_induction drainSince start s with
  | case1 s hle => cases h
  | case2 s hlt e' t hfill =>
    cases h
    exact fill_fails drainWait s _ _ hfill
  | case3 s hlt t hfill ih => exact ih h
  | case4 s hlt t hfill => cases h
  | case5 s hlt t hfill => cases h

theorem clearBuffer_fails : FailsOnly (Raises δ) (clearBuffer : Act (Session δ) Unit) := by
  refine (FailsOnly.change _).bind fun _ => FailsOnly.bind (.zoom ?clear) fun _ =>
    FailsOnly.bind ?drain fun _ => .change _
  case clear => exact fun d e d' h => .clear h
  case drain => exact fun s e s' h => drainSince_fails s.now s e s' h

theorem reopen_fails : FailsOnly (Raises δ) (reopen : Act (Session δ) Unit) := by
  refine (FailsOnly.change _).bind fun _ => FailsOnly.bind (.zoom ?_) fun _ => .change _
  exact fun d e d' h => .reopen h

end Session
end BoardBench
