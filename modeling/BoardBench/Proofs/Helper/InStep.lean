import BoardBench.Helper
import BoardBench.Proofs.Chronicle

/-!
# Helpers in step

Machines are in step if what is done with processes and files gives the same answer on both and leaves
them in step. Then helpers on them are started, read, and stopped alike.
-/

namespace BoardBench

variable {δ ε : Type} [Bench δ] [Bench ε]

/-- On related machines what is done with processes gives the same answer and leaves them related. -/
structure Processes.InStep [Processes δ] [Processes ε] (D : δ → ε → Prop) : Prop where
  now : ∀ d e, D d e → Bench.now e = Bench.now d
  note : ∀ level text d e, D d e → D (Bench.note level text d) (Bench.note level text e)
  spawn : ∀ launch d e, D d e → (Processes.spawn launch e).1 = (Processes.spawn launch d).1 ∧
    D (Processes.spawn launch d).2 (Processes.spawn launch e).2
  awaitExit : ∀ pid wait d e, D d e →
    (Processes.awaitExit pid wait e).1 = (Processes.awaitExit pid wait d).1 ∧
      D (Processes.awaitExit pid wait d).2 (Processes.awaitExit pid wait e).2
  signal : ∀ pid signal d e, D d e → D (Processes.signal pid signal d) (Processes.signal pid signal e)
  awaitOutput : ∀ pid wait d e, D d e →
    (Processes.awaitOutput pid wait e).1 = (Processes.awaitOutput pid wait d).1 ∧
      D (Processes.awaitOutput pid wait d).2 (Processes.awaitOutput pid wait e).2

/-- On related machines there are the same files. -/
structure Files.InStep [Files δ] [Files ε] (D : δ → ε → Prop) : Prop where
  now : ∀ d e, D d e → Bench.now e = Bench.now d
  sleep : ∀ t d e, D d e → D (Bench.sleep t d) (Bench.sleep t e)
  fileSize : ∀ path d e, D d e → Files.fileSize path e = Files.fileSize path d
  isThere : ∀ path d e, D d e → Files.isThere path e = Files.isThere path d

namespace Chronicled

omit [Bench ε] in
/-- A chronicle changes nothing that is done with processes. -/
theorem processes_inStep [Processes δ] :
    Processes.InStep fun (c : Chronicled δ) (d : δ) => d = c.device where
  now c d h := by subst h; rfl
  note level text c d h := by subst h; rfl
  spawn launch c d h := by subst h; exact ⟨rfl, rfl⟩
  awaitExit pid wait c d h := by subst h; exact ⟨rfl, rfl⟩
  signal pid signal c d h := by subst h; rfl
  awaitOutput pid wait c d h := by subst h; exact ⟨rfl, rfl⟩

omit [Bench ε] in
theorem files_inStep [Files δ] : Files.InStep fun (c : Chronicled δ) (d : δ) => d = c.device where
  now c d h := by subst h; rfl
  sleep t c d h := by subst h; rfl
  fileSize path c d h := by subst h; rfl
  isThere path c d h := by subst h; rfl

end Chronicled

namespace Files

variable [Files δ] [Files ε] {D : δ → ε → Prop}

theorem waitSince_relates (hD : Files.InStep D) (path : String) (step limit : Span) (start : Nat)
    (d : δ) : ∀ e, D d e → (waitSince path step limit start e).1 = (waitSince path step limit start d).1 ∧
      D (waitSince path step limit start d).2 (waitSince path step limit start e).2 := by
  fun_induction waitSince path step limit start d with
  | case1 d hthere =>
    intro e hde
    rw [waitSince, if_pos (by rw [hD.isThere path d e hde]; exact hthere)]
    exact ⟨rfl, hde⟩
  | case2 d hthere hlate =>
    intro e hde
    rw [waitSince, hD.isThere path d e hde, if_neg hthere, hD.now d e hde, if_pos hlate]
    exact ⟨rfl, hde⟩
  | case3 d hthere hlate hstep =>
    intro e hde
    rw [waitSince, hD.isThere path d e hde, if_neg hthere, hD.now d e hde, if_neg hlate, if_pos hstep]
    exact ⟨rfl, hde⟩
  | case4 d hthere hlate hstep ih =>
    intro e hde
    rw [waitSince, hD.isThere path d e hde, if_neg hthere, hD.now d e hde, if_neg hlate, if_neg hstep]
    exact ih _ (hD.sleep step d e hde)

theorem waitFor_relates (hD : Files.InStep D) (path : String) (step limit : Span) {d : δ} {e : ε}
    (h : D d e) : (waitFor path step limit e).1 = (waitFor path step limit d).1 ∧
      D (waitFor path step limit d).2 (waitFor path step limit e).2 := by
  unfold waitFor
  rw [hD.now d e h]
  exact waitSince_relates hD path step limit _ d e h

end Files

namespace Helper

/-- The same helper, on related machines. -/
structure Alike (D : δ → ε → Prop) (t : Tended δ) (u : Tended ε) : Prop where
  helper : u.helper = t.helper
  machine : D t.machine u.machine

variable [Processes δ] [Processes ε] {D : δ → ε → Prop} {α : Type}

omit [Bench ε] [Processes ε] in
/-- One round of reading with time left. -/
theorem readUntil_of_output {forMarker : Bool} {deadline : Nat} {h : Helper} {d d' : δ} {x : Output}
    (hlate : ¬ deadline < Bench.now d) (hreading : ¬ (!h.reading) = true)
    (houtput : Processes.awaitOutput h.pid ⟨deadline - Bench.now d⟩ d = (x, d')) :
    readUntil forMarker deadline h d = match x with
      | .chunk bytes =>
        let h' := { h with reader := h.reader.feed bytes }
        if forMarker && h'.reader.ready then (.ready, h', d') else readUntil forMarker deadline h' d'
      | .ended => (.ended, { h with reading := false }, d')
      | .nothing => (.late, h, d') := by
  rw [readUntil, if_neg hlate, if_neg hreading]
  split <;> rename_i heq <;> cases houtput.symm.trans heq <;> rfl

theorem readUntil_relates (hD : Processes.InStep D) (forMarker : Bool) (deadline : Nat) (h : Helper)
    (d : δ) : ∀ e, D d e →
      (readUntil forMarker deadline h e).1 = (readUntil forMarker deadline h d).1 ∧
        (readUntil forMarker deadline h e).2.1 = (readUntil forMarker deadline h d).2.1 ∧
        D (readUntil forMarker deadline h d).2.2 (readUntil forMarker deadline h e).2.2 := by
  -- a round with time left reads the same on both
  have round {h : Helper} {d d' : δ} {e : ε} {x : Output} (hde : D d e)
      (hlate : ¬ deadline < Bench.now d)
      (houtput : Processes.awaitOutput h.pid ⟨deadline - Bench.now d⟩ d = (x, d')) :
      ∃ e', D d' e' ∧ ¬ deadline < Bench.now e ∧
        Processes.awaitOutput h.pid ⟨deadline - Bench.now e⟩ e = (x, e') := by
    obtain ⟨hval, hrel⟩ := hD.awaitOutput h.pid ⟨deadline - Bench.now d⟩ d e hde
    rw [houtput] at hval hrel
    rw [hD.now d e hde]
    exact ⟨_, hrel, hlate, Prod.ext hval rfl⟩
  fun_induction readUntil forMarker deadline h d with
  | case1 h d hlate =>
    intro e hde
    rw [readUntil, if_pos (by rw [hD.now d e hde]; exact hlate)]
    exact ⟨rfl, rfl, hde⟩
  | case2 h d hlate hover =>
    intro e hde
    rw [readUntil, if_neg (by rw [hD.now d e hde]; exact hlate), if_pos hover]
    exact ⟨rfl, rfl, hde⟩
  | case3 h d hlate hover bytes d' houtput h' hready =>
    intro e hde
    obtain ⟨e', hde', hlate', houtput'⟩ := round hde hlate houtput
    rw [readUntil_of_output hlate' hover houtput']
    simp only [h'] at hready
    simp only [if_pos hready]
    exact ⟨trivial, rfl, hde'⟩
  | case4 h d hlate hover bytes d' houtput h' hready ih =>
    intro e hde
    obtain ⟨e', hde', hlate', houtput'⟩ := round hde hlate houtput
    rw [readUntil_of_output hlate' hover houtput']
    simp only [h'] at hready
    simp only [if_neg hready]
    exact ih e' hde'
  | case5 h d hlate hover d' houtput =>
    intro e hde
    obtain ⟨e', hde', hlate', houtput'⟩ := round hde hlate houtput
    rw [readUntil_of_output hlate' hover houtput']
    exact ⟨rfl, rfl, hde'⟩
  | case6 h d hlate hover d' houtput =>
    intro e hde
    obtain ⟨e', hde', hlate', houtput'⟩ := round hde hlate houtput
    rw [readUntil_of_output hlate' hover houtput']
    exact ⟨rfl, rfl, hde'⟩

theorem read_relates (hD : Processes.InStep D) (deadline : Nat → Nat) :
    Act.Relates (Alike D)
      (fun t => let (_, h, d) := readUntil false (deadline (Bench.now t.machine)) t.helper t.machine
        (.ok (), ⟨h, d⟩))
      (fun t => let (_, h, d) := readUntil false (deadline (Bench.now t.machine)) t.helper t.machine
        (.ok (), ⟨h, d⟩)) := by
  intro t u htu
  obtain ⟨-, hhelper, hrel⟩ := readUntil_relates hD false (deadline (Bench.now t.machine)) t.helper
    t.machine u.machine htu.machine
  simp only [htu.helper, hD.now _ _ htu.machine]
  exact ⟨trivial, hhelper, hrel⟩

theorem catchUp_relates (hD : Processes.InStep D) : Act.Relates (Alike D) catchUp catchUp :=
  read_relates hD id

theorem join_relates (hD : Processes.InStep D) (wait : Span) :
    Act.Relates (Alike D) (join wait) (join wait) :=
  read_relates hD (· + wait.nanos)

theorem output_relates (hD : Processes.InStep D) : Act.Relates (Alike D) output output := by
  refine (catchUp_relates hD).bind fun _ => .state_bind fun t u htu => ?_
  rw [htu.helper]
  exact ⟨rfl, htu⟩

theorem awaitStatus_relates (hD : Processes.InStep D) (wait : Span) :
    Act.Relates (Alike D) (awaitStatus wait) (awaitStatus wait) := by
  intro t u htu
  obtain ⟨hval, hrel⟩ := hD.awaitExit t.helper.pid wait _ _ htu.machine
  simp only [awaitStatus, htu.helper]
  exact ⟨congrArg (Except.mapError Error.io) hval, rfl, hrel⟩

theorem sendSignal_relates (hD : Processes.InStep D) (signal : StopSignal) :
    Act.Relates (Alike D) (sendSignal signal) (sendSignal signal) := by
  refine .change fun t u htu => ⟨htu.helper, ?_⟩
  rw [htu.helper]
  exact hD.signal _ signal _ _ htu.machine

theorem note_relates (hD : Processes.InStep D) (level : Level) (text : String) :
    Act.Relates (Alike D) (note level text) (note level text) :=
  .change fun _ _ htu => ⟨htu.helper, hD.note level text _ _ htu.machine⟩

omit [Bench δ] [Bench ε] [Processes δ] [Processes ε] in
/-- What is done to the helper alone. -/
theorem change_relates (f : Helper → Helper) :
    Act.Relates (Alike D) (Act.change fun t : Tended δ => { t with helper := f t.helper })
      (Act.change fun t : Tended ε => { t with helper := f t.helper }) :=
  .change fun _ _ htu => ⟨congrArg f htu.helper, htu.machine⟩

theorem stop_relates (hD : Processes.InStep D) : Act.Relates (Alike D) stop stop := by
  refine .state_bind fun t u htu => ?_
  rw [htu.helper, hD.now _ _ htu.machine]
  refine ((sendSignal_relates hD .term).bind fun _ => (join_relates hD _).bind fun _ =>
    .state_bind fun t' u' htu' => ?_) t u htu
  rw [hD.now _ _ htu'.machine]
  refine ((awaitStatus_relates hD _).bind fun status => ?_) t' u' htu'
  cases status with
  | some status => exact .pure _
  | none =>
    refine (note_relates hD _ _).bind fun _ => (sendSignal_relates hD .kill).bind fun _ =>
      (change_relates fun h => { h with forcedKills := h.forcedKills + 1 }).bind fun _ =>
        (awaitStatus_relates hD _).bind fun status => (join_relates hD _).bind fun _ =>
          .state_bind fun t u htu => ?_
    rw [htu.helper]
    exact (Act.Relates.ite Iff.rfl ((note_relates hD _ _).bind fun _ => .pure status)
      (.pure status)) t u htu

omit [Bench δ] [Bench ε] [Processes δ] [Processes ε] in
theorem release_relates : Act.Relates (Alike D) release release :=
  change_relates fun h => { h with running := false }

theorem kill_relates (hD : Processes.InStep D) : Act.Relates (Alike D) kill kill := by
  refine .state_bind fun t u htu => ?_
  rw [htu.helper]
  refine (Act.Relates.ite Iff.rfl (release_relates.bind fun _ =>
    (awaitStatus_relates hD .zero).bind fun early => (stop_relates hD).bind fun _ => ?_)
    (.pure ())) t u htu
  cases early with
  | none => exact .pure ()
  | some status =>
    exact .ite Iff.rfl (.pure ()) ((output_relates hD).bind fun _ => .fail _)

theorem killQuietly_relates (hD : Processes.InStep D) :
    Act.Relates (Alike D) killQuietly killQuietly := by
  refine .state_bind fun t u htu => ?_
  rw [htu.helper]
  refine (Act.Relates.ite Iff.rfl (release_relates.bind fun _ =>
    (stop_relates hD).attempt.bind fun stopped => ?_) (.pure _)) t u htu
  cases stopped with
  | ok status => exact .pure status
  | error e => exact (note_relates hD _ _).bind fun _ => .pure none

theorem awaitReady_relates (hD : Processes.InStep D) (spec : HelperSpec) :
    Act.Relates (Alike D) (awaitReady spec) (awaitReady spec) := by
  refine .state_bind fun t u htu => ?_
  rw [htu.helper, hD.now _ _ htu.machine]
  dsimp only
  obtain ⟨hpause, hhelper, hrel⟩ := readUntil_relates hD true
    (Bench.now t.machine + spec.readyTimeout.nanos) t.helper t.machine u.machine htu.machine
  generalize readUntil true _ t.helper t.machine = read at *
  generalize readUntil true _ t.helper u.machine = read' at *
  obtain ⟨pause, h, d⟩ := read
  obtain ⟨_, _, e⟩ := read'
  cases hpause
  cases hhelper
  rw [Act.change_bind, Act.change_bind, hD.now _ _ hrel]
  refine Act.Relates.ite (R := Alike D) Iff.rfl (note_relates hD _ _) ?_ ⟨h, d⟩ ⟨h, e⟩ ⟨rfl, hrel⟩
  exact (killQuietly_relates hD).bind fun _ => (output_relates hD).bind fun _ => .fail _

omit [Bench δ] [Bench ε] [Processes δ] [Processes ε] in
theorem tending_relates {x : Act (Tended δ) α} {y : Act (Tended ε) α}
    (hxy : Act.Relates (Alike D) x y) (h : Helper) :
    Act.Relates D (tending h x) (tending h y) := by
  intro d e hde
  obtain ⟨hval, hrel⟩ := hxy ⟨h, d⟩ ⟨h, e⟩ ⟨rfl, hde⟩
  refine ⟨?_, hrel.machine⟩
  show Except.ok ((y ⟨h, e⟩).1, (y ⟨h, e⟩).2.helper) = Except.ok ((x ⟨h, d⟩).1, (x ⟨h, d⟩).2.helper)
  rw [hval, hrel.helper]

theorem launch_relates (hD : Processes.InStep D) (spec : HelperSpec) :
    Act.Relates D (launch spec) (launch spec) := by
  intro d e hde
  obtain ⟨hval, hrel⟩ := hD.spawn ⟨spec.program, spec.args, spec.cwd, false⟩ d e hde
  rcases hd : Processes.spawn ⟨spec.program, spec.args, spec.cwd, false⟩ d with ⟨_ | _, d'⟩ <;>
    rcases he : Processes.spawn ⟨spec.program, spec.args, spec.cwd, false⟩ e with ⟨_ | _, e'⟩ <;>
    rw [hd, he] at hval hrel <;> cases hval <;> simp only [launch, hd, he] <;> exact ⟨trivial, hrel⟩

variable [Files δ] [Files ε]

omit [Processes δ] [Processes ε] in
theorem awaitPath_relates (hF : Files.InStep D) (spec : HelperSpec) :
    Act.Relates D (awaitPath spec) (awaitPath spec) := by
  intro d e hde
  rcases hpath : spec.waitForPath with _ | path
  · simp only [awaitPath, hpath]
    exact ⟨trivial, hde⟩
  obtain ⟨hval, hrel⟩ := Files.waitFor_relates hF path pathStep spec.pathTimeout hde
  rcases hd : Files.waitFor path pathStep spec.pathTimeout d with ⟨_ | _, d'⟩ <;>
    rcases he : Files.waitFor path pathStep spec.pathTimeout e with ⟨_ | _, e'⟩ <;>
    rw [hd, he] at hval hrel <;> cases hval <;> simp only [awaitPath, hpath, hd, he] <;>
    exact ⟨trivial, hrel⟩

theorem start_relates (hD : Processes.InStep D) (hF : Files.InStep D) (spec : HelperSpec) :
    Act.Relates D (start spec) (start spec) :=
  (awaitPath_relates hF spec).bind fun _ => (launch_relates hD spec).bind fun h =>
    (tending_relates (awaitReady_relates hD spec) h).bind fun (r, h) => by
      cases r with
      | error e => exact .fail_bind e _ _
      | ok _ => exact .pure h

end Helper
end BoardBench
