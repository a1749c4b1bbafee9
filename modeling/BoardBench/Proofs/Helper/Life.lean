import BoardBench.Proofs.Helper.InStep
import BoardBench.Proofs.Occurrence

/-!
# The life of a helper

What the chronicle says of a helper: it is started once, and then it either has printed its marker
(`start_spec`) or has been stopped again; and whenever it is stopped it is asked to, and killed unless it
is seen to end (`kill_spec`). Nothing that is done with a helper goes over the transport.
-/

namespace BoardBench

open Chronicle

/-- The process was asked to stop. Then it was seen to end, or it was killed and its end waited for
without limit. If it was not, then a wait for its end has failed, as a wait does only when the process is
gone. -/
inductive Stopped (pid : Nat) : Chronicle → Prop
  | asked {a b c wait status} : Stopped pid
      (a ++ .signalled pid .term :: (b ++ .awaited pid wait (.ok (some status)) :: c))
  | killed {a b c answer} : Stopped pid
      (a ++ .signalled pid .term :: (b ++ .signalled pid .kill :: .awaited pid .max answer :: c))
  | gone {a b wait f} : Stopped pid (a ++ .awaited pid wait (.error f) :: b)

theorem Stopped.after {pid : Nat} {k : Chronicle} (h : Stopped pid k) (l : Chronicle) :
    Stopped pid (l ++ k) := by
  cases h with
  | asked =>
    rw [← List.append_assoc]
    exact .asked
  | killed =>
    rw [← List.append_assoc]
    exact .killed
  | gone =>
    rw [← List.append_assoc]
    exact .gone

theorem Stopped.before {pid : Nat} {k : Chronicle} (h : Stopped pid k) (l : Chronicle) :
    Stopped pid (k ++ l) := by
  cases h with
  | asked =>
    simp only [List.append_assoc, List.cons_append]
    exact .asked
  | killed =>
    simp only [List.append_assoc, List.cons_append]
    exact .killed
  | gone =>
    rw [List.append_assoc]
    exact .gone

/-- Nothing was done but reading what the process prints. -/
def Chronicle.Reads (pid : Nat) (k : Chronicle) : Prop := ∀ e ∈ k, ∃ answer, e = .heard pid answer

namespace Chronicle.Reads

variable {pid : Nat} {k l : Chronicle}

theorem nil : Reads pid [] := fun _ he => absurd he List.not_mem_nil

theorem cons {answer : Output} (h : Reads pid k) : Reads pid (.heard pid answer :: k) := by
  intro e he
  rcases List.mem_cons.1 he with rfl | he
  · exact ⟨answer, rfl⟩
  · exact h e he

theorem deeds (h : Reads pid k) : Deeds k := by
  intro e he
  obtain ⟨answer, rfl⟩ := h e he
  rfl

end Chronicle.Reads

namespace HelperReader

/-- The marker stands in the output of a helper that was found ready. -/
def Sound (r : HelperReader) : Prop := r.ready = true → Occurs r.marker r.output

theorem sound_start (marker : Bytes) : (start marker).Sound := fun h => absurd h Bool.false_ne_true

theorem Sound.feed {r : HelperReader} (h : r.Sound) (chunk : Bytes) : (r.feed chunk).Sound := by
  intro hready
  rcases Bool.or_eq_true_iff.1 hready with hbefore | hnow
  · obtain ⟨i, hi⟩ := h hbefore
    exact ⟨i, hi.append chunk⟩
  · obtain ⟨i, hi⟩ := Bytes.contains_iff.1 hnow
    -- the part that is searched is the end of the output
    let n := r.output.length - r.marker.length
    have hsplit : (r.output ++ chunk).take n ++ (r.output ++ chunk).drop n = r.output ++ chunk :=
      List.take_append_drop n _
    exact ⟨_, hsplit ▸ occursAt_append_right.2 hi⟩

end HelperReader

namespace Helper

variable {δ : Type} [Bench δ] [Processes δ]

/-- Output of the helper was read, and nothing else done. -/
structure Listened (t : Tended (Chronicled δ)) (k : Chronicle) (t' : Tended (Chronicled δ)) : Prop where
  entries : t'.machine.entries = t.machine.entries ++ k
  reads : Reads t.helper.pid k
  pid : t'.helper.pid = t.helper.pid
  running : t'.helper.running = t.helper.running
  marker : t'.helper.reader.marker = t.helper.reader.marker
  output : t'.helper.reader.output = t.helper.reader.output ++ heard t.helper.pid k
  sound : t.helper.reader.Sound → t'.helper.reader.Sound

omit [Bench δ] [Processes δ] in
theorem Listened.refl (t : Tended (Chronicled δ)) : Listened t [] t :=
  ⟨(List.append_nil _).symm, .nil, rfl, rfl, rfl, (List.append_nil _).symm, id⟩

/-- Entries were added, all of them deeds; the helper is the same process. -/
structure Tends (t : Tended (Chronicled δ)) (k : Chronicle) (t' : Tended (Chronicled δ)) : Prop where
  entries : t'.machine.entries = t.machine.entries ++ k
  deeds : Deeds k
  pid : t'.helper.pid = t.helper.pid
  output : t'.helper.reader.output = t.helper.reader.output ++ heard t.helper.pid k

omit [Bench δ] [Processes δ] in
theorem Listened.tends {t t' : Tended (Chronicled δ)} {k : Chronicle} (h : Listened t k t') :
    Tends t k t' :=
  ⟨h.entries, h.reads.deeds, h.pid, h.output⟩

omit [Bench δ] [Processes δ] in
theorem Tends.trans {t t' t'' : Tended (Chronicled δ)} {k l : Chronicle} (h : Tends t k t')
    (h' : Tends t' l t'') : Tends t (k ++ l) t'' :=
  ⟨by rw [h'.entries, h.entries, List.append_assoc], h.deeds.append h'.deeds, h'.pid.trans h.pid,
    by rw [h'.output, h.output, h.pid, heard_append, List.append_assoc]⟩

/-! ## Reading -/

theorem readUntil_spec (forMarker : Bool) (deadline : Nat) (h : Helper) (d : Chronicled δ) :
    let x := readUntil forMarker deadline h d
    (∃ k, Listened ⟨h, d⟩ k ⟨x.2.1, x.2.2⟩) ∧ (x.1 = .ready → x.2.1.reader.ready = true) := by
  have hlate_ne : Pause.late ≠ .ready := by decide
  have hended_ne : Pause.ended ≠ .ready := by decide
  fun_induction readUntil forMarker deadline h d with
  | case1 h d hlate => exact ⟨⟨[], .refl _⟩, fun h => absurd h hlate_ne⟩
  | case2 h d hlate hover => exact ⟨⟨[], .refl _⟩, fun h => absurd h hended_ne⟩
  | case3 h d hlate hover bytes d' houtput h' hready =>
    obtain ⟨-, hentries⟩ := Chronicled.record_eq_iff.1 houtput
    refine ⟨⟨[.heard h.pid (.chunk bytes)], hentries, Reads.nil.cons, rfl, rfl, rfl, ?_, fun hs =>
      hs.feed bytes⟩, fun _ => (Bool.and_eq_true_iff.1 hready).2⟩
    simp [h', HelperReader.feed, heard, heardBy]
  | case4 h d hlate hover bytes d' houtput h' hready ih =>
    obtain ⟨-, hentries⟩ := Chronicled.record_eq_iff.1 houtput
    obtain ⟨⟨k, hk⟩, hpause⟩ := ih
    refine ⟨⟨.heard h.pid (.chunk bytes) :: k, ?_, hk.reads.cons, hk.pid, hk.running, hk.marker, ?_,
      fun hs => hk.sound (hs.feed bytes)⟩, hpause⟩
    · rw [hk.entries, hentries, List.append_assoc]
      rfl
    · rw [hk.output]
      simp [h', HelperReader.feed, heard, heardBy]
  | case5 h d hlate hover d' houtput =>
    obtain ⟨-, hentries⟩ := Chronicled.record_eq_iff.1 houtput
    refine ⟨⟨[.heard h.pid .ended], hentries, Reads.nil.cons, rfl, rfl, rfl, ?_, id⟩, fun h =>
      absurd h hended_ne⟩
    simp [heard, heardBy]
  | case6 h d hlate hover d' houtput =>
    obtain ⟨-, hentries⟩ := Chronicled.record_eq_iff.1 houtput
    refine ⟨⟨[.heard h.pid .nothing], hentries, Reads.nil.cons, rfl, rfl, rfl, ?_, id⟩, fun h =>
      absurd h hlate_ne⟩
    simp [heard, heardBy]

theorem catchUp_spec (t : Tended (Chronicled δ)) :
    ∃ k t', catchUp t = (.ok (), t') ∧ Listened t k t' := by
  obtain ⟨⟨k, hk⟩, -⟩ := readUntil_spec false (Bench.now t.machine) t.helper t.machine
  exact ⟨k, _, rfl, hk⟩

theorem join_spec (wait : Span) (t : Tended (Chronicled δ)) :
    ∃ k t', join wait t = (.ok (), t') ∧ Listened t k t' := by
  obtain ⟨⟨k, hk⟩, -⟩ := readUntil_spec false (Bench.now t.machine + wait.nanos) t.helper t.machine
  exact ⟨k, _, rfl, hk⟩

theorem output_spec (t : Tended (Chronicled δ)) :
    ∃ k t', output t = (.ok (Text.lossy t'.helper.reader.output), t') ∧ Listened t k t' := by
  obtain ⟨k, t', hcatch, hk⟩ := catchUp_spec t
  exact ⟨k, t', Act.bind_ok hcatch, hk⟩

/-! ## Stopping -/

theorem awaitStatus_spec (wait : Span) (t : Tended (Chronicled δ)) :
    ∃ answer t', awaitStatus wait t = (answer.mapError .io, t') ∧
      Tends t [.awaited t.helper.pid wait answer] t' :=
  ⟨_, _, rfl, rfl, .singleton rfl, rfl, (List.append_nil _).symm⟩

theorem sendSignal_spec (signal : StopSignal) (t : Tended (Chronicled δ)) :
    ∃ t', sendSignal signal t = (.ok (), t') ∧ Tends t [.signalled t.helper.pid signal] t' :=
  ⟨_, rfl, rfl, .singleton rfl, rfl, (List.append_nil _).symm⟩

omit [Processes δ] in
theorem note_spec (level : Level) (text : String) (t : Tended (Chronicled δ)) :
    ∃ t', note level text t = (.ok (), t') ∧ Tends t [] t' :=
  ⟨_, rfl, (List.append_nil _).symm, .nil, rfl, (List.append_nil _).symm⟩

/-- The second part of a stop, when the process was not seen to end. -/
def forceStop (h : Helper) : Act (Tended δ) (Option ExitStatus) := do
  note .warn (h.program ++ " (pid " ++ toString h.pid ++ ") ignored SIGTERM for " ++
    h.stopTimeout.text ++ ", killing it")
  sendSignal .kill
  Act.change fun t => { t with helper := { t.helper with forcedKills := t.helper.forcedKills + 1 } }
  let status ← awaitStatus .max
  join h.stopTimeout
  if (← Act.state).helper.reading then
    note .warn (h.program ++ " output reader did not finish, detaching it")
  return status

theorem forceStop_spec (h : Helper) (t : Tended (Chronicled δ)) :
    ∃ x answer k t', forceStop h t = (x, t') ∧
      Tends t (.signalled t.helper.pid .kill :: .awaited t.helper.pid .max answer :: k) t' := by
  unfold forceStop
  obtain ⟨t₁, hnote, ht₁⟩ := note_spec .warn (h.program ++ " (pid " ++ toString h.pid ++
    ") ignored SIGTERM for " ++ h.stopTimeout.text ++ ", killing it") t
  obtain ⟨t₂, hsignal, ht₂⟩ := sendSignal_spec .kill t₁
  rw [Act.bind_ok hnote, Act.bind_ok hsignal, Act.change_bind]
  generalize ht₃ : ({ t₂ with helper := { t₂.helper with forcedKills := t₂.helper.forcedKills + 1 } } :
    Tended (Chronicled δ)) = t₃
  have hcount : Tends t₂ [] t₃ := by
    subst ht₃
    exact ⟨(List.append_nil _).symm, .nil, rfl, (List.append_nil _).symm⟩
  obtain ⟨answer, t₄, hwait, ht₄⟩ := awaitStatus_spec .max t₃
  have hkilled := ((ht₁.trans ht₂).trans hcount).trans ht₄
  rw [ht₁.pid, hcount.pid, ht₂.pid, ht₁.pid] at hkilled
  cases answer with
  | error f => exact ⟨_, .error f, [], t₄, Act.bind_error hwait, by simpa using hkilled⟩
  | ok status =>
    obtain ⟨k, t₅, hjoin, hk⟩ := join_spec h.stopTimeout t₄
    rw [Act.bind_ok hwait, Act.bind_ok hjoin, Act.state_bind]
    have htends := hkilled.trans hk.tends
    by_cases hreading : t₅.helper.reading = true
    · rw [if_pos hreading]
      obtain ⟨t₆, hlast, ht₆⟩ :=
        note_spec .warn (h.program ++ " output reader did not finish, detaching it") t₅
      rw [Act.bind_ok hlast]
      exact ⟨_, .ok status, k, t₆, rfl, by simpa using htends.trans ht₆⟩
    · rw [if_neg hreading]
      exact ⟨_, .ok status, k, t₅, rfl, by simpa using htends⟩

theorem stop_spec (t : Tended (Chronicled δ)) :
    ∃ x k t', stop t = (x, t') ∧ Tends t k t' ∧ Stopped t.helper.pid k := by
  obtain ⟨t₁, hterm, ht₁⟩ := sendSignal_spec .term t
  obtain ⟨k, t₂, hjoin, hk⟩ := join_spec t.helper.stopTimeout t₁
  obtain ⟨answer, t₃, hwait, ht₃⟩ := awaitStatus_spec ⟨max (Bench.now t.machine +
    t.helper.stopTimeout.nanos - Bench.now t₂.machine) exitGrace.nanos⟩ t₂
  unfold stop
  rw [Act.state_bind]
  dsimp only
  rw [Act.bind_ok hterm, Act.bind_ok hjoin, Act.state_bind]
  have hbefore := (ht₁.trans hk.tends).trans ht₃
  rw [hk.pid, ht₁.pid] at hbefore
  cases answer with
  | error f => exact ⟨_, _, t₃, Act.bind_error hwait, hbefore, .gone⟩
  | ok status =>
    rw [Act.bind_ok hwait]
    cases status with
    | some status => exact ⟨_, _, t₃, rfl, hbefore, by simpa using Stopped.asked (a := [])⟩
    | none =>
      obtain ⟨x, answer, k', t', hforce, hk'⟩ := forceStop_spec t.helper t₃
      have hall := hbefore.trans hk'
      rw [hbefore.pid] at hall
      refine ⟨x, _, t', hforce, hall, ?_⟩
      rw [List.append_assoc, List.append_assoc, ← List.append_assoc k]
      exact .killed (a := [])

omit [Bench δ] [Processes δ] in
/-- The helper with the note that it is no longer to be stopped. -/
theorem release_spec (t : Tended (Chronicled δ)) : ∃ t', release t = (.ok (), t') ∧ Tends t [] t' :=
  ⟨_, rfl, (List.append_nil _).symm, .nil, rfl, (List.append_nil _).symm⟩

/-- A helper that is still to be stopped is stopped, whatever comes of it. -/
theorem kill_spec (t : Tended (Chronicled δ)) (hrunning : t.helper.running = true) :
    ∃ x k t', kill t = (x, t') ∧ Tends t k t' ∧ Stopped t.helper.pid k := by
  obtain ⟨t₁, hrelease, ht₁⟩ := release_spec t
  obtain ⟨early, t₂, hwait, ht₂⟩ := awaitStatus_spec .zero t₁
  have hbefore := ht₁.trans ht₂
  rw [ht₁.pid] at hbefore
  unfold kill
  rw [Act.state_bind]
  show ∃ x k t', (if t.helper.running = true then _ else _ : Act _ Unit) t = (x, t') ∧ _
  rw [if_pos hrunning, Act.bind_ok hrelease]
  cases early with
  | error f => exact ⟨_, _, t₂, Act.bind_error hwait, hbefore, .gone⟩
  | ok early =>
    rw [Act.bind_ok hwait]
    obtain ⟨x, k, t₃, hstop, hk, hstopped⟩ := stop_spec t₂
    have htends := hbefore.trans hk
    rw [hbefore.pid] at hstopped
    cases x with
    | error e => exact ⟨_, _, t₃, Act.bind_error hstop, htends, hstopped.after _⟩
    | ok status =>
      rw [Act.bind_ok hstop]
      cases early with
      | none => exact ⟨_, _, t₃, rfl, htends, hstopped.after _⟩
      | some status =>
        by_cases hsuccess : status.isSuccess = true
        · show ∃ x k t', (if status.isSuccess = true then _ else _ : Act _ Unit) t₃ = (x, t') ∧ _
          rw [if_pos hsuccess]
          exact ⟨_, _, t₃, rfl, htends, hstopped.after _⟩
        · obtain ⟨l, t₄, houtput, hl⟩ := output_spec t₃
          show ∃ x k t', (if status.isSuccess = true then _ else _ : Act _ Unit) t₃ = (x, t') ∧ _
          rw [if_neg hsuccess, Act.bind_ok houtput]
          exact ⟨_, _, t₄, rfl, htends.trans hl.tends, (hstopped.after _).before _⟩

theorem killQuietly_spec (t : Tended (Chronicled δ)) (hrunning : t.helper.running = true) :
    ∃ status k t', killQuietly t = (.ok status, t') ∧ Tends t k t' ∧ Stopped t.helper.pid k := by
  obtain ⟨t₁, hrelease, ht₁⟩ := release_spec t
  obtain ⟨x, k, t₂, hstop, hk, hstopped⟩ := stop_spec t₁
  have htends := ht₁.trans hk
  rw [ht₁.pid] at hstopped
  unfold killQuietly
  rw [Act.state_bind]
  show ∃ status k t', (if t.helper.running = true then _ else _ : Act _ _) t = (.ok status, t') ∧ _
  have hattempt : Act.attempt stop t₁ = (.ok x, t₂) := by
    unfold Act.attempt
    rw [hstop]
  rw [if_pos hrunning, Act.bind_ok hrelease, Act.bind_ok hattempt]
  cases x with
  | ok status => exact ⟨status, k, t₂, rfl, htends, hstopped⟩
  | error e =>
    obtain ⟨t₃, hnote, ht₃⟩ :=
      note_spec .warn ("Stopping " ++ t.helper.program ++ " failed: " ++ e.message) t₂
    refine ⟨none, k ++ [], t₃, Act.bind_ok hnote, htends.trans ht₃, ?_⟩
    rwa [List.append_nil]

/-! ## Starting -/

/-- Why a helper was not found ready. -/
def unreadyReason (spec : HelperSpec) (pause : Pause) : String :=
  if pause = .late then "not ready within " ++ spec.readyTimeout.text else "exited before becoming ready"

/-- The reason with the status, if the process has failed. -/
def reasonWith (status : Option ExitStatus) (reason : String) : String :=
  match status with
  | some s => if s.isSuccess then reason else reason ++ " (" ++ s.text ++ ")"
  | none => reason

theorem exists_reasonWith (status : Option ExitStatus) (reason : String) :
    ∃ more, reasonWith status reason = reason ++ more := by
  cases status with
  | none => exact ⟨"", String.append_empty.symm⟩
  | some s =>
    unfold reasonWith
    by_cases hsuccess : s.isSuccess = true
    · exact ⟨"", by rw [String.append_empty]; exact if_pos hsuccess⟩
    · refine ⟨" (" ++ s.text ++ ")", ?_⟩
      rw [← String.append_assoc, ← String.append_assoc]
      exact if_neg hsuccess

/-- A helper that is not found ready is stopped, and what it printed goes into the error. -/
theorem awaitReady_cases (spec : HelperSpec) (t : Tended (Chronicled δ)) {pause : Pause} {h : Helper}
    {d : Chronicled δ} (hread : readUntil true (Bench.now t.machine + spec.readyTimeout.nanos) t.helper
      t.machine = (pause, h, d)) (hrunning : h.running = true) :
    pause = .ready ∧ (∃ t', awaitReady spec t = (.ok (), t') ∧ t'.helper = h ∧
        t'.machine.entries = d.entries) ∨
      pause ≠ .ready ∧ ∃ more k t', awaitReady spec t = (.error (failure spec.program
          (unreadyReason spec pause ++ more) (Text.lossy t'.helper.reader.output)), t') ∧
        Tends ⟨h, d⟩ k t' ∧ Stopped h.pid k := by
  unfold awaitReady
  rw [Act.state_bind]
  dsimp only
  rw [hread, Act.change_bind]
  by_cases hpause : pause = .ready
  · rw [if_pos hpause]
    exact .inl ⟨hpause, _, rfl, rfl, rfl⟩
  · rw [if_neg hpause]
    obtain ⟨status, l, t₁, hkill, hl, hstopped⟩ := killQuietly_spec ⟨h, d⟩ hrunning
    obtain ⟨l', t₂, houtput, hl'⟩ := output_spec t₁
    rw [Act.bind_ok hkill, Act.bind_ok houtput]
    obtain ⟨more, hmore⟩ := exists_reasonWith status (unreadyReason spec pause)
    refine .inr ⟨hpause, more, _, t₂, ?_, hl.trans hl'.tends, hstopped.before l'⟩
    rw [← hmore]
    rfl

/-- A helper that is not found ready is stopped. -/
theorem awaitReady_spec (spec : HelperSpec) (t : Tended (Chronicled δ))
    (hrunning : t.helper.running = true) :
    ∃ x k t', awaitReady spec t = (x, t') ∧
      match x with
      | .ok _ => Listened t k t' ∧ t'.helper.reader.ready = true
      | .error _ => Tends t k t' ∧ Stopped t.helper.pid k := by
  obtain ⟨⟨k, hk⟩, hready⟩ := readUntil_spec true
    (Bench.now t.machine + spec.readyTimeout.nanos) t.helper t.machine
  rcases hread : readUntil true (Bench.now t.machine + spec.readyTimeout.nanos) t.helper t.machine with
    ⟨pause, h, d⟩
  rw [hread] at hk hready
  rcases awaitReady_cases spec t hread (hk.running.trans hrunning) with
    ⟨hpause, t', hawait, rfl, hentries⟩ | ⟨-, more, l, t', hawait, hl, hstopped⟩
  · exact ⟨_, k, t', hawait, ⟨hentries.trans hk.entries, hk.reads, hk.pid, hk.running, hk.marker,
      hk.output, hk.sound⟩, hready hpause⟩
  · rw [show h.pid = t.helper.pid from hk.pid] at hstopped
    exact ⟨_, _, t', hawait, hk.tends.trans hl, hstopped.after k⟩

variable [Files δ]

omit [Processes δ] in
theorem waitSince_entries (path : String) (step limit : Span) (begun : Nat) (d : Chronicled δ) :
    (Files.waitSince path step limit begun d).2.entries = d.entries := by
  fun_induction Files.waitSince path step limit begun d with
  | case1 => rfl
  | case2 => rfl
  | case3 => rfl
  | case4 d _ _ _ ih => exact ih

omit [Processes δ] in
theorem awaitPath_entries {spec : HelperSpec} {d d' : Chronicled δ} {x : Except Error Unit}
    (h : awaitPath spec d = (x, d')) : d'.entries = d.entries := by
  unfold awaitPath at h
  split at h
  · cases h
    rfl
  · rename_i path _
    have hwait := waitSince_entries path pathStep spec.pathTimeout (Bench.now d) d
    split at h <;> rename_i hfor <;> cases h <;> rw [← hwait] <;>
      exact (congrArg (fun x => x.2.entries) hfor).symm

/-- How the process of a helper is started. -/
def launchOf (spec : HelperSpec) : Launch := ⟨spec.program, spec.args, spec.cwd, false⟩

/-- A helper was started and has printed its marker. -/
structure Started (spec : HelperSpec) (h : Helper) (k : Chronicle) : Prop where
  begun : ∃ l, k = .spawned (launchOf spec) (.ok h.pid) :: l ∧ Reads h.pid l
  ready : Occurs (Bytes.ofText spec.marker) (heard h.pid k)
  running : h.running = true

/-- No helper was started, or it has been stopped. -/
inductive Unstarted (spec : HelperSpec) : Chronicle → Prop
  | unlaunched : Unstarted spec []
  | refused {f} : Unstarted spec [.spawned (launchOf spec) (.error f)]
  | stopped {pid l} : Deeds l → Stopped pid l →
      Unstarted spec (.spawned (launchOf spec) (.ok pid) :: l)

theorem Started.deeds {spec : HelperSpec} {h : Helper} {k : Chronicle} (hk : Started spec h k) :
    Deeds k := by
  obtain ⟨l, rfl, hl⟩ := hk.begun
  exact (Deeds.singleton rfl).append hl.deeds

theorem Unstarted.deeds {spec : HelperSpec} {k : Chronicle} (hk : Unstarted spec k) : Deeds k := by
  cases hk with
  | unlaunched => exact .nil
  | refused => exact .singleton rfl
  | stopped hl _ => exact (Deeds.singleton rfl).append hl

omit [Files δ] in
theorem launch_spec {spec : HelperSpec} {d d' : Chronicled δ} {x : Except Error Helper}
    (h : launch spec d = (x, d')) :
    match x with
    | .ok h => d'.entries = d.entries ++ [.spawned (launchOf spec) (.ok h.pid)] ∧ h.running = true ∧
        h.reading = true ∧ h.reader = .start (Bytes.ofText spec.marker)
    | .error _ => ∃ f, d'.entries = d.entries ++ [.spawned (launchOf spec) (.error f)] := by
  unfold launch at h
  split at h <;> rename_i hspawn <;> cases h
  · exact ⟨_, (Chronicled.record_eq_iff.1 hspawn).2⟩
  · exact ⟨(Chronicled.record_eq_iff.1 hspawn).2, rfl, rfl, rfl⟩

/-- The way of a start to the process of the helper. -/
def spawn (spec : HelperSpec) : Act δ Helper := awaitPath spec >>= fun _ => launch spec

/-- The ways in which a start goes: the file does not appear, the process cannot be spawned, or it is
waited for. -/
theorem start_cases {spec : HelperSpec} {d d' : Chronicled δ} {x : Except Error Helper}
    (h : start spec d = (x, d')) :
    ((∃ e, x = .error e) ∧ d'.entries = d.entries) ∨
      ((∃ e, x = .error e) ∧ ∃ f, d'.entries = d.entries ++ [.spawned (launchOf spec) (.error f)]) ∨
      ∃ helper d₁ y t, spawn spec d = (.ok helper, d₁) ∧
        d₁.entries = d.entries ++ [.spawned (launchOf spec) (.ok helper.pid)] ∧
        helper.running = true ∧ helper.reading = true ∧
        helper.reader = .start (Bytes.ofText spec.marker) ∧
        awaitReady spec ⟨helper, d₁⟩ = (y, t) ∧ x = y.map (fun _ => t.helper) ∧ d' = t.machine := by
  unfold start at h
  rcases Act.bind_eq_iff.1 h with ⟨e, hpath, rfl⟩ | ⟨_, d₁, hpath, h⟩
  · exact .inl ⟨⟨e, rfl⟩, awaitPath_entries hpath⟩
  rw [← awaitPath_entries hpath]
  rcases Act.bind_eq_iff.1 h with ⟨e, hlaunch, rfl⟩ | ⟨helper, d₂, hlaunch, h⟩
  · exact .inr (.inl ⟨⟨e, rfl⟩, launch_spec hlaunch⟩)
  obtain ⟨hentries, hrunning, hreading, hreader⟩ := launch_spec hlaunch
  rcases hready : awaitReady spec ⟨helper, d₂⟩ with ⟨y, t⟩
  have htending : tending helper (awaitReady spec) d₂ = (.ok (y, t.helper), t.machine) := by
    unfold tending
    rw [hready]
  rw [Act.bind_ok htending] at h
  refine .inr (.inr ⟨helper, d₂, y, t, (Act.bind_ok hpath).trans hlaunch, hentries, hrunning, hreading,
    hreader, hready, ?_⟩)
  cases y with
  | error e =>
    cases h
    exact ⟨rfl, rfl⟩
  | ok _ =>
    cases h
    exact ⟨rfl, rfl⟩

/-- A helper that is started has printed its marker; else there is none, or it has been stopped. -/
theorem start_spec {spec : HelperSpec} {d d' : Chronicled δ} {x : Except Error Helper}
    (h : start spec d = (x, d')) :
    ∃ k, d'.entries = d.entries ++ k ∧
      match x with
      | .ok h => Started spec h k
      | .error _ => Unstarted spec k := by
  rcases start_cases h with ⟨⟨e, rfl⟩, hentries⟩ | ⟨⟨e, rfl⟩, f, hentries⟩ |
    ⟨helper, d₁, y, t, -, hentries, hrunning, -, hreader, hready, rfl, rfl⟩
  · exact ⟨[], hentries.trans (List.append_nil _).symm, .unlaunched⟩
  · exact ⟨_, hentries, .refused⟩
  obtain ⟨y', k, t', hready', hy⟩ := awaitReady_spec spec ⟨helper, d₁⟩ hrunning
  obtain ⟨rfl, rfl⟩ := Prod.mk.inj (hready.symm.trans hready')
  have hall {l : Chronicle} (hl : t.machine.entries = d₁.entries ++ l) :
      t.machine.entries = d.entries ++ .spawned (launchOf spec) (.ok helper.pid) :: l := by
    rw [hl, hentries, List.append_assoc]
    rfl
  cases y with
  | error e =>
    obtain ⟨hk, hstopped⟩ := hy
    exact ⟨_, hall hk.entries, .stopped hk.deeds hstopped⟩
  | ok _ =>
    obtain ⟨hk, hfound⟩ := hy
    refine ⟨_, hall hk.entries, ⟨k, by rw [hk.pid], hk.pid ▸ hk.reads⟩, ?_, hk.running.trans hrunning⟩
    have hsound := hk.sound (hreader ▸ HelperReader.sound_start _) hfound
    rw [hk.marker, hk.output, hreader] at hsound
    show Occurs _ (heard t.helper.pid _)
    rw [hk.pid]
    exact hsound

end Helper
end BoardBench
