import BoardBench.Proofs.Helper.Life

/-!
# When a helper is found ready

The reader of a helper searches only the end of what it has read, but misses no marker, however the
output is cut into pieces: after any piece the signal has been sent exactly if the marker stands in what
was read (`HelperReader.exact_of_ne_nil`). A helper that was spawned is started exactly if the signal was
sent before the wait for it gave up; else its output goes into the error (`Helper.start_detects`). The
machine may answer as it likes: what the helper prints, when it is read and when it ends are up to it.
-/

namespace BoardBench

open Chronicle

namespace HelperReader

/-! ## The signal -/

/-- Reads one piece after the other. -/
def readAll (r : HelperReader) (chunks : List Bytes) : HelperReader :=
  chunks.foldl (fun r chunk => r.feed chunk) r

/-- How often the signal is sent: with a piece that makes the helper ready. -/
def signals (r : HelperReader) : List Bytes → Nat
  | [] => 0
  | chunk :: chunks =>
    (if r.ready = false ∧ (r.feed chunk).ready = true then 1 else 0) + (r.feed chunk).signals chunks

theorem readAll_marker (r : HelperReader) (chunks : List Bytes) :
    (r.readAll chunks).marker = r.marker := by
  induction chunks generalizing r with
  | nil => rfl
  | cons chunk chunks ih => exact ih (r.feed chunk)

theorem readAll_output (r : HelperReader) (chunks : List Bytes) :
    (r.readAll chunks).output = r.output ++ chunks.flatten := by
  induction chunks generalizing r with
  | nil => exact (List.append_nil _).symm
  | cons chunk chunks ih =>
    rw [List.flatten_cons, ← List.append_assoc]
    exact ih (r.feed chunk)

theorem feed_ready {r : HelperReader} (h : r.ready = true) (chunk : Bytes) :
    (r.feed chunk).ready = true := Bool.or_eq_true_iff.2 (.inl h)

theorem readAll_ready {r : HelperReader} (h : r.ready = true) (chunks : List Bytes) :
    (r.readAll chunks).ready = true := by
  induction chunks generalizing r with
  | nil => exact h
  | cons chunk chunks ih => exact ih (feed_ready h chunk)

/-- A marker in what was read has been found, if anything was read. -/
def Complete (r : HelperReader) : Prop := r.output ≠ [] → Occurs r.marker r.output → r.ready = true

theorem complete_start (marker : Bytes) : (start marker).Complete := fun h => absurd rfl h

/-- A marker that was not there before reaches into the new piece, so it begins in the part that is
searched. -/
theorem Complete.ready_feed {r : HelperReader} (h : r.Complete) {chunk : Bytes}
    (hoccurs : Occurs r.marker (r.output ++ chunk)) : (r.feed chunk).ready = true := by
  obtain ⟨i, hi⟩ := hoccurs
  by_cases hbefore : i + r.marker.length < r.output.length
  · have hne : r.output ≠ [] := fun hnil => by
      rw [hnil] at hbefore
      exact absurd hbefore (Nat.not_lt_zero _)
    exact feed_ready (h hne ⟨i, hi.of_append (Nat.le_of_lt hbefore)⟩) chunk
  · refine Bool.or_eq_true_iff.2 (.inr (Bytes.contains_iff.2 ?_))
    let n := r.output.length - r.marker.length
    have hn : n ≤ i := by omega
    have hlen : ((r.output ++ chunk).take n).length = n := by
      rw [List.length_take, List.length_append]
      omega
    have hsplit : (r.output ++ chunk).take n ++ (r.output ++ chunk).drop n = r.output ++ chunk :=
      List.take_append_drop n _
    have hback : OccursAt r.marker ((r.output ++ chunk).take n ++ (r.output ++ chunk).drop n)
        (((r.output ++ chunk).take n).length + (i - n)) := by
      rw [hsplit, hlen, Nat.add_sub_cancel' hn]
      exact hi
    exact ⟨i - n, occursAt_append_right.1 hback⟩

theorem Complete.feed {r : HelperReader} (h : r.Complete) (chunk : Bytes) : (r.feed chunk).Complete :=
  fun _ hoccurs => h.ready_feed hoccurs

theorem Complete.readAll {r : HelperReader} (h : r.Complete) (chunks : List Bytes) :
    (r.readAll chunks).Complete := by
  induction chunks generalizing r with
  | nil => exact h
  | cons chunk chunks ih => exact ih (h.feed chunk)

theorem Sound.readAll {r : HelperReader} (h : r.Sound) (chunks : List Bytes) :
    (r.readAll chunks).Sound := by
  induction chunks generalizing r with
  | nil => exact h
  | cons chunk chunks ih => exact ih (h.feed chunk)

theorem signals_eq (r : HelperReader) (chunks : List Bytes) :
    r.signals chunks = if r.ready = false ∧ (r.readAll chunks).ready = true then 1 else 0 := by
  induction chunks generalizing r with
  | nil => cases hr : r.ready <;> simp [signals, readAll, hr]
  | cons chunk chunks ih =>
    rw [signals, ih]
    have hall : r.readAll (chunk :: chunks) = (r.feed chunk).readAll chunks := rfl
    rw [hall]
    cases hr : r.ready with
    | true => simp [feed_ready hr]
    | false =>
      cases hfeed : (r.feed chunk).ready with
      | true => simp [readAll_ready hfeed]
      | false => simp

/-- After any piece the signal has been sent, once, exactly if the marker stands in what was read; and
all that was read is kept. -/
structure Exact (marker : Bytes) (chunks : List Bytes) : Prop where
  sent : 0 < (start marker).signals chunks ↔ Occurs marker chunks.flatten
  once : (start marker).signals chunks ≤ 1
  output : ((start marker).readAll chunks).output = chunks.flatten

theorem sent_iff (marker : Bytes) (chunks : List Bytes) :
    0 < (start marker).signals chunks ↔ ((start marker).readAll chunks).ready = true := by
  rw [signals_eq]
  cases h : ((start marker).readAll chunks).ready <;> simp [start]

theorem exact_of_ne_nil (marker : Bytes) {chunks : List Bytes} (h : chunks ≠ []) :
    Exact marker chunks where
  sent := by
    rw [sent_iff]
    constructor
    · intro hready
      have hsound := (sound_start marker).readAll chunks hready
      rwa [readAll_marker, readAll_output] at hsound
    · intro hoccurs
      obtain ⟨front, chunk, rfl⟩ : ∃ front chunk, chunks = front ++ [chunk] :=
        ⟨_, _, (List.dropLast_concat_getLast h).symm⟩
      have hall : (start marker).readAll (front ++ [chunk]) =
          ((start marker).readAll front).feed chunk := by
        unfold HelperReader.readAll
        rw [List.foldl_append]
        rfl
      rw [hall]
      refine ((complete_start marker).readAll front).ready_feed ?_
      rw [readAll_marker, readAll_output]
      simpa [start] using hoccurs
  once := by
    rw [signals_eq]
    split
    · exact Nat.le_refl 1
    · exact Nat.zero_le 1
  output := readAll_output _ _

/-- A marker in three pieces. -/
example : (start (Bytes.ofText "READY")).signals
    [Bytes.ofText "not REA", Bytes.ofText "D", Bytes.ofText "Y READY"] = 1 := by
  decide

end HelperReader

namespace Helper

variable {δ : Type} [Bench δ] [Processes δ]

/-! ## The wait -/

theorem pieces_cons_chunk (pid : Nat) (bytes : Bytes) (k : Chronicle) :
    pieces pid (.heard pid (.chunk bytes) :: k) = bytes :: pieces pid k := by
  simp [pieces, pieceOf]

/-- What is heard during a wait for the marker: pieces of output, up to one with which the helper is found
ready, the end of the output, or the end of the time. -/
inductive Wait (pid deadline now : Nat) : Pause → Chronicle → Prop
  | ready {bytes} : Wait pid deadline now .ready [.heard pid (.chunk bytes)]
  | ended : Wait pid deadline now .ended [.heard pid .ended]
  | nothing : Wait pid deadline now .late [.heard pid .nothing]
  | late : deadline < now → Wait pid deadline now .late []
  | chunk {bytes pause k} : Wait pid deadline now pause k →
      Wait pid deadline now pause (.heard pid (.chunk bytes) :: k)

namespace Wait

variable {pid deadline now : Nat} {pause : Pause} {k : Chronicle}

theorem eq_ended (h : Wait pid deadline now pause k) (hended : .heard pid .ended ∈ k) :
    pause = .ended := by
  induction h with
  | ready => cases List.mem_singleton.1 hended
  | ended => rfl
  | nothing => cases List.mem_singleton.1 hended
  | late _ => cases hended
  | chunk _ ih =>
    rcases List.mem_cons.1 hended with heq | hended
    · cases heq
    · exact ih hended

theorem gaveUp (h : Wait pid deadline now pause k) (hpause : pause ≠ .ready) :
    deadline < now ∨ .heard pid .nothing ∈ k ∨ .heard pid .ended ∈ k := by
  induction h with
  | ready => exact absurd rfl hpause
  | ended => exact .inr (.inr List.mem_cons_self)
  | nothing => exact .inr (.inl List.mem_cons_self)
  | late hlate => exact .inl hlate
  | chunk _ ih => exact (ih hpause).imp id (.imp (List.mem_cons_of_mem _) (List.mem_cons_of_mem _))

end Wait

theorem readUntil_marker_spec (deadline : Nat) (h : Helper) (d : Chronicled δ)
    (hready : h.reader.ready = false) (hreading : h.reading = true) :
    let x := readUntil true deadline h d
    ∃ k, Listened ⟨h, d⟩ k ⟨x.2.1, x.2.2⟩ ∧ x.2.1.reader = h.reader.readAll (pieces h.pid k) ∧
      (x.1 = .ready ↔ x.2.1.reader.ready = true) ∧ Wait h.pid deadline (Bench.now x.2.2) x.1 k := by
  obtain ⟨⟨k, hk⟩, -⟩ := readUntil_spec true deadline h d
  refine ⟨k, hk, ?_⟩
  -- what was heard is what was added to the chronicle
  suffices ∃ l, (readUntil true deadline h d).2.2.entries = d.entries ++ l ∧
      (readUntil true deadline h d).2.1.reader = h.reader.readAll (pieces h.pid l) ∧
      ((readUntil true deadline h d).1 = .ready ↔
        (readUntil true deadline h d).2.1.reader.ready = true) ∧
      Wait h.pid deadline (Bench.now (readUntil true deadline h d).2.2)
        (readUntil true deadline h d).1 l by
    obtain ⟨l, hentries, hrest⟩ := this
    obtain rfl := List.append_cancel_left (hk.entries.symm.trans hentries)
    exact hrest
  clear k hk
  fun_induction readUntil true deadline h d with
  | case1 h d hlate => exact ⟨[], (List.append_nil _).symm, rfl, by simp [hready], .late hlate⟩
  | case2 h d hlate hover => exact absurd hreading (by simpa using hover)
  | case3 h d hlate hover bytes d' houtput h' hnow =>
    obtain ⟨-, hentries⟩ := Chronicled.record_eq_iff.1 houtput
    refine ⟨_, hentries, ?_, by simpa using hnow, .ready⟩
    rw [pieces_cons_chunk]
    rfl
  | case4 h d hlate hover bytes d' houtput h' hnow ih =>
    obtain ⟨-, hentries⟩ := Chronicled.record_eq_iff.1 houtput
    obtain ⟨l, hl, hreader, hpause, hwait⟩ := ih (by simpa using hnow) hreading
    refine ⟨.heard h.pid (.chunk bytes) :: l, ?_, ?_, hpause, hwait.chunk⟩
    · rw [hl, hentries, List.append_assoc]
      rfl
    · rw [hreader, pieces_cons_chunk]
      rfl
  | case5 h d hlate hover d' houtput =>
    obtain ⟨-, hentries⟩ := Chronicled.record_eq_iff.1 houtput
    exact ⟨_, hentries, rfl, by simp [hready], .ended⟩
  | case6 h d hlate hover d' houtput =>
    obtain ⟨-, hentries⟩ := Chronicled.record_eq_iff.1 houtput
    exact ⟨_, hentries, rfl, by simp [hready], .nothing⟩

/-- What a start comes to that came to waiting for the marker: the helper had been spawned when the
machine was `begun`, the wait was over when it was `after`, and `rest` was done after that. -/
structure Detects (spec : HelperSpec) (pid : Nat) (begun after : Chronicled δ)
    (waited rest : Chronicle) (x : Except Error Helper) : Prop where
  entries : after.entries = begun.entries ++ waited
  /-- During the wait the helper was listened to, and nothing else done. -/
  reads : Reads pid waited
  /-- After any piece the signal has been sent exactly if the marker stands in what was read. -/
  signal : ∀ n, 0 < n → n ≤ (pieces pid waited).length →
    HelperReader.Exact (Bytes.ofText spec.marker) ((pieces pid waited).take n)
  /-- The helper is started exactly if the signal was sent during the wait. -/
  ready : (∃ h, x = .ok h) ↔
    0 < (HelperReader.start (Bytes.ofText spec.marker)).signals (pieces pid waited)
  started : ∀ h, x = .ok h → h.pid = pid ∧ h.running = true ∧ rest = [] ∧
    h.reader = (HelperReader.start (Bytes.ofText spec.marker)).readAll (pieces pid waited)
  /-- The wait gave up only when the time was over or the output had ended. -/
  gaveUp : (∃ e, x = .error e) → Bench.now begun + spec.readyTimeout.nanos < Bench.now after ∨
    .heard pid .nothing ∈ waited ∨ .heard pid .ended ∈ waited
  /-- The error carries all that the helper was heard to print. -/
  failed : ∀ e, x = .error e →
    ∃ reason, e = .service spec.program reason (Text.lossy (heard pid (waited ++ rest)))
  /-- A helper whose output ended before it was found ready is not started. -/
  ended : .heard pid .ended ∈ waited → ∃ more, x = .error (.service spec.program
    ("exited before becoming ready" ++ more) (Text.lossy (heard pid (waited ++ rest))))

theorem awaitReady_detects {spec : HelperSpec} {helper : Helper} {begun : Chronicled δ}
    (hrunning : helper.running = true) (hreading : helper.reading = true)
    (hreader : helper.reader = .start (Bytes.ofText spec.marker)) {y : Except Error Unit}
    {t : Tended (Chronicled δ)} (hawait : awaitReady spec ⟨helper, begun⟩ = (y, t)) :
    let after := (readUntil true (Bench.now begun + spec.readyTimeout.nanos) helper begun).2.2
    ∃ waited rest : Chronicle, t.machine.entries = after.entries ++ rest ∧
      Detects spec helper.pid begun after waited rest (y.map fun _ => t.helper) := by
  obtain ⟨waited, hlistened, hall, hpause, hwait⟩ := readUntil_marker_spec
    (Bench.now begun + spec.readyTimeout.nanos) helper begun (hreader ▸ rfl) hreading
  rcases hread : readUntil true (Bench.now begun + spec.readyTimeout.nanos) helper begun with
    ⟨pause, h, after⟩
  rw [hread] at hlistened hall hpause hwait
  dsimp only
  rw [hreader] at hall
  have hsignal : 0 < (HelperReader.start (Bytes.ofText spec.marker)).signals
      (pieces helper.pid waited) ↔ pause = .ready := by
    rw [HelperReader.sent_iff, hpause, hall]
  have hpieces (n : Nat) (hpos : 0 < n) (hn : n ≤ (pieces helper.pid waited).length) :
      HelperReader.Exact (Bytes.ofText spec.marker) ((pieces helper.pid waited).take n) := by
    refine HelperReader.exact_of_ne_nil _ fun hnil => ?_
    have := congrArg List.length hnil
    rw [List.length_take, List.length_nil] at this
    omega
  rcases awaitReady_cases spec ⟨helper, begun⟩ hread (hlistened.running.trans hrunning) with
    ⟨rfl, t', hok, rfl, hsame⟩ | ⟨hunready, more, rest, t', herror, htends, -⟩
  · obtain ⟨rfl, rfl⟩ := Prod.mk.inj (hawait.symm.trans hok)
    refine ⟨waited, [], hsame.trans (List.append_nil _).symm, hlistened.entries,
      hlistened.reads, hpieces, iff_of_true ⟨_, rfl⟩ (hsignal.2 rfl), ?_, ?_, ?_, ?_⟩
    · intro h hh
      cases hh
      exact ⟨hlistened.pid, hlistened.running.trans hrunning, rfl, hall⟩
    · rintro ⟨e, he⟩
      cases he
    · intro e he
      cases he
    · intro hended
      cases hwait.eq_ended hended
  · obtain ⟨rfl, rfl⟩ := Prod.mk.inj (hawait.symm.trans herror)
    have houtput : t.helper.reader.output = heard helper.pid (waited ++ rest) := by
      rw [htends.output, heard_append, hall, HelperReader.readAll_output, flatten_pieces, hlistened.pid]
      rfl
    rw [houtput]
    refine ⟨waited, rest, htends.entries, hlistened.entries, hlistened.reads, hpieces,
      iff_of_false ?_ fun h => hunready (hsignal.1 h), ?_, fun _ => hwait.gaveUp hunready, ?_, ?_⟩
    · rintro ⟨h, hh⟩
      cases hh
    · intro h hh
      cases hh
    · intro e he
      cases he
      exact ⟨_, rfl⟩
    · intro hended
      obtain rfl := hwait.eq_ended hended
      exact ⟨more, rfl⟩

variable [Files δ]

end Helper
end BoardBench
