import BoardBench.Proofs.Session.Clearing

/-!
# Traffic logs

What the sink of a session is asked to take follows from what is done with the session: a copy of what
is sent once all of it is out, a copy of what each read brings, and a flush whenever the transport is
about to be closed (`Use.Effect.log`). Sessions that differ in their sinks are used alike, whatever the
sinks refuse (`Use.performAll_sameButLog`). So a sink that refuses nothing keeps the traffic, and no sink
interferes with it (`Use.performAll_logs_traffic`).
-/

namespace BoardBench

/-- The request to take bytes, if there are any. -/
def LogEntry.ofBytes (bytes : Bytes) : List LogEntry := if bytes.isEmpty then [] else [.data bytes]

namespace LogSink

/-- Makes requests one after the other. -/
def askAll (es : List LogEntry) (s : LogSink) : LogSink := es.foldl (fun s e => (s.ask e).2) s

theorem askAll_append (es more : List LogEntry) (s : LogSink) :
    s.askAll (es ++ more) = (s.askAll es).askAll more :=
  List.foldl_append

theorem write_eq_askAll (bytes : Bytes) (s : LogSink) : (s.write bytes).2 = s.askAll (LogEntry.ofBytes bytes) := by
  unfold write LogEntry.ofBytes
  split <;> rfl

/-- A sink that refuses nothing takes all that it is asked to take. -/
theorem entries_askAll {s : LogSink} (h : ∀ n e, s.refuses n e = false) (es : List LogEntry) :
    (s.askAll es).entries = s.entries ++ es := by
  induction es generalizing s with
  | nil => exact (List.append_nil _).symm
  | cons e es ih =>
    have hrest : ((s.ask e).2.askAll es).entries = (s.ask e).2.entries ++ es := ih h
    have htaken : (s.ask e).2.entries = s.entries ++ [e] := by
      simp [ask, entries, h]
    show ((s.ask e).2.askAll es).entries = _
    rw [hrest, htaken, List.append_assoc]
    rfl

end LogSink

/-! ## Calls that are traffic -/

/-- Whether the call neither opens nor closes the transport. -/
def Call.isTraffic : Call → Bool
  | .reopen _ | .close _ => false
  | _ => true

/-- What a sink is asked to take of a call: a copy of what came in, and a flush before a close. -/
def Call.entries : Call → List LogEntry
  | .read (.ok bytes) => LogEntry.ofBytes bytes
  | .close _ => [.flush]
  | _ => []

namespace Journal

/-- No call opens or closes the transport. -/
def Traffic (j : Journal) : Prop := ∀ c ∈ j, c.isTraffic = true

/-- What a sink is asked to take of calls. -/
def entries (j : Journal) : List LogEntry := j.flatMap Call.entries

theorem entries_append (j k : Journal) : entries (j ++ k) = entries j ++ entries k :=
  List.flatMap_append

theorem Traffic.nil : Traffic [] := fun _ hc => absurd hc List.not_mem_nil

theorem Traffic.append {j k : Journal} (hj : Traffic j) (hk : Traffic k) : Traffic (j ++ k) :=
  fun c hc => (List.mem_append.1 hc).elim (hj c) (hk c)

theorem Traffic.singleton {c : Call} (h : c.isTraffic = true) : Traffic [c] := by
  intro c' hc
  obtain rfl := List.mem_singleton.1 hc
  exact h

/-- Nothing came in, and the transport was not closed. -/
def Outgoing (j : Journal) : Prop := Traffic j ∧ entries j = []

theorem Outgoing.append {j k : Journal} (hj : Outgoing j) (hk : Outgoing k) : Outgoing (j ++ k) :=
  ⟨hj.1.append hk.1, by rw [entries_append, hj.2, hk.2, List.append_nil]⟩

end Journal

open Journal

variable {δ : Type} [Bench δ] [Transport δ]

theorem Transport.writeLoop_outgoing (bytes : Bytes) (r : Recorded δ) :
    ∃ j, (Transport.writeLoop bytes r).2.journal = r.journal ++ j ∧ Outgoing j := by
  have first {bytes : Bytes} {r d r' : Recorded δ} {x : Except Fault Nat} {j : Journal}
      (hw : Transport.write bytes r = (x, d)) (hj : r'.journal = d.journal ++ j) (hout : Outgoing j) :
      ∃ j, r'.journal = r.journal ++ j ∧ Outgoing j := by
    have hcall : Outgoing [.write bytes x] := ⟨.singleton rfl, rfl⟩
    exact ⟨_ ++ j, by rw [hj, (Recorded.call_eq_iff.1 hw).2, List.append_assoc], hcall.append hout⟩
  refine Transport.writeLoop_rounds (fun _ r x => ∃ j, x.2.journal = r.journal ++ j ∧ Outgoing j)
    ?done ?again ?failed ?stuck ?more bytes r
  case done => exact fun r => ⟨[], (List.append_nil _).symm, .nil, rfl⟩
  case again =>
    rintro bytes r f d x hw - ⟨j, hj, hout⟩
    exact first hw hj hout
  case failed => exact fun bytes r f d hw => ⟨_, (Recorded.call_eq_iff.1 hw).2, .singleton rfl, rfl⟩
  case stuck => exact fun bytes r d hw => ⟨_, (Recorded.call_eq_iff.1 hw).2, .singleton rfl, rfl⟩
  case more =>
    rintro bytes r n d x hw ⟨j, hj, hout⟩
    exact first hw hj hout

theorem Transport.writeAll_outgoing {bytes : Bytes} {r r' : Recorded δ} {x : Except Error Unit}
    (h : Transport.writeAll bytes r = (x, r')) : ∃ j, r'.journal = r.journal ++ j ∧ Outgoing j := by
  unfold Transport.writeAll at h
  split at h
  · rename_i f d hloop
    cases h
    have hout := Transport.writeLoop_outgoing bytes r
    rwa [hloop] at hout
  · rename_i u d hloop
    obtain ⟨j, hj, hout⟩ := Transport.writeLoop_outgoing bytes r
    rw [hloop] at hj
    have hlast {y : Except Fault Unit} {d' : Recorded δ} (hflush : Transport.flush d = (y, d')) :
        ∃ j, d'.journal = r.journal ++ j ∧ Outgoing j := by
      have hcall : Outgoing [.flush y] := ⟨.singleton rfl, rfl⟩
      exact ⟨j ++ _, by rw [(Recorded.call_eq_iff.1 hflush).2, hj, List.append_assoc], hout.append hcall⟩
    split at h <;> rename_i hflush <;> cases h <;> exact hlast hflush

namespace Session

/-- The calls `j`, none of which opens or closes the transport, led from `s` to `s'`, and the sink was asked
to take `es` meanwhile. -/
structure Carries (s : Session (Recorded δ)) (j : Journal) (es : List LogEntry)
    (s' : Session (Recorded δ)) : Prop where
  journal : s'.device.journal = s.device.journal ++ j
  traffic : Traffic j
  log : s'.log = s.log.map (·.askAll es)
  closed : s'.closed = s.closed

namespace Carries

variable {s t u : Session (Recorded δ)} {j k : Journal} {es more : List LogEntry}

omit [Bench δ] [Transport δ]

theorem refl (s : Session (Recorded δ)) : s.Carries [] [] s :=
  ⟨(List.append_nil _).symm, .nil, Option.map_id'.symm, rfl⟩

theorem trans (h : s.Carries j es t) (h' : t.Carries k more u) :
    s.Carries (j ++ k) (es ++ more) u := by
  refine ⟨by rw [h'.journal, h.journal, List.append_assoc], h.traffic.append h'.traffic, ?_,
    h'.closed.trans h.closed⟩
  rw [h'.log, h.log, Option.map_map]
  exact congrArg (Option.map · s.log) (funext fun sink => (LogSink.askAll_append es more sink).symm)

/-- What is buffered does not matter. -/
theorem setBuffer (h : s.Carries j es t) (buffer : Bytes) : s.Carries j es { t with buffer } :=
  ⟨h.journal, h.traffic, h.log, h.closed⟩

end Carries

omit [Bench δ] [Transport δ] in
theorem copyToLog_log (bytes : Bytes) (s : Session (Recorded δ)) :
    (copyToLog bytes s).log = s.log.map (·.askAll (LogEntry.ofBytes bytes)) :=
  congrArg (Option.map · s.log) (funext fun sink => LogSink.write_eq_askAll bytes sink)

/-! ## One use -/

/-- What was sent is copied once all of it is out. -/
theorem send_carries {bytes : Bytes} {s s' : Session (Recorded δ)} {x : Except Error Unit}
    (h : send bytes s = (x, s')) : ∃ j, entries j = [] ∧
      s.Carries j (match x with | .ok _ => LogEntry.ofBytes bytes | .error _ => []) s' := by
  unfold send onDevice at h
  rcases Act.bind_eq_iff.1 h with ⟨e, hw, rfl⟩ | ⟨u, t, hw, hlog⟩
  · obtain ⟨d, hd, rfl⟩ := Act.zoom_eq_iff.1 hw
    obtain ⟨j, hj, htraffic, hentries⟩ := Transport.writeAll_outgoing hd
    exact ⟨j, hentries, hj, htraffic, Option.map_id'.symm, rfl⟩
  · obtain ⟨d, hd, rfl⟩ := Act.zoom_eq_iff.1 hw
    obtain ⟨j, hj, htraffic, hentries⟩ := Transport.writeAll_outgoing hd
    cases hlog
    exact ⟨j, hentries, hj, htraffic, copyToLog_log bytes _, rfl⟩

/-- What comes in is copied when it is put into the buffer. -/
theorem fill_carries {wait : Span} {s s' : Session (Recorded δ)} {x : Except Error Fill}
    (h : fill wait s = (x, s')) : ∃ j, s.Carries j (entries j) s' := by
  unfold fill at h
  split at h
  · rename_i e d hset
    cases h
    exact ⟨_, (Recorded.call_eq_iff.1 hset).2, .singleton rfl, Option.map_id'.symm, rfl⟩
  rename_i u d hset
  let t : Span := ⟨max wait.nanos shortestWait.nanos⟩
  have htraffic (y : Except Fault Bytes) : Traffic ([.setTimeout t (.ok u)] ++ [.read y]) :=
    Traffic.append (.singleton rfl) (.singleton rfl)
  have hcalls {y : Except Fault Bytes} {d' : Recorded δ} (hread : Transport.read readChunk d = (y, d')) :
      d'.journal = s.device.journal ++ ([.setTimeout t (.ok u)] ++ [.read y]) := by
    rw [(Recorded.call_eq_iff.1 hread).2, (Recorded.call_eq_iff.1 hset).2, List.append_assoc]
  split at h
  · rename_i d' hread
    cases h
    exact ⟨_, hcalls hread, htraffic _, Option.map_id'.symm, rfl⟩
  · rename_i bytes d' _ hread
    cases h
    have hentries : entries ([.setTimeout t (.ok u)] ++ [.read (.ok bytes)]) = LogEntry.ofBytes bytes :=
      List.append_nil _
    exact ⟨_, hcalls hread, htraffic _, hentries ▸ copyToLog_log bytes _, rfl⟩
  · rename_i f d' hread
    split at h <;> cases h <;> exact ⟨_, hcalls hread, htraffic _, Option.map_id'.symm, rfl⟩

omit [Bench δ] [Transport δ] in
/-- What a read carries comes before what those after it carry. -/
theorem Carries.reads {s t u : Session (Recorded δ)} {j : Journal} {k : Journal}
    (h : s.Carries j (entries j) t) (h' : t.Carries k (entries k) u) :
    s.Carries (j ++ k) (entries (j ++ k)) u := by
  rw [entries_append]
  exact h.trans h'

theorem expectSince_carries (start : Nat) (ps : List Pattern) (timeout : Span)
    (s : Session (Recorded δ)) :
    ∃ j, s.Carries j (entries j) (expectSince start ps timeout s).2 := by
  refine expectSince_rounds (fun s r => ∃ j, s.Carries j (entries j) r.2) ?met ?late ?failed ?ended
    ?next s
  case met => exact fun s m rest _ => ⟨[], (Carries.refl s).setBuffer rest⟩
  case late => exact fun s _ _ => ⟨[], .refl s⟩
  case failed => exact fun s wait e t _ _ hfill => fill_carries hfill
  case ended => exact fun s wait t _ _ hfill => fill_carries hfill
  case next =>
    rintro s wait f t r - - hfill - ⟨k, hk⟩
    obtain ⟨j, hj⟩ := fill_carries hfill
    exact ⟨j ++ k, hj.reads hk⟩

theorem Drains.carries {start n : Nat} {s : Session (Recorded δ)}
    {r : Except Error Unit × Session (Recorded δ)} (h : Drains start n s r) :
    ∃ j, s.Carries j (entries j) r.2 := by
  induction h with
  | @late s _ => exact ⟨[], .refl s⟩
  | failed _ hfill => exact fill_carries hfill
  | quiet _ hfill _ => exact fill_carries hfill
  | more _ hfill _ ih =>
    obtain ⟨j, hj⟩ := fill_carries hfill
    obtain ⟨k, hk⟩ := ih
    exact ⟨j ++ k, hj.reads hk⟩

theorem readRaw_carries (max : Nat) (timeout : Span) (s : Session (Recorded δ)) :
    ∃ j, s.Carries j (entries j) (readRaw max timeout s).2 := by
  unfold readRaw
  rw [Act.state_bind]
  by_cases hempty : s.buffer.isEmpty = true
  · rw [if_pos hempty]
    rcases hfill : fill timeout s with ⟨e | f, t⟩ <;> obtain ⟨j, hj⟩ := fill_carries hfill
    · rw [Act.bind_error hfill]
      exact ⟨j, hj⟩
    · rw [Act.bind_ok hfill]
      exact ⟨j, hj.setBuffer _⟩
  · rw [if_neg hempty]
    exact ⟨[], (Carries.refl s).setBuffer _⟩

/-- What is dropped is copied too. -/
theorem clearBuffer_carries (s : Session (Recorded δ)) :
    ∃ j, s.Carries j (entries j) (clearBuffer s).2 := by
  rcases hclear : Transport.clear s.device with ⟨e | ⟨⟩, d⟩
  · rw [clearBuffer_of_not_clear hclear]
    exact ⟨_, (Recorded.call_eq_iff.1 hclear).2, .singleton rfl, Option.map_id'.symm, rfl⟩
  · rw [clearBuffer_of_clear hclear]
    let t : Session (Recorded δ) := { s with device := d, buffer := [] }
    have hcall : s.Carries [.clear (.ok ())] [] t :=
      ⟨(Recorded.call_eq_iff.1 hclear).2, .singleton rfl, Option.map_id'.symm, rfl⟩
    obtain ⟨n, hn⟩ := drainSince_drains t.now t
    obtain ⟨buffer, hdrain⟩ := drain_of_drains hn
    obtain ⟨j, hj⟩ := hn.carries
    rw [hdrain]
    exact ⟨_, hcall.reads (hj.setBuffer buffer)⟩

/-- Only an opening that succeeds makes the transport one that is to be closed. -/
theorem reopen_eq {s : Session δ} {x : Except Error Unit} {d : δ}
    (h : Transport.reopen s.device = (x, d)) :
    reopen s = (x, { s with device := d, buffer := [], closed := s.closed && !x.isOk }) := by
  have hdevice : onDevice Transport.reopen { s with buffer := [] } =
      (x, { s with device := d, buffer := [] }) := Act.zoom_eq_iff.2 ⟨d, h, rfl⟩
  unfold reopen
  rw [Act.change_bind]
  cases x with
  | error e =>
    rw [Act.bind_error hdevice]
    simp [Except.isOk, Except.toBool]
  | ok u =>
    rw [Act.bind_ok hdevice]
    simp [Except.isOk, Except.toBool, Act.change]

/-! ## What a use does -/

namespace Use

/-- What the use sends. -/
def sent : Use → Bytes
  | .call (.send bytes) => bytes
  | .call (.sendLine line) => line ++ lineEnd
  | _ => []

/-- Whether the use leaves the session its sink. -/
def keepsLog : Use → Bool
  | .call (.setLog _) => false
  | _ => true

/-- What a use that came to `r` with the calls `j` asks the sink to take: what was sent, if all of it
was, and what the calls brought in. -/
def entries (use : Use) (r : Except Error Yield) (j : Journal) : List LogEntry :=
  (match r with | .ok _ => LogEntry.ofBytes use.sent | .error _ => []) ++ j.entries

/-- What may come of a use. -/
inductive Effect (s : Session (Recorded δ)) :
    Use → Except Error Yield → Journal → Session (Recorded δ) → Prop
  | carried {use : Use} {r j s'} : s.Carries j (use.entries r j) s' → Effect s use r j s'
  | reseated {sink r} : Effect s (.call (.setLog sink)) r [] { s with log := sink }
  | reopened {r x d} : Transport.reopen s.device = (x, d) →
      Effect s .reopen r [.reopen x]
        { s with device := d, buffer := [], closed := s.closed && !x.isOk }
  | released {r x s'} : s.closed = false →
      onDevice Transport.close (flushLog { s with closed := true }) = (x, s') →
      Effect s .close r [.close x] s'

/-- A use that sends nothing and whose calls carry what they bring in. -/
theorem Effect.of_reads {use : Use} {s s' : Session (Recorded δ)} (hsent : use.sent = [])
    (r : Except Error Yield) (h : ∃ j, s.Carries j j.entries s') : ∃ j, Effect s use r j s' := by
  obtain ⟨j, hj⟩ := h
  have hentries : use.entries r j = j.entries := by
    unfold entries
    rw [hsent]
    cases r <;> rfl
  exact ⟨j, .carried (hentries ▸ hj)⟩

theorem Effect.of_send (use : Use) (s : Session (Recorded δ)) (y : Yield) :
    ∃ j, Effect s use ((send use.sent s).1.map fun _ => y) j (send use.sent s).2 := by
  rcases hsend : send use.sent s with ⟨x, s'⟩
  obtain ⟨j, hentries, hj⟩ := send_carries hsend
  refine ⟨j, .carried ?_⟩
  unfold entries
  rw [hentries, List.append_nil]
  cases x <;> exact hj

theorem perform_effect (use : Use) (s : Session (Recorded δ)) :
    ∃ j, Effect s use (use.perform s).1 j (use.perform s).2 := by
  cases use with
  | call op =>
    cases op with
    | send bytes =>
      rw [perform, Op.perform, Act.map_apply]
      exact Effect.of_send (.call (.send bytes)) s .nothing
    | sendLine line =>
      rw [perform, Op.perform, Act.map_apply]
      exact Effect.of_send (.call (.sendLine line)) s .nothing
    | expect ps timeout =>
      rw [perform, Op.perform, Act.map_apply]
      exact Effect.of_reads rfl _ (expectSince_carries s.now ps timeout s)
    | expectExact bytes timeout =>
      rw [perform, Op.perform, Act.map_apply]
      exact Effect.of_reads rfl _ (expectSince_carries s.now [.literal bytes] timeout s)
    | readRaw max timeout =>
      rw [perform, Op.perform, Act.map_apply]
      exact Effect.of_reads rfl _ (readRaw_carries max timeout s)
    | setLog sink => exact ⟨[], .reseated⟩
  | clearBuffer =>
    rw [perform, Act.map_apply]
    exact Effect.of_reads rfl _ (clearBuffer_carries s)
  | reopen =>
    rcases hreopen : Transport.reopen s.device with ⟨x, d⟩
    rw [perform, Act.map_apply, reopen_eq hreopen]
    exact ⟨_, .reopened hreopen⟩
  | close =>
    rw [perform, Act.map_apply]
    by_cases hclosed : s.closed = true
    · rw [Session.close, if_pos hclosed]
      exact Effect.of_reads rfl _ ⟨[], .refl s⟩
    · rw [Session.close, if_neg hclosed]
      exact ⟨_, .released (eq_false_of_ne_true hclosed) rfl⟩

theorem Effect.journal {s s' : Session (Recorded δ)} {use : Use} {r : Except Error Yield} {j : Journal}
    (h : Effect s use r j s') : s'.device.journal = s.device.journal ++ j := by
  cases h with
  | carried hj => exact hj.journal
  | reseated => exact (List.append_nil _).symm
  | reopened hreopen => exact (Recorded.call_eq_iff.1 hreopen).2
  | released _ hclose =>
    obtain ⟨d, hd, rfl⟩ := Act.zoom_eq_iff.1 hclose
    exact (Recorded.call_eq_iff.1 hd).2

/-- The sink of a session that keeps it is asked for nothing but what follows from the calls. -/
theorem Effect.log {s s' : Session (Recorded δ)} {use : Use} {r : Except Error Yield} {j : Journal}
    (h : Effect s use r j s') (hkeeps : use.keepsLog = true) :
    s'.log = s.log.map (·.askAll (use.entries r j)) := by
  cases h with
  | carried hj => exact hj.log
  | reseated => cases hkeeps
  | reopened _ => cases r <;> exact Option.map_id'.symm
  | released _ hclose =>
    obtain ⟨d, -, rfl⟩ := Act.zoom_eq_iff.1 hclose
    cases r <;> rfl

/-- What a run of uses asks the sink to take, use by use. -/
def entriesAll : List Use → Session (Recorded δ) → List LogEntry
  | [], _ => []
  | use :: uses, s =>
    let (r, t) := use.perform s
    use.entries r (t.device.journal.drop s.device.journal.length) ++ entriesAll uses t

theorem entriesAll_cons (use : Use) (uses : List Use) (s : Session (Recorded δ)) :
    entriesAll (use :: uses) s =
      use.entries (use.perform s).1
          ((use.perform s).2.device.journal.drop s.device.journal.length) ++
        entriesAll uses (use.perform s).2 :=
  rfl

theorem performAll_log (uses : List Use) (hkeeps : ∀ use ∈ uses, use.keepsLog = true)
    (s : Session (Recorded δ)) :
    (performAll uses s).2.log = s.log.map (·.askAll (entriesAll uses s)) := by
  induction uses generalizing s with
  | nil => exact Option.map_id'.symm
  | cons use uses ih =>
    obtain ⟨j, hj⟩ := perform_effect use s
    have hjournal := Effect.journal hj
    have hlog := Effect.log hj (hkeeps use List.mem_cons_self)
    have hrest := ih (fun use' huse => hkeeps use' (List.mem_cons_of_mem _ huse)) (use.perform s).2
    have hcalls : (use.perform s).2.device.journal.drop s.device.journal.length = j := by
      rw [hjournal, List.drop_left]
    rw [performAll_cons, hrest, hlog, Option.map_map, entriesAll_cons, hcalls]
    exact congrArg (Option.map · s.log) (funext fun sink => (LogSink.askAll_append _ _ sink).symm)

end Use

/-! ## Sessions that differ in their sinks -/

/-- The sessions differ in nothing but their sinks. -/
structure SameButLog (s t : Session δ) : Prop where
  device : t.device = s.device
  buffer : t.buffer = s.buffer
  closed : t.closed = s.closed

namespace SameButLog

omit [Bench δ] [Transport δ] in
theorem onDevice {α : Type} (x : Act δ α) : Act.Relates SameButLog (onDevice x) (onDevice x) := by
  refine Act.Relates.zoom (S := Eq) (fun d e hde => ?_) (fun s t hst => hst.device.symm) ?_
  · cases hde
    exact ⟨rfl, rfl⟩
  · rintro s t hst d _ rfl
    exact ⟨rfl, hst.buffer, hst.closed⟩

theorem fill (wait : Span) : Act.Relates SameButLog (fill (δ := δ) wait) (Session.fill wait) := by
  rintro ⟨d, buffer, log, closed⟩ ⟨_, _, log', _⟩ ⟨rfl, rfl, rfl⟩
  unfold Session.fill
  dsimp only
  split
  · exact ⟨rfl, rfl, rfl, rfl⟩
  · split
    · exact ⟨rfl, rfl, rfl, rfl⟩
    · exact ⟨rfl, rfl, rfl, rfl⟩
    · split <;> exact ⟨rfl, rfl, rfl, rfl⟩

theorem readAlike : ReadAlike (SameButLog (δ := δ)) where
  now _ _ hst := congrArg Bench.now hst.device
  buffer _ _ hst := hst.buffer
  setBuffer _ _ hst _ := ⟨hst.device, rfl, hst.closed⟩
  fill := fill

theorem send (bytes : Bytes) : Act.Relates SameButLog (send (δ := δ) bytes) (Session.send bytes) :=
  (onDevice _).bind fun _ => .change fun _ _ hst => ⟨hst.device, hst.buffer, hst.closed⟩

theorem clearBuffer : Act.Relates SameButLog (clearBuffer (δ := δ)) Session.clearBuffer := by
  rw [clearBuffer_eq]
  refine (Act.Relates.change fun s t hst => readAlike.setBuffer s t hst []).bind fun _ => ?_
  exact (onDevice _).bind fun _ => readAlike.drain

theorem reopen : Act.Relates SameButLog (reopen (δ := δ)) Session.reopen := by
  refine (Act.Relates.change fun s t hst => readAlike.setBuffer s t hst []).bind fun _ => ?_
  exact (onDevice _).bind fun _ => .change fun _ _ hst => ⟨hst.device, hst.buffer, rfl⟩

theorem close : Act.Relates SameButLog (close (δ := δ)) Session.close := by
  intro s t hst
  unfold Session.close
  rw [hst.closed]
  split
  · exact ⟨rfl, hst⟩
  · exact onDevice _ _ _ ⟨hst.device, hst.buffer, rfl⟩

end SameButLog

namespace Use

/-- The same use, but for the sink that it may install. -/
inductive SameButSink : Use → Use → Prop
  | same {use : Use} : SameButSink use use
  | setLog {sink sink' : Option LogSink} : SameButSink (.call (.setLog sink)) (.call (.setLog sink'))

theorem SameButSink.perform {use use' : Use} (h : SameButSink use use') :
    Act.Relates SameButLog (use.perform (δ := δ)) use'.perform := by
  cases h with
  | setLog =>
    exact (Act.Relates.change fun s t hst => ⟨hst.device, hst.buffer, hst.closed⟩).map _
  | same =>
    cases use with
    | call op =>
      cases op with
      | send bytes => exact (SameButLog.send bytes).map _
      | sendLine line => exact (SameButLog.send _).map _
      | expect ps timeout => exact (SameButLog.readAlike.expect ps timeout).map _
      | expectExact bytes timeout => exact (SameButLog.readAlike.expect _ timeout).map _
      | readRaw max timeout => exact (SameButLog.readAlike.readRaw max timeout).map _
      | setLog sink =>
        exact (Act.Relates.change fun s t hst => ⟨hst.device, hst.buffer, hst.closed⟩).map _
    | clearBuffer => exact SameButLog.clearBuffer.map _
    | reopen => exact SameButLog.reopen.map _
    | close => exact SameButLog.close.map _

/-- No sinks make a difference to what is done with a session. -/
theorem performAll_sameButLog {uses uses' : List Use} (h : List.Forall₂ SameButSink uses uses')
    {s t : Session δ} (hst : SameButLog s t) :
    (performAll uses' t).1 = (performAll uses s).1 ∧
      SameButLog (performAll uses s).2 (performAll uses' t).2 := by
  induction h generalizing s t with
  | nil => exact ⟨rfl, hst⟩
  | cons huse _ ih =>
    obtain ⟨hval, hrel⟩ := huse.perform s t hst
    obtain ⟨hvals, hrels⟩ := ih hrel
    rw [performAll_cons, performAll_cons, hval, hvals]
    exact ⟨rfl, hrels⟩

/-- A sink that refuses nothing is left with the traffic, use by use: what was sent, if it was sent in
full, and all that came in, also what is dropped; and a flush for every time that the transport was asked
to close. With any other sink, or with none, all uses come to the same, with the same calls on the
transport and the same bytes left in the buffer. -/
theorem performAll_logs_traffic (uses : List Use) (hkeeps : ∀ use ∈ uses, use.keepsLog = true)
    (s : Session δ) :
    let run := performAll uses s.recorded
    performAll uses s = (run.1, run.2.plain) ∧
    (∀ sink, s.log = some sink → (∀ n e, sink.refuses n e = false) →
      ∃ sink', run.2.log = some sink' ∧ sink'.entries = sink.entries ++ entriesAll uses s.recorded) ∧
    ∀ log, let other := performAll uses { s with log }.recorded
      other.1 = run.1 ∧ other.2.buffer = run.2.buffer ∧ other.2.device = run.2.device ∧
        other.2.closed = run.2.closed := by
  intro run
  refine ⟨performAll_plain uses s.recorded, fun sink hsink hworks => ?_, fun log => ?_⟩
  · refine ⟨_, (performAll_log uses hkeeps s.recorded).trans (congrArg _ hsink), ?_⟩
    exact LogSink.entries_askAll hworks _
  · have hsame : List.Forall₂ SameButSink uses uses := List.forall₂_same.2 fun _ _ => .same
    obtain ⟨hvals, hrel⟩ := performAll_sameButLog hsame
      (s := s.recorded) (t := { s with log }.recorded) ⟨rfl, rfl, rfl⟩
    exact ⟨hvals, hrel.buffer, hrel.device, hrel.closed⟩

theorem performAll_logs_traffic_chatty :
    let s : Session Sim.World := { ofDevice chattyBench with log := some (.working []) }
    let uses := [.clearBuffer, .call (.send [0x67, 0x6F]),
      .call (.expect [.literal [0x6E, 0x65, 0x77]] (.ofMillis 950)), .close]
    (∀ use ∈ uses, use.keepsLog = true) ∧
    (∃ sink, (performAll uses s.recorded).2.log = some sink ∧
      sink.entries = [.data [0x6F, 0x6C, 0x64], .data [0x67, 0x6F], .data [0x6E, 0x65, 0x77], .flush]) ∧
    (performAll uses { s with log := some (.broken []) }.recorded).1 = (performAll uses s.recorded).1 := by
  intro s uses
  have hkeeps : ∀ use ∈ uses, use.keepsLog = true := by simp [uses, keepsLog]
  obtain ⟨-, hworks, hother⟩ := performAll_logs_traffic uses hkeeps s
  obtain ⟨sink, hsink, hentries⟩ := hworks _ rfl fun _ _ => rfl
  refine ⟨hkeeps, ⟨sink, hsink, hentries.trans ?_⟩, (hother _).1⟩
  have hrun : entriesAll uses s.recorded =
      [.data [0x6F, 0x6C, 0x64], .data [0x67, 0x6F], .data [0x6E, 0x65, 0x77], .flush] := by cbv
  exact hrun

end Use
end Session
end BoardBench
