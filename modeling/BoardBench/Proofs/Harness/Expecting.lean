import BoardBench.Harness.Test
import BoardBench.Proofs.Pattern.InOrder
import BoardBench.Proofs.Session.Ending
import BoardBench.Proofs.Sim.Delivery
import Mathlib

/-!
# Bodies that expect output in order

The usual body of a test waits for the echo of its command and then for one literal after the other,
and drops what precedes each of them. On a board that gives the rest of its stream without a failure
this comes to what `Pattern.behindAll?` does to the stream (`expectAll_of_offers`). So the body succeeds
whenever the literals stand in the stream in order at all, and it leaves as much of the stream as can be
left (`expecting_complete`).
-/

namespace BoardBench.Body

open Pattern Session Transport

variable {δ : Type} [Bench δ] [Transport δ] {ending : Ending} {command : Option String}
  {timeout : Span}

/-- Sends the command, if there is one. -/
def announce (command : Option String) : Act (Session δ) Unit :=
  match command with
  | some c => sendLine (Bytes.ofText c)
  | none => pure ()

/-- What the body waits for: the echo of the command, if there is one, and the literals. -/
def awaited (command : Option String) (literals : List Bytes) : List Bytes :=
  (command.map Bytes.ofText).toList ++ literals

/-- The echo is one more of the patterns. -/
theorem expecting_run (literals : List Bytes) :
    (expecting command (literals.map literal) : Body δ).run timeout =
      Trial.onSession (do
        announce command
        expectAll command timeout ((awaited command literals).map literal)) := by
  cases command <;> rfl

/-- What comes of the wait for needles, one after the other, in a stream. -/
inductive Goes (ending : Ending) (command : Option String) (timeout : Span) (needles : List Bytes)
    (stream : Bytes) : Except Error Unit × Session δ → Prop
  | through {rest : Bytes} {k : Nat} {s' : Session δ} : behindAll? needles stream = some rest →
      Offers ending k rest s' → Goes ending command timeout needles stream (.ok (), s')
  | stuck {needle left : Bytes} {s' : Session δ} : behindAll? needles stream = none →
      needle ∈ needles → Goes ending command timeout needles stream
        (.error (inContext command (ending.error [literal needle] timeout left)), s')

theorem expectAll_of_offers {needles : List Bytes} {stream : Bytes} {k : Nat} {s : Session δ}
    (h : Offers ending k stream s) (hk : k < timeout.nanos) :
    Goes ending command timeout needles stream
      (expectAll command timeout (needles.map literal) s) := by
  induction needles generalizing k stream s with
  | nil => exact .through rfl h
  | cons needle needles ih =>
    rw [List.map_cons, expectAll]
    have hsettles := expect_of_offers (stable_literal needle) h hk
    generalize hr : expect [literal needle] timeout s = r at hsettles
    cases hsettles with
    | @met m rest k' s' hsplit hrest hk' =>
      have hbehind : behindAll? (needle :: needles) stream = behindAll? needles rest :=
        behindAll?_cons_of_some hsplit
      rw [Act.bind_ok (Act.mapError_ok_iff.2 hr)]
      have := ih hrest (Nat.lt_of_le_of_lt hk' hk)
      generalize expectAll command timeout (needles.map literal) s' = r at this
      cases this with
      | through hrest' hoffers => exact .through (hbehind.trans hrest') hoffers
      | stuck hnone hmem => exact .stuck (hbehind.trans hnone) (List.mem_cons_of_mem _ hmem)
    | unmet hsplit _ =>
      rw [Act.bind_error (Act.mapError_error_iff.2 ⟨_, hr, rfl⟩)]
      exact .stuck (behindAll?_cons_of_none hsplit) List.mem_cons_self

/-- The failure of a wait, as opposed to one of the device, names the command. -/
theorem inContext_of_ending {c : String} (ps : List Pattern) (left : Bytes)
    (h : ∀ f, ending ≠ .broken f) :
    ∃ reason, inContext (some c) (ending.error ps timeout left) =
      .device c reason (Text.lossy left) := by
  cases ending with
  | silence => exact ⟨_, rfl⟩
  | closed => exact ⟨_, rfl⟩
  | broken f => exact absurd rfl (h f)

theorem announce_buffer {s s' : Session δ} {x : Except Error Unit}
    (h : announce command s = (x, s')) : s'.buffer = s.buffer := by
  cases command with
  | none =>
    cases h
    rfl
  | some c => exact send_buffer h

/-- The body succeeds if and only if what it awaits stands in the stream in order, and it leaves the
longest rest then. -/
theorem expecting_complete {literals : List Bytes} {bytes : Bytes} {k : Nat} {t : Trial δ}
    {s : Session δ} (hsent : announce command t.session = (.ok (), s))
    (hg : Gives ending k bytes s.device) (hk : k < timeout.nanos) :
    let run := (expecting command (literals.map literal) : Body δ).run timeout t
    let stream := t.session.buffer ++ bytes
    let needles := awaited command literals
    (run.1 = .ok () ↔ ∃ rest, InOrder needles stream rest) ∧
      (run.1 = .ok () → ∃ rest l, Offers ending l rest run.2.session ∧ InOrder needles stream rest ∧
        ∀ other, InOrder needles stream other → other <:+ rest) ∧
      ∀ e c, run.1 = .error e → command = some c → (∀ f, ending ≠ .broken f) →
        ∃ reason output, e = .device c reason output := by
  intro run stream needles
  have hoffers : Offers ending k stream s := ⟨bytes, hg, by rw [announce_buffer hsent]⟩
  have hgoes : Goes ending command timeout needles stream (run.1, run.2.session) := by
    have hrun : run = Trial.onSession (do
        announce command
        expectAll command timeout (needles.map literal)) t := congrFun (expecting_run literals) t
    rw [hrun, Trial.onSession, Act.zoom, Act.bind_ok hsent]
    exact expectAll_of_offers hoffers hk
  generalize run.1 = x at hgoes ⊢
  generalize run.2.session = s' at hgoes ⊢
  cases hgoes with
  | @through rest l _ hbehind hrest =>
    obtain ⟨hin, hlongest⟩ := behindAll?_eq_some_iff.1 hbehind
    refine ⟨⟨fun _ => ⟨rest, hin⟩, fun _ => rfl⟩, fun _ => ⟨rest, l, hrest, hin, hlongest⟩, ?_⟩
    intro e c he
    cases he
  | stuck hnone _ =>
    refine ⟨⟨fun hok => ?_, ?_⟩, fun hok => ?_, ?_⟩
    · cases hok
    · rintro ⟨rest, hin⟩
      exact absurd hin (behindAll?_eq_none_iff.1 hnone rest)
    · cases hok
    · rintro e c he rfl hending
      cases he
      obtain ⟨reason, hdevice⟩ := inContext_of_ending (c := c) _ _ hending
      exact ⟨reason, _, hdevice⟩

/-- A board that answers a command in pieces. -/
def shellBench : Sim.World where
  board := { rules := [⟨[0x6C, 0x73, 0x0D],
    [⟨.data [0x6C, 0x73, 0x0D, 0x0A, 0x65], ⟨0⟩⟩, ⟨.data [0x74, 0x63, 0x20, 0x65, 0x74], ⟨0⟩⟩,
      ⟨.data [0x63, 0x0A], ⟨0⟩⟩], false⟩] }

theorem shellBench_holds : Sim.World.Holds
    [[0x6C, 0x73, 0x0D, 0x0A, 0x65], [0x74, 0x63, 0x20, 0x65, 0x74], [0x63, 0x0A]]
    (announce (some "ls") (ofDevice shellBench)).2.device :=
  ⟨by cbv, by cbv, by cbv, by cbv, by cbv⟩

theorem expecting_complete_listing :
    let t : Trial Sim.World := ⟨ofDevice shellBench, {}⟩
    let s := (announce (some "ls") t.session).2
    let literals : List Bytes := [[0x65, 0x74], [0x65, 0x74]]
    announce (some "ls") t.session = (.ok (), s) ∧
      Gives .silence 0 [0x6C, 0x73, 0x0D, 0x0A, 0x65, 0x74, 0x63, 0x20, 0x65, 0x74, 0x63, 0x0A]
        s.device ∧
      0 < (Span.ofMillis 100).nanos ∧
      ((expecting (some "ls") (literals.map literal)).run (.ofMillis 100) t).1 = .ok () := by
  intro t s literals
  have hsent : announce (some "ls") (ofDevice shellBench) =
      (.ok (), (announce (some "ls") (ofDevice shellBench)).2) := Prod.ext (by cbv) rfl
  have hending : (announce (some "ls") (ofDevice shellBench)).2.device.ending = .silence := by cbv
  have hg := hending ▸ Sim.World.gives shellBench_holds
  have htime : 0 < (Span.ofMillis 100).nanos := by decide
  refine ⟨hsent, hg, htime, (expecting_complete (t := t) hsent hg htime).1.2 ⟨[0x63, 0x0A], ?_⟩⟩
  exact ⟨[[], [0x0D, 0x0A], [0x63, 0x20]], rfl, by decide⟩

end BoardBench.Body
