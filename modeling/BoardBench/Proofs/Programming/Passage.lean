import BoardBench.Proofs.Bootloader.Saying
import BoardBench.Proofs.Programming.FileServer
import BoardBench.Proofs.Programming.InStep

/-!
# Passages

What is done at the prompt of the bootloader is a script of passages, each of which writes a known text
and tells known news. A script is followed passage by passage, and each begins only after the one before
it has succeeded (`Follows`); so what was written is the front of the script, and all of it if nothing
fails.
-/

namespace BoardBench

open Bootloader Client Session Chronicle

variable {δ : Type}

/-- A part of a script: an action, what it writes, and what it tells. -/
structure Passage (δ : Type) where
  run : Act (Client (Chronicled δ)) Unit
  text : Bytes
  news : List (String × Nat × Nat)

namespace Passage

/-- One passage after the other. -/
def runAll : List (Passage δ) → Act (Client (Chronicled δ)) Unit
  | [] => Pure.pure ()
  | p :: rest => p.run >>= fun _ => runAll rest

/-- What a passage writes and tells is what is said of it. -/
def Sound (p : Passage δ) : Prop := Utters p.run p.text p.news

end Passage

/-- A script was followed to its end or up to a passage that failed, and `k` was done meanwhile. -/
inductive Follows : List (Passage δ) → Client (Chronicled δ) → Chronicle → Except Error Unit →
    Client (Chronicled δ) → Prop
  | ended {c} : Follows [] c [] (.ok ()) c
  | failed {p rest c k e c'} : p.run c = (.error e, c') →
      c'.session.device.entries = c.session.device.entries ++ k → k.Idle → k.written <+: p.text →
      k.told <+: p.news → Follows (p :: rest) c k (.error e) c'
  | passed {p rest c k c₁ l x c'} : p.run c = (.ok (), c₁) →
      c₁.session.device.entries = c.session.device.entries ++ k → k.Idle → k.written = p.text →
      k.told = p.news → Follows rest c₁ l x c' → Follows (p :: rest) c (k ++ l) x c'

namespace Follows

variable {ps : List (Passage δ)} {c c' : Client (Chronicled δ)} {k : Chronicle} {x : Except Error Unit}

theorem of_runAll (hps : ∀ p ∈ ps, p.Sound) (h : Passage.runAll ps c = (x, c')) :
    ∃ k, Follows ps c k x c' := by
  induction ps generalizing c with
  | nil =>
    cases h
    exact ⟨[], .ended⟩
  | cons p rest ih =>
    rcases Act.bind_eq_iff.1 h with ⟨e, hp, rfl⟩ | ⟨_, c₁, hp, h⟩
    · obtain ⟨k, hk, hidle, hw, ht, -⟩ := hps p List.mem_cons_self c _ c' hp
      exact ⟨k, .failed hp hk hidle hw ht⟩
    · obtain ⟨k, hk, hidle, -, -, hok⟩ := hps p List.mem_cons_self c _ c₁ hp
      obtain ⟨hw, ht⟩ := hok () rfl
      obtain ⟨l, hl⟩ := ih (fun p hp => hps p (List.mem_cons_of_mem _ hp)) h
      exact ⟨k ++ l, .passed hp hk hidle hw ht hl⟩

theorem entries (h : Follows ps c k x c') :
    c'.session.device.entries = c.session.device.entries ++ k := by
  induction h with
  | ended => exact (List.append_nil _).symm
  | failed _ hk _ _ _ => exact hk
  | passed _ hk _ _ _ _ ih => rw [ih, hk, List.append_assoc]

theorem idle (h : Follows ps c k x c') : k.Idle := by
  induction h with
  | ended => exact .nil
  | failed _ _ hidle _ _ => exact hidle
  | passed _ _ hidle _ _ _ ih => exact hidle.append ih

/-- What was written and told is the front of the script. -/
theorem front (h : Follows ps c k x c') :
    k.written <+: ps.flatMap (·.text) ∧ k.told <+: ps.flatMap (·.news) := by
  induction h with
  | ended => exact ⟨List.prefix_rfl, List.prefix_rfl⟩
  | failed _ _ _ hw ht =>
    exact ⟨hw.trans (List.prefix_append _ _), ht.trans (List.prefix_append _ _)⟩
  | passed _ _ _ hw ht _ ih =>
    rw [written_append, told_append, hw, ht]
    exact ⟨(List.prefix_append_right_inj _).2 ih.1, (List.prefix_append_right_inj _).2 ih.2⟩

/-- A script that succeeds is written and told in full. -/
theorem full (h : Follows ps c k (.ok ()) c') :
    k.written = ps.flatMap (·.text) ∧ k.told = ps.flatMap (·.news) := by
  generalize hx : Except.ok () = x at h
  induction h with
  | ended => exact ⟨rfl, rfl⟩
  | failed => cases hx
  | passed _ _ _ hw ht _ ih =>
    rw [written_append, told_append, hw, ht, (ih hx).1, (ih hx).2]
    exact ⟨rfl, rfl⟩

end Follows

variable [Bench δ] [Transport δ]

omit [Bench δ] [Transport δ] in
theorem report_utters (progress : Progress δ) (step : String) (done total : Nat) :
    Utters (report (Chronicled.tell progress) step done total) [] [(step, done, total)] := by
  intro c r c' h
  cases h
  refine ⟨[.told step done total], rfl, fun e he => ?_, List.prefix_rfl, List.prefix_rfl, fun _ _ =>
    ⟨rfl, rfl⟩⟩
  obtain rfl := List.mem_singleton.1 he
  rfl

/-- The line of a command. -/
def lineOf (cmd : Command) : Bytes := Bytes.ofText cmd.render ++ lineEnd

/-- An operation as a passage. -/
def Passage.of (op : Operation) (progress : Progress δ) (step : String) : Passage δ where
  run := op.perform (Chronicled.tell progress step)
  text := op.text
  news := op.news.map fun (done, total) => (step, done, total)

theorem Passage.of_sound (op : Operation) (progress : Progress δ) (step : String) :
    (Passage.of op progress step).Sound :=
  op.perform_utters progress step

omit [Bench δ] [Transport δ] in
theorem sizeOfFile_eq [Files δ] (file : String) (c : Client δ) :
    sizeOfFile file c = ((Files.fileSize file c.session.device).mapError fun f =>
      .flash ("cannot read " ++ file ++ ": " ++ f.text) "", c) := by
  unfold sizeOfFile
  rw [Act.state_bind]
  rcases Files.fileSize file c.session.device with f | n <;> rfl

end BoardBench
