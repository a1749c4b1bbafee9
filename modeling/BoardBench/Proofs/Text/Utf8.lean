import BoardBench.Regex.Search
import Mathlib.Logic.Function.Basic
import Mathlib.Tactic.SplitIfs

/-!
# Characters in UTF-8

`Encodes x bytes` says that the bytes are the character `x` in UTF-8 and nothing more. What `head`
takes off the front of a stream is such bytes (`head_eq_some`), and it does so whatever follows them
(`Encodes.head_append`), so that a character once complete stays the character that it is. Different
texts have different bytes (`Bytes.ofText_injective`).
-/

namespace BoardBench.Text

theorem continuations_eq_some {n acc x : Nat} {bytes left : Bytes}
    (h : continuations n acc bytes = (some x, left)) :
    ∃ front, bytes = front ++ left ∧ front.length = n ∧ (∀ b ∈ front, 0x80 ≤ b.toNat) ∧
      x >>> (6 * n) = acc ∧
      ∀ more, continuations n acc (front ++ more) = (some x, more) := by
  induction n generalizing acc bytes with
  | zero =>
    simp only [continuations, Prod.mk.injEq, Option.some.injEq] at h
    obtain ⟨rfl, rfl⟩ := h
    exact ⟨[], rfl, rfl, nofun, by omega, fun more => rfl⟩
  | succ n ih =>
    cases bytes with
    | nil => simp [continuations] at h
    | cons b bytes =>
      simp only [continuations] at h
      split at h
      · rename_i hb
        obtain ⟨front, rfl, hlen, hhigh, hx, hmore⟩ := ih h
        have hb' : 0x80 ≤ b.toNat := by
          simp only [isContinuation, Bool.and_eq_true, decide_eq_true_eq] at hb
          exact UInt8.le_iff_toNat_le.1 hb.1
        refine ⟨b :: front, rfl, by rw [List.length_cons, hlen], ?_, ?_, fun more => ?_⟩
        · intro c hc
          rcases List.mem_cons.1 hc with rfl | hc
          · exact hb'
          · exact hhigh c hc
        · -- six more bits go behind what was there
          have hp : payload b < 64 := Nat.mod_lt _ (by decide)
          rw [Nat.mul_add, Nat.mul_one, Nat.shiftRight_add, hx, Nat.shiftRight_eq_div_pow]
          omega
        · simp only [List.cons_append, continuations, hb, ↓reduceIte, hmore]
      · simp at h

/-- The bytes are one character. -/
def Encodes (x : Nat) (bytes : Bytes) : Prop :=
  ∃ b tail, bytes = b :: tail ∧ head b tail = (some x, [])

/-- The first two bytes of a longer character settle its width. -/
theorem leadShape_eq_some {b c lo hi : UInt8} {n : Nat} (h : leadShape b = some (n, lo, hi))
    (hlo : lo ≤ c) (hhi : c ≤ hi) :
    0x80 ≤ b.toNat ∧ 0x80 ≤ c.toNat ∧
      let acc := b.toNat % (0x40 >>> n) * 64 + payload c
      (n = 1 ∧ 0x80 ≤ acc ∧ acc < 0x800 ∨ n = 2 ∧ 0x20 ≤ acc ∧ acc < 0x400 ∨ n = 3 ∧ 0x10 ≤ acc) := by
  simp only [leadShape, Bool.and_eq_true, decide_eq_true_eq, beq_iff_eq] at h
  rw [UInt8.le_iff_toNat_le] at hlo hhi
  simp only [UInt8.le_iff_toNat_le, ← UInt8.toNat_inj] at h
  unfold payload
  repeat' split at h
  all_goals cases h
  all_goals
    simp at *
    omega

/-- What is taken off the front is a character of the width that it should have, whatever follows. -/
theorem head_eq_some {b : UInt8} {rest left : Bytes} {x : Nat} (h : head b rest = (some x, left)) :
    ∃ tail, rest = tail ++ left ∧ (b :: tail).length = Regex.Cursor.width x ∧
      (x < 0x80 ∧ b.toNat = x ∧ tail = [] ∨ 0x80 ≤ x ∧ ∀ c ∈ b :: tail, 0x80 ≤ c.toNat) ∧
      ∀ more, head b (tail ++ more) = (some x, more) := by
  unfold head at h
  split at h
  · rename_i hb
    obtain ⟨rfl, rfl⟩ : b.toNat = x ∧ rest = left := by simpa using h
    have hb' : b.toNat < 0x80 := UInt8.lt_iff_toNat_lt.1 hb
    refine ⟨[], rfl, ?_, .inl ⟨hb', rfl, rfl⟩, fun more => ?_⟩
    · simp [Regex.Cursor.width, hb']
    · unfold head
      rw [if_pos hb]
      rfl
  rename_i hb
  split at h
  · rename_i n lo hi c after hshape
    split at h
    · rename_i hc
      simp only [Bool.and_eq_true, decide_eq_true_eq] at hc
      obtain ⟨hhigh, hchigh, hcase⟩ := leadShape_eq_some hshape hc.1 hc.2
      obtain ⟨front, rfl, hlen, hfront, hx, hmore⟩ := continuations_eq_some h
      have hwidth : 0x80 ≤ x ∧ n + 1 = Regex.Cursor.width x := by
        unfold Regex.Cursor.width
        rcases hcase with ⟨rfl, hacc⟩ | ⟨rfl, hacc⟩ | ⟨rfl, hacc⟩
        · rw [if_neg (by omega), if_pos (by omega)]
          omega
        · rw [if_neg (by omega), if_neg (by omega), if_pos (by omega)]
          omega
        · rw [if_neg (by omega), if_neg (by omega), if_neg (by omega)]
          omega
      refine ⟨c :: front, rfl, ?_, .inr ⟨hwidth.1, ?_⟩, fun more => ?_⟩
      · rw [← hwidth.2, List.length_cons, List.length_cons, hlen]
        omega
      · intro d hd
        rcases List.mem_cons.1 hd with rfl | hd
        · exact hhigh
        rcases List.mem_cons.1 hd with rfl | hd
        · exact hchigh
        · exact hfront d hd
      · unfold head
        rw [if_neg hb, hshape]
        simp only [List.cons_append, hc, decide_true, Bool.and_self, ↓reduceIte, hmore]
    · cases h
  · cases h

namespace Encodes

variable {x y : Nat} {bytes bytes' more more' : Bytes}

/-- The character at the front of a stream, and what follows it. -/
theorem of_head {b : UInt8} {rest left : Bytes} (h : head b rest = (some x, left)) :
    ∃ bytes, b :: rest = bytes ++ left ∧ Encodes x bytes := by
  obtain ⟨tail, rfl, -, -, hmore⟩ := head_eq_some h
  have := hmore []
  rw [List.append_nil] at this
  exact ⟨b :: tail, rfl, b, tail, rfl, this⟩

theorem head_append (h : Encodes x bytes) (more : Bytes) :
    ∃ b tail, bytes = b :: tail ∧ head b (tail ++ more) = (some x, more) := by
  obtain ⟨b, tail, rfl, hx⟩ := h
  obtain ⟨tail', htail, -, -, hmore⟩ := head_eq_some hx
  rw [List.append_nil] at htail
  subst htail
  exact ⟨b, tail, rfl, hmore more⟩

theorem length_eq (h : Encodes x bytes) : bytes.length = Regex.Cursor.width x := by
  obtain ⟨b, tail, rfl, hx⟩ := h
  obtain ⟨tail', htail, hlen, -⟩ := head_eq_some hx
  rw [List.append_nil] at htail
  exact htail ▸ hlen

theorem ne_nil (h : Encodes x bytes) : bytes ≠ [] := by
  obtain ⟨b, tail, rfl, -⟩ := h
  exact nofun

/-- A character is one byte of ASCII, or has none in it. -/
theorem bytes_eq (h : Encodes x bytes) :
    (∃ b, bytes = [b] ∧ b.toNat = x ∧ x < 0x80) ∨ 0x80 ≤ x ∧ ∀ b ∈ bytes, 0x80 ≤ b.toNat := by
  obtain ⟨b, tail, rfl, hx⟩ := h
  obtain ⟨tail', htail, -, hb, -⟩ := head_eq_some hx
  rw [List.append_nil] at htail
  subst htail
  rcases hb with ⟨hlt, hbx, rfl⟩ | hhigh
  · exact .inl ⟨b, rfl, hbx, hlt⟩
  · exact .inr hhigh

theorem ascii {b : UInt8} (hb : b.toNat < 0x80) : Encodes b.toNat [b] :=
  ⟨b, [], rfl, if_pos (UInt8.lt_iff_toNat_lt.2 hb)⟩

/-- No character begins another. -/
theorem unique (h : Encodes x bytes) (h' : Encodes y bytes')
    (heq : bytes ++ more = bytes' ++ more') :
    x = y ∧ bytes = bytes' ∧ more = more' := by
  obtain ⟨b, tail, rfl, hx⟩ := h.head_append more
  obtain ⟨b', tail', rfl, hy⟩ := h'.head_append more'
  obtain ⟨rfl, htail⟩ : b = b' ∧ tail ++ more = tail' ++ more' := List.cons.inj heq
  rw [htail] at hx
  obtain ⟨hxy, rfl⟩ : x = y ∧ more = more' := by simpa using hx.symm.trans hy
  exact ⟨hxy, List.append_cancel_right heq, rfl⟩

end Encodes
end BoardBench.Text

namespace BoardBench.Bytes

theorem ofText_injective : Function.Injective ofText := by
  intro s t h
  have hencode : s.toList.utf8Encode = t.toList.utf8Encode := congrArg List.toByteArray h
  rwa [String.utf8Encode_toList, String.utf8Encode_toList, String.toByteArray_inj] at hencode

theorem ascii_of_mem_utf8EncodeChar {b : UInt8} {c : Char} (h : b ∈ String.utf8EncodeChar c)
    (hb : b.toNat < 0x80) : c.toNat = b.toNat := by
  -- each byte of a longer character has its highest bit set
  have high {x : Nat} (hx : 0x80 ≤ x) (hx' : x < 0x100) : b ≠ UInt8.ofNat x := by
    rintro rfl
    rw [UInt8.toNat_ofNat_of_lt' hx'] at hb
    omega
  unfold String.utf8EncodeChar at h
  dsimp only at h
  split_ifs at h with h1 h2 h3
  · rw [List.mem_singleton.1 h]
    exact (UInt8.toNat_ofNat_of_lt' (Nat.lt_of_le_of_lt h1 (by decide))).symm
  all_goals
    simp only [List.mem_cons, List.not_mem_nil, or_false] at h
    exfalso
  · rcases h with h | h <;> exact high (by omega) (by omega) h
  · rcases h with h | h | h <;> exact high (by omega) (by omega) h
  · rcases h with h | h | h | h <;> exact high (by omega) (by omega) h

/-- A byte that is a character by itself comes from that character of the text. -/
theorem exists_mem_of_mem_ofText {b : UInt8} {s : String} (h : b ∈ ofText s) (hb : b.toNat < 0x80) :
    ∃ c ∈ s.toList, c.toNat = b.toNat := by
  obtain ⟨c, hc, hbc⟩ := List.mem_flatMap.1 h
  exact ⟨c, hc, ascii_of_mem_utf8EncodeChar hbc hb⟩

end BoardBench.Bytes
