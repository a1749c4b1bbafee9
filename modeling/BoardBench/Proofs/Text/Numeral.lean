import BoardBench.Text.Numeral
import Mathlib

/-!
# Numerals read back

The digits of a number stand for it (`ofDigits?_toDigits`), so that different numbers are written
differently (`hex0x_injective`), and nothing but digits stands behind `0x` (`isNumeral_hex0x`).
-/

namespace BoardBench.Text

theorem hexDigit?_digitChar : ∀ n < 16, hexDigit? n.digitChar = some n := by decide

theorem ofDigits?_singleton (base : Nat) {f : Char → Option Nat} {c : Char} {n : Nat} (h : f c = some n) :
    ofDigits? base f [c] = some n := by
  simp [ofDigits?, h]

/-- One more digit behind others. -/
theorem ofDigits?_append {base : Nat} {f : Char → Option Nat} {cs : List Char} {c : Char} {m n : Nat}
    (hcs : ofDigits? base f cs = some m) (hc : f c = some n) :
    ofDigits? base f (cs ++ [c]) = some (m * base + n) := by
  unfold ofDigits? at *
  split at hcs
  · cases hcs
  · rw [if_neg (by simp), List.foldl_append, hcs, List.foldl_cons, List.foldl_nil, hc]
    rfl

theorem ofDigits?_toDigits (n : Nat) : ofDigits? 16 hexDigit? (Nat.toDigits 16 n) = some n := by
  induction n using Nat.strongRecOn with
  | ind n ih =>
    by_cases h : n < 16
    · rw [Nat.toDigits_of_lt_base h]
      exact ofDigits?_singleton 16 (hexDigit?_digitChar n h)
    · have hlast := hexDigit?_digitChar (n % 16) (Nat.mod_lt n (by decide))
      rw [Nat.toDigits_of_base_le (by decide) (by omega), ofDigits?_append (ih (n / 16) (by omega)) hlast,
        Nat.div_add_mod']

theorem isSome_hexDigit?_of_mem {n : Nat} {c : Char} (h : c ∈ Nat.toDigits 16 n) :
    (hexDigit? c).isSome := by
  induction n using Nat.strongRecOn with
  | ind n ih =>
    by_cases hn : n < 16
    · rw [Nat.toDigits_of_lt_base hn, List.mem_singleton] at h
      rw [h, hexDigit?_digitChar n hn]
      rfl
    · rw [Nat.toDigits_of_base_le (by decide) (by omega), List.mem_append, List.mem_singleton] at h
      rcases h with h | rfl
      · exact ih (n / 16) (by omega) h
      · rw [hexDigit?_digitChar _ (Nat.mod_lt n (by decide))]
        rfl

theorem hex_injective : Function.Injective hex := by
  intro m n h
  have hdigits : Nat.toDigits 16 m = Nat.toDigits 16 n := String.ofList_injective h
  have := ofDigits?_toDigits m
  rw [hdigits, ofDigits?_toDigits n] at this
  exact (Option.some.inj this).symm

theorem toList_hex0x (n : Nat) : (hex0x n).toList = '0' :: 'x' :: Nat.toDigits 16 n := by
  simp [hex0x, hex]

theorem hex0x_injective : Function.Injective hex0x := by
  intro m n h
  have hlist := congrArg String.toList h
  rw [toList_hex0x, toList_hex0x] at hlist
  exact hex_injective (congrArg String.ofList (List.cons.inj (List.cons.inj hlist).2).2)

/-- The text is `0x` and hexadecimal digits. -/
def IsNumeral (s : String) : Prop :=
  ∃ digits, s.toList = '0' :: 'x' :: digits ∧ digits ≠ [] ∧ ∀ c ∈ digits, (hexDigit? c).isSome

theorem isNumeral_hex0x (n : Nat) : IsNumeral (hex0x n) :=
  ⟨_, toList_hex0x n, Nat.toDigits_ne_nil, fun _ => isSome_hexDigit?_of_mem⟩

/-- A character that is no digit, and not the letter of the mark, is not in a numeral. -/
theorem not_mem_hex0x {c : Char} (hc : hexDigit? c = none) (hx : c ≠ 'x') (n : Nat) :
    c ∉ (hex0x n).toList := by
  rw [toList_hex0x]
  intro h
  rcases List.mem_cons.1 h with rfl | h
  · exact absurd hc (by decide)
  rcases List.mem_cons.1 h with rfl | h
  · exact hx rfl
  · have := isSome_hexDigit?_of_mem h
    rw [hc] at this
    cases this

end BoardBench.Text
