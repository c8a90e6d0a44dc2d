import TermSession.Text.Decimal

/-!
# Decimal numerals come back

* `Decimal.isDigit_of_mem_render`, `Decimal.eq_zero_of_render`: what a numeral looks like;
* `Decimal.value_render`, `Decimal.read?_render`: a number is read from its numeral.
-/

namespace TermSession.Decimal

theorem render_ne_nil (n : Nat) : render n ≠ [] := Nat.toDigits_ne_nil

theorem isEmpty_render (n : Nat) : (render n).isEmpty = false :=
  List.isEmpty_eq_false_iff.2 (render_ne_nil n)

theorem isDigit_of_mem_render {n : Nat} : ∀ c ∈ render n, c.isDigit = true :=
  fun _ hc => Nat.isDigit_of_mem_toDigits (by decide) (by decide) hc

theorem all_isDigit_render (n : Nat) : (render n).all Char.isDigit = true :=
  List.all_eq_true.2 isDigit_of_mem_render

/-- What starts with something else than a digit is no numeral. -/
theorem render_ne_cons {c : Char} (hc : c.isDigit = false) (n : Nat) (rest : Text) :
    render n ≠ c :: rest := by
  intro h
  rw [isDigit_of_mem_render (n := n) c (by simp [h])] at hc
  cases hc

/-- Only the numeral of zero starts with a zero. -/
theorem eq_zero_of_render {n : Nat} {rest : Text} (h : render n = '0' :: rest) : n = 0 := by
  induction n using Nat.strongRecOn generalizing rest with
  | ind n ih =>
    rw [render, Nat.toDigits_eq_if (by decide)] at h
    split at h
    · rename_i hlt
      have hdigit : ∀ d < 10, Nat.digitChar d = '0' → d = 0 := by decide
      exact hdigit n hlt (List.cons.inj h).1
    · rename_i hge
      obtain ⟨c, ds, hds⟩ :=
        List.exists_cons_of_ne_nil (Nat.toDigits_ne_nil (b := 10) (n := n / 10))
      rw [hds, List.cons_append] at h
      obtain ⟨rfl, -⟩ := List.cons.inj h
      have := ih (n / 10) (by omega) hds
      omega

theorem value_render (n : Nat) : value (render n) = n := by
  have h := Nat.ofDigitChars_toDigits (b := 10) (n := n) (by decide) (by decide)
  rwa [Nat.ofDigitChars_eq_foldl] at h

/-- A number within the bound is read from its numeral. -/
theorem read?_render {bound n : Nat} (h : n ≤ bound) : read? bound (render n) = some n := by
  have hdigits : readDigits? bound (render n) = some n := by
    rw [readDigits?, isEmpty_render, all_isDigit_render, valueUpTo_eq, value_render,
      Nat.min_eq_left (by omega)]
    simp [Option.filter, h]
  unfold read?
  split
  · rename_i rest hplus
    exact absurd hplus (render_ne_cons (by decide) n rest)
  · exact hdigits

end TermSession.Decimal
