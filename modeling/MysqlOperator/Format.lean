import Mathlib.Data.Nat.Digits
import Mathlib.Tactic.SplitIfs
import Mathlib.Tactic.NormNum.Basic

set_option autoImplicit false

/-!
# Decimal rendering: `%d` and `strconv.FormatInt`

Both print an integer as its decimal digits, with a leading `-` below zero, which is
Lean's `toString` on `Int`. Host names place a member's ordinal between fixed texts, so
they are distinct for distinct ordinals as soon as the rendering of naturals is
injective. The library has no lemma for that; it is proved here from the digit loop
`Nat.toDigitsCore` itself.
-/

namespace MysqlOperator

/-- `strconv.FormatInt(i, 10)`, and the `%d` verb of `fmt.Sprintf`. -/
def formatInt (i : Int) : String := toString i

theorem toDigitsCore_append (b f n : ℕ) (ds : List Char) :
    Nat.toDigitsCore b f n ds = Nat.toDigitsCore b f n [] ++ ds := by
  induction f generalizing n ds with
  | zero => rfl
  | succ f ih =>
    simp only [Nat.toDigitsCore]
    split_ifs
    · rfl
    · rw [ih _ (_ :: ds), ih _ [_]]; simp

theorem toDigitsCore_fuel {b : ℕ} (hb : 1 < b) :
    ∀ f g n ds, n < f → n < g → Nat.toDigitsCore b f n ds = Nat.toDigitsCore b g n ds
  | 0, _, _, _, hf, _ => absurd hf (Nat.not_lt_zero _)
  | _, 0, _, _, _, hg => absurd hg (Nat.not_lt_zero _)
  | f + 1, g + 1, n, ds, hf, hg => by
    simp only [Nat.toDigitsCore]
    split_ifs with h
    · rfl
    · have : n / b < n := Nat.div_lt_self (Nat.pos_of_ne_zero fun h0 => h (by simp [h0])) hb
      exact toDigitsCore_fuel hb f g _ _ (by omega) (by omega)

theorem toDigits_ten (n : ℕ) : Nat.toDigits 10 n =
    if n / 10 = 0 then [Nat.digitChar (n % 10)]
    else Nat.toDigits 10 (n / 10) ++ [Nat.digitChar (n % 10)] := by
  rw [Nat.toDigits, Nat.toDigitsCore]
  split_ifs
  · rfl
  · rw [toDigitsCore_append, Nat.toDigits,
      toDigitsCore_fuel (by decide) n (n / 10 + 1) _ _ (by omega) (by omega)]

theorem toDigits_ne_nil (n : ℕ) : Nat.toDigits 10 n ≠ [] := by
  rw [toDigits_ten]; split_ifs <;> simp

theorem digitChar_inj : ∀ x < 10, ∀ y < 10, Nat.digitChar x = Nat.digitChar y → x = y := by
  decide

theorem toDigits_injective : Function.Injective (Nat.toDigits 10) := by
  intro a b h
  induction a using Nat.strong_induction_on generalizing b with
  | _ a ih =>
    have hlast {x y : ℕ} (h : Nat.digitChar (x % 10) = Nat.digitChar (y % 10)) :
        x % 10 = y % 10 :=
      digitChar_inj _ (Nat.mod_lt _ (by decide)) _ (Nat.mod_lt _ (by decide)) h
    have hlong {m : ℕ} {x y : Char} : Nat.toDigits 10 m ++ [x] ≠ [y] := fun h =>
      toDigits_ne_nil m (List.length_eq_zero.mp (by simpa using congrArg List.length h))
    rw [toDigits_ten a, toDigits_ten b] at h
    split_ifs at h with ha hb hb
    · have := hlast (List.singleton_inj.mp h); omega
    · exact absurd h.symm hlong
    · exact absurd h hlong
    · obtain ⟨hhead, hd⟩ := List.append_inj' h rfl
      have := ih _ (Nat.div_lt_self (by omega) (by decide)) hhead
      have := hlast (List.singleton_inj.mp hd)
      omega

theorem digitChar_ne_dot : ∀ d < 10, Nat.digitChar d ≠ '.' := by decide

theorem dot_not_mem_toDigits (n : ℕ) : '.' ∉ Nat.toDigits 10 n := by
  induction n using Nat.strong_induction_on with
  | _ n ih =>
    have hd := digitChar_ne_dot _ (Nat.mod_lt n (by decide))
    rw [toDigits_ten]
    split_ifs with h
    · simpa [eq_comm] using hd
    · simp only [List.mem_append, List.mem_singleton, not_or]
      exact ⟨ih _ (Nat.div_lt_self (by omega) (by decide)), fun e => hd e.symm⟩

theorem formatInt_natCast_injective : Function.Injective fun n : ℕ => formatInt n := by
  intro a b h
  exact toDigits_injective (congrArg String.data h)

theorem append_middle_cancel {p s a b : String} (h : p ++ a ++ s = p ++ b ++ s) : a = b :=
  String.ext (List.append_cancel_left (List.append_cancel_right (congrArg String.data h)))

end MysqlOperator
