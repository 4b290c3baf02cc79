import Mathlib.Data.Nat.Digits
import Mathlib.Tactic.Ring
import GqlPython.Text.Str

/-! # Decimal text of integers

    Python renders an `int` with `f'{v}'` as its decimal digits, with a leading
    `-` when negative; in Lean that is `toString`, i.e. `Nat.toDigits 10`. The
    code relies on two facts about this text, proved here once:

    * it reads back: `int(f'{v}') == v` (`pyInt_toString`), used when a tidy
      file's `int` column is cast back with `astype`;
    * it is made of digits and is injective (`toDigits_injective`), used for
      the sequence numbers in snapshot and temporary file names.
-/

namespace GqlPython

/-! ### Digits -/

/-- The value of one decimal digit character. -/
def digitVal (c : Char) : Nat := c.toNat - '0'.toNat

/-- The value of a run of digits, most significant first. -/
def digitsValue (ds : List Char) : Nat := ds.foldl (fun n c => n * 10 + digitVal c) 0

theorem digitVal_digitChar : ∀ d, d < 10 → digitVal (Nat.digitChar d) = d
  | 0, _ | 1, _ | 2, _ | 3, _ | 4, _ | 5, _ | 6, _ | 7, _ | 8, _ | 9, _ => rfl
  | _ + 10, h => absurd h (by omega)

theorem isDigit_digitChar : ∀ d, d < 10 → (Nat.digitChar d).isDigit = true
  | 0, _ | 1, _ | 2, _ | 3, _ | 4, _ | 5, _ | 6, _ | 7, _ | 8, _ | 9, _ => rfl
  | _ + 10, h => absurd h (by omega)

theorem foldl_digits (a : Nat) (ds : List Char) :
    ds.foldl (fun n c => n * 10 + digitVal c) a =
      a * 10 ^ ds.length + ds.foldl (fun n c => n * 10 + digitVal c) 0 := by
  induction ds generalizing a with
  | nil => simp
  | cons d ds ih =>
    rw [List.foldl_cons, List.foldl_cons, ih, ih (0 * 10 + digitVal d), List.length_cons]
    ring

theorem digitsValue_cons (d : Char) (ds : List Char) :
    digitsValue (d :: ds) = digitVal d * 10 ^ ds.length + digitsValue ds := by
  rw [digitsValue, List.foldl_cons, foldl_digits]; simp [digitsValue]

/-- The digits `Nat.toDigitsCore` pushes in front of `ds` have the value `n`,
    provided the fuel outlasts `n`. -/
theorem digitsValue_toDigitsCore : ∀ (fuel n : Nat) (ds : List Char), n < fuel →
    digitsValue (Nat.toDigitsCore 10 fuel n ds) = n * 10 ^ ds.length + digitsValue ds
  | 0, _, _, h => absurd h (by omega)
  | fuel + 1, n, ds, h => by
    have hd := digitVal_digitChar (n % 10) (Nat.mod_lt _ (by omega))
    simp only [Nat.toDigitsCore]
    split
    · rw [digitsValue_cons, hd, Nat.mod_eq_of_lt (by omega)]
    · rw [digitsValue_toDigitsCore fuel (n / 10) _ (by omega), digitsValue_cons, hd,
        List.length_cons, pow_succ]
      calc n / 10 * (10 ^ ds.length * 10) + (n % 10 * 10 ^ ds.length + digitsValue ds)
          = (10 * (n / 10) + n % 10) * 10 ^ ds.length + digitsValue ds := by ring
        _ = n * 10 ^ ds.length + digitsValue ds := by rw [Nat.div_add_mod]

theorem digitsValue_toDigits (n : Nat) : digitsValue (Nat.toDigits 10 n) = n := by
  simpa [digitsValue] using digitsValue_toDigitsCore (n + 1) n [] (by omega)

theorem toDigits_injective : Function.Injective (Nat.toDigits 10) := fun n m h => by
  rw [← digitsValue_toDigits n, h, digitsValue_toDigits]

theorem isDigit_toDigitsCore : ∀ (fuel n : Nat) (ds : List Char),
    (∀ c ∈ ds, c.isDigit) → ∀ c ∈ Nat.toDigitsCore 10 fuel n ds, c.isDigit
  | 0, _, _, h => h
  | fuel + 1, n, ds, h => by
    have hd := isDigit_digitChar (n % 10) (Nat.mod_lt _ (by omega))
    have hcons : ∀ c ∈ Nat.digitChar (n % 10) :: ds, c.isDigit := by
      simpa [hd] using h
    simp only [Nat.toDigitsCore]
    split
    · exact hcons
    · exact isDigit_toDigitsCore fuel _ _ hcons

theorem isDigit_toDigits (n : Nat) : ∀ c ∈ Nat.toDigits 10 n, c.isDigit :=
  isDigit_toDigitsCore _ _ _ (by simp)

theorem toDigits_ne_nil (n : Nat) : Nat.toDigits 10 n ≠ [] := by
  simp only [Nat.toDigits, Nat.toDigitsCore]
  split
  · simp
  · have : ∀ (fuel m : Nat) (ds : List Char), ds ≠ [] → Nat.toDigitsCore 10 fuel m ds ≠ [] := by
      intro fuel
      induction fuel with
      | zero => intro _ _ h; exact h
      | succ f ih =>
        intro m ds _
        simp only [Nat.toDigitsCore]
        split
        · simp
        · exact ih _ _ (by simp)
    exact this _ _ _ (by simp)

theorem length_toDigitsCore_le : ∀ (fuel n k : Nat) (ds : List Char), 0 < k → n < 10 ^ k →
    (Nat.toDigitsCore 10 fuel n ds).length ≤ ds.length + k
  | 0, _, _, _, hk, _ => by simp only [Nat.toDigitsCore]; omega
  | fuel + 1, n, k, ds, hk, hn => by
    simp only [Nat.toDigitsCore]
    split
    · simp only [List.length_cons]; omega
    · next h =>
      obtain ⟨k', rfl⟩ : ∃ k', k = k' + 1 := ⟨k - 1, by omega⟩
      rw [pow_succ] at hn
      have hk' : 0 < k' := by
        rcases Nat.eq_zero_or_pos k' with rfl | h'
        · simp at hn; omega
        · exact h'
      have := length_toDigitsCore_le fuel (n / 10) k' (Nat.digitChar (n % 10) :: ds) hk' (by omega)
      simp only [List.length_cons] at this; omega

/-- A number below `10 ^ k` has at most `k` digits. -/
theorem length_toDigits_le {n k : Nat} (hk : 0 < k) (hn : n < 10 ^ k) :
    (Nat.toDigits 10 n).length ≤ k := by
  simpa using length_toDigitsCore_le (n + 1) n k [] hk hn

/-! ### `int(s)` -/

/-- The digits after the first: each may be preceded by one `_`. -/
def readDigitsAux (acc : Nat) : List Char → Option Nat
  | [] => some acc
  | '_' :: c :: cs => if c.isDigit then readDigitsAux (acc * 10 + digitVal c) cs else none
  | c :: cs => if c.isDigit then readDigitsAux (acc * 10 + digitVal c) cs else none

/-- A non-empty run of ASCII digits with single `_` separators. -/
def readDigits : List Char → Option Nat
  | c :: cs => if c.isDigit then readDigitsAux (digitVal c) cs else none
  | [] => none

/-- Python's `int(s)` for a `str` in base 10: surrounding whitespace is ignored,
    then an optional sign and the digits. Non-ASCII decimal digits, which Python
    also accepts, are not modelled. -/
def pyInt (s : String) : Option Int :=
  match pyStrip s.data with
  | '-' :: ds => (readDigits ds).map fun n => -(n : Int)
  | '+' :: ds => (readDigits ds).map Int.ofNat
  | ds => (readDigits ds).map Int.ofNat

theorem readDigitsAux_of_digits : ∀ (acc : Nat) (ds : List Char), (∀ c ∈ ds, c.isDigit) →
    readDigitsAux acc ds = some (ds.foldl (fun n c => n * 10 + digitVal c) acc)
  | acc, [], _ => rfl
  | acc, c :: cs, h => by
    have hc : c.isDigit := h c (List.mem_cons_self _ _)
    have hne : c ≠ '_' := by rintro rfl; exact absurd hc (by decide)
    rw [readDigitsAux.eq_3 _ _ _ (fun _ _ h => absurd h hne), if_pos hc,
      readDigitsAux_of_digits _ cs (fun x hx => h x (List.mem_cons_of_mem _ hx))]
    rfl

theorem readDigits_toDigits (n : Nat) : readDigits (Nat.toDigits 10 n) = some n := by
  have hd := isDigit_toDigits n
  obtain ⟨c, cs, hcs⟩ := List.exists_cons_of_ne_nil (toDigits_ne_nil n)
  rw [hcs] at hd ⊢
  rw [readDigits, if_pos (hd c (List.mem_cons_self _ _)),
    readDigitsAux_of_digits _ _ (fun x hx => hd x (List.mem_cons_of_mem _ hx)),
    ← digitsValue_toDigits n, hcs, digitsValue_cons, foldl_digits]
  simp [digitsValue]

theorem pyStrip_toDigits (n : Nat) : pyStrip (Nat.toDigits 10 n) = Nat.toDigits 10 n :=
  pyStrip_of_forall fun _ h => isPySpace_of_isDigit (isDigit_toDigits n _ h)

/-- **`int(f'{v}') == v`** for every integer `v`. -/
theorem pyInt_toString (i : Int) : pyInt (toString i) = some i := by
  cases i with
  | ofNat n =>
    have hd := isDigit_toDigits n
    obtain ⟨c, cs, hcs⟩ := List.exists_cons_of_ne_nil (toDigits_ne_nil n)
    have hc : c.isDigit := hd c (by simp [hcs])
    have hsign : c ≠ '-' ∧ c ≠ '+' := ⟨by rintro rfl; exact absurd hc (by decide),
      by rintro rfl; exact absurd hc (by decide)⟩
    show pyInt ⟨Nat.toDigits 10 n⟩ = _
    simp only [pyInt, pyStrip_toDigits]
    rw [hcs]
    split
    · next h => exact absurd (List.cons.inj h).1 hsign.1
    · next h => exact absurd (List.cons.inj h).1 hsign.2
    · rw [← hcs, readDigits_toDigits]; rfl
  | negSucc n =>
    show pyInt ⟨'-' :: Nat.toDigits 10 (n + 1)⟩ = _
    have hstrip : pyStrip ('-' :: Nat.toDigits 10 (n + 1)) = '-' :: Nat.toDigits 10 (n + 1) :=
      pyStrip_of_forall fun c h => by
        rcases List.mem_cons.1 h with rfl | h
        · decide
        · exact isPySpace_of_isDigit (isDigit_toDigits _ _ h)
    simp only [pyInt, hstrip, readDigits_toDigits]
    rfl

end GqlPython
