import Mathlib.Data.List.Basic

/-! Where the parts of a text end. A run of characters of one kind ends before the first character
of another kind; a sequence of items ends before a character that no item begins with. So texts that
are the same have the same parts. -/
namespace Wallpaper.Text

variable {α : Type}

/-- The characters of a text that is written in pieces. -/
def written (pieces : List String) : List Char := pieces.flatMap String.toList

/-- The text does not begin with a character of this kind. -/
def Avoids (kind : Char → Bool) (t : List Char) : Prop := ∀ c ∈ t.head?, kind c = false

theorem avoids_nil (kind : Char → Bool) : Avoids kind [] := fun _ mem => nomatch mem

theorem avoids_cons {kind : Char → Bool} {c : Char} {t : List Char} :
    Avoids kind (c :: t) ↔ kind c = false := by
  simp [Avoids]

theorem takeWhile_run {kind : Char → Bool} {x r : List Char} (run : ∀ c ∈ x, kind c = true)
    (ends : Avoids kind r) : (x ++ r).takeWhile kind = x := by
  rw [List.takeWhile_append_of_pos run]
  cases r with
  | nil => simp
  | cons c r => simp [avoids_cons.1 ends]

/-- Where the characters of one kind end, so does the run of them. -/
theorem run_unique {kind : Char → Bool} {x y r s : List Char} (run_x : ∀ c ∈ x, kind c = true)
    (run_y : ∀ c ∈ y, kind c = true) (ends_r : Avoids kind r) (ends_s : Avoids kind s)
    (same : x ++ r = y ++ s) : x = y ∧ r = s := by
  have runs : x = y := by rw [← takeWhile_run run_x ends_r, same, takeWhile_run run_y ends_s]
  subst runs
  exact ⟨rfl, List.append_cancel_left same⟩

/-- A text is cut at its first stop in one way. -/
theorem cut_unique {stop : Char} {x y r s : List Char} (clear_x : stop ∉ x) (clear_y : stop ∉ y)
    (same : x ++ stop :: r = y ++ stop :: s) : x = y ∧ r = s := by
  have run {z : List Char} (clear : stop ∉ z) : ∀ c ∈ z, (c != stop) = true := fun c mem =>
    bne_iff_ne.2 fun met => clear (met ▸ mem)
  have ends {z : List Char} : Avoids (· != stop) (stop :: z) :=
    avoids_cons.2 (bne_self_eq_false stop)
  obtain ⟨runs, rests⟩ := run_unique (run clear_x) (run clear_y) ends ends same
  exact ⟨runs, (List.cons.inj rests).2⟩

/-- A number in decimal digits, with no zero in front of other digits. -/
structure Numeral (n : Nat) (t : List Char) : Prop where
  digits : ∀ c ∈ t, c.isDigit = true
  value : Nat.ofDigitChars 10 t 0 = n
  nonempty : t ≠ []
  plain : t.head? = some '0' → t = ['0']

theorem toDigits_plain (n : Nat) (zero : (Nat.toDigits 10 n).head? = some '0') :
    Nat.toDigits 10 n = ['0'] := by
  induction n using Nat.strongRecOn with
  | ind n ih =>
    by_cases small : n < 10
    · rw [Nat.toDigits_of_lt_base small] at zero ⊢
      rw [Option.some.inj zero]
    · rw [Nat.toDigits_eq_if (by decide), if_neg small,
        List.head?_append_of_ne_nil _ Nat.toDigits_ne_nil] at zero
      have first := ih (n / 10) (by omega) zero
      have value := @Nat.ofDigitChars_ten_toDigits (n / 10)
      rw [first] at value
      have none : n / 10 = 0 := value.symm
      omega

theorem numeral_toString (n : Nat) : Numeral n (toString n).toList := by
  rw [Nat.toString_eq_ofList_toDigits, String.toList_ofList]
  constructor
  · exact fun c mem => Nat.isDigit_of_mem_toDigits (by decide) (by decide) mem
  · exact Nat.ofDigitChars_ten_toDigits
  · exact Nat.toDigits_ne_nil
  · exact toDigits_plain n

theorem Numeral.unique {m n : Nat} {x y r s : List Char} (hx : Numeral m x) (hy : Numeral n y)
    (ends_r : Avoids Char.isDigit r) (ends_s : Avoids Char.isDigit s) (same : x ++ r = y ++ s) :
    m = n ∧ r = s := by
  obtain ⟨runs, rest⟩ := run_unique hx.digits hy.digits ends_r ends_s same
  exact ⟨by rw [← hx.value, ← hy.value, runs], rest⟩

/-- The texts of some items, one behind the other. -/
inductive Sequenced (item : α → List Char → Prop) : List α → List Char → Prop
  | none : Sequenced item [] []
  | more : item a t → Sequenced item rest u → Sequenced item (a :: rest) (t ++ u)

theorem sequenced_flatMap {item : α → List Char → Prop} {text : α → List Char}
    (each : ∀ a, item a (text a)) (as : List α) : Sequenced item as (as.flatMap text) := by
  induction as with
  | nil => exact .none
  | cons a rest ih => exact .more (each a) ih

/-- Items that can be told from each other and from what closes them can be read off a text. -/
theorem Sequenced.unique {item : α → List Char → Prop} {closing : Char}
    (unique : ∀ {a b t u r s}, item a t → item b u → t ++ r = u ++ s → a = b ∧ r = s)
    (opens : ∀ {a t}, item a t → ∃ c rest, t = c :: rest ∧ c ≠ closing) {as bs : List α}
    {t u r s : List Char} (ha : Sequenced item as t) (hb : Sequenced item bs u)
    (same : t ++ closing :: r = u ++ closing :: s) : as = bs ∧ r = s := by
  induction ha generalizing bs u with
  | none =>
    cases hb with
    | none => exact ⟨rfl, (List.cons.inj same).2⟩
    | more first later =>
      obtain ⟨c, rest, rfl, other⟩ := opens first
      exact absurd (List.cons.inj same).1.symm other
  | more first later ih =>
    cases hb with
    | none =>
      obtain ⟨c, rest, rfl, other⟩ := opens first
      exact absurd (List.cons.inj same).1 other
    | more first_other later_other =>
      rw [List.append_assoc, List.append_assoc] at same
      obtain ⟨rfl, later_same⟩ := unique first first_other same
      obtain ⟨rfl, rest⟩ := ih later_other later_same
      exact ⟨rfl, rest⟩

end Wallpaper.Text
