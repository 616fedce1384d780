import Wallpaper.Proofs.Text.Runs
import Wallpaper.Text.Quoted

/-! What can be read off a quoted text. Whatever a text holds, its quoted form stays on one line,
ends with the first quote that is not escaped, and is the form of no other text. -/
namespace Wallpaper.Text

/-- The letters that stand behind a backslash, and the characters they stand for. -/
def shortEscapes : List (Char × Char) :=
  [('0', '\x00'), ('t', '\t'), ('n', '\n'), ('r', '\r'), ('"', '"'), ('\\', '\\')]

/-- What stands for a character between quotes. -/
inductive Escaped : Char → List Char → Prop
  | plain : c ≠ '"' → c ≠ '\\' → c ≠ '\n' → Escaped c [c]
  | short : (letter, c) ∈ shortEscapes → Escaped c ['\\', letter]
  | codePoint : Escaped c (codePointEscape c)

theorem escaped_escapeChar (c : Char) : Escaped c (escapeChar c) := by
  unfold escapeChar
  split
  case h_7 =>
    split
    · exact .codePoint
    · exact .plain ‹_› ‹_› ‹_›
  all_goals exact .short (by decide)

section Hexadecimal

theorem digitChar_inj : ∀ m < 16, ∀ n < 16, Nat.digitChar m = Nat.digitChar n → m = n := by decide

theorem mem_toDigits {n : Nat} {c : Char} (mem : c ∈ Nat.toDigits 16 n) :
    ∃ k < 16, c = Nat.digitChar k := by
  induction n using Nat.strongRecOn with
  | ind n ih =>
    rw [Nat.toDigits_eq_if (by decide)] at mem
    split at mem
    next small => exact ⟨n, small, List.mem_singleton.1 mem⟩
    next large =>
      rcases List.mem_append.1 mem with front | last
      · exact ih (n / 16) (by omega) front
      · exact ⟨n % 16, Nat.mod_lt n (by decide), List.mem_singleton.1 last⟩

theorem toDigits_inj {m n : Nat} (same : Nat.toDigits 16 m = Nat.toDigits 16 n) : m = n := by
  have front_nonempty (k : Nat) : Nat.toDigits 16 k ≠ [] := Nat.toDigits_ne_nil
  induction m using Nat.strongRecOn generalizing n with
  | ind m ih =>
    rw [Nat.toDigits_eq_if (by decide), @Nat.toDigits_eq_if 16 n (by decide)] at same
    split at same
    next small =>
      split at same
      next small_other => exact digitChar_inj m small n small_other (List.cons.inj same).1
      next => simp [List.singleton_eq_append_iff, front_nonempty] at same
    next large =>
      split at same
      next => simp [List.append_eq_singleton_iff, front_nonempty] at same
      next large_other =>
        obtain ⟨fronts, lasts⟩ := List.append_inj' same rfl
        have front := ih (m / 16) (by omega) fronts
        have last := digitChar_inj (m % 16) (Nat.mod_lt m (by decide)) (n % 16)
          (Nat.mod_lt n (by decide)) (List.cons.inj lasts).1
        omega

end Hexadecimal

theorem codePoint_unique {c d : Char} {r s : List Char}
    (same : codePointEscape c ++ r = codePointEscape d ++ s) : c = d ∧ r = s := by
  have digits : ∀ k < 16, Nat.digitChar k ≠ '\x7d' := by decide
  have clear (c : Char) : '\x7d' ∉ Nat.toDigits 16 c.toNat := by
    intro mem
    obtain ⟨k, small, brace⟩ := mem_toDigits mem
    exact digits k small brace.symm
  obtain ⟨numbers, rest⟩ := cut_unique (clear c) (clear d) (r := r) (s := s)
    (by simpa [codePointEscape] using same)
  exact ⟨Char.toNat_inj.1 (toDigits_inj numbers), rest⟩

theorem short_unique : ∀ x ∈ shortEscapes,
    x.1 ≠ 'u' ∧ ∀ y ∈ shortEscapes, x.1 = y.1 → x.2 = y.2 := by decide

theorem Escaped.unique {c d : Char} {t u r s : List Char} (hc : Escaped c t) (hd : Escaped d u)
    (same : t ++ r = u ++ s) : c = d ∧ r = s := by
  cases hc with
  | plain _ not_escape =>
    cases hd with
    | plain => simpa using same
    | _ => exact absurd (List.cons.inj same).1 not_escape
  | @short letter _ mem =>
    cases hd with
    | plain _ not_escape => exact absurd (List.cons.inj same).1.symm not_escape
    | @short other _ mem_other =>
      obtain ⟨letters, rest⟩ : letter = other ∧ r = s := by simpa using same
      exact ⟨(short_unique _ mem).2 _ mem_other letters, rest⟩
    | codePoint => exact absurd (List.cons.inj (List.cons.inj same).2).1 (short_unique _ mem).1
  | codePoint =>
    cases hd with
    | plain _ not_escape => exact absurd (List.cons.inj same).1.symm not_escape
    | short mem =>
      exact absurd (List.cons.inj (List.cons.inj same).2).1.symm (short_unique _ mem).1
    | codePoint => exact codePoint_unique same

theorem Escaped.head {c : Char} {t : List Char} (h : Escaped c t) :
    ∃ first rest, t = first :: rest ∧ first ≠ '"' := by
  cases h with
  | plain not_quote => exact ⟨c, [], rfl, not_quote⟩
  | _ => exact ⟨'\\', _, rfl, by decide⟩

theorem Escaped.line {c : Char} {t : List Char} (h : Escaped c t) : '\n' ∉ t := by
  cases h with
  | plain _ _ not_newline => simpa using not_newline.symm
  | short mem =>
    have letters : ∀ x ∈ shortEscapes, x.1 ≠ '\n' := by decide
    simpa using (letters _ mem).symm
  | codePoint =>
    have digits : ∀ k < 16, Nat.digitChar k ≠ '\n' := by decide
    intro mem
    have among : '\n' ∈ Nat.toDigits 16 c.toNat := by simpa [codePointEscape] using mem
    obtain ⟨k, small, same⟩ := mem_toDigits among
    exact digits k small same.symm

theorem quoted_unique {a b : String} {r s : List Char}
    (same : (quoted a).toList ++ r = (quoted b).toList ++ s) : a = b ∧ r = s := by
  have later :
      a.toList.flatMap escapeChar ++ '"' :: r = b.toList.flatMap escapeChar ++ '"' :: s := by
    simpa [quoted] using same
  obtain ⟨chars, rest⟩ := (sequenced_flatMap escaped_escapeChar a.toList).unique Escaped.unique
    Escaped.head (sequenced_flatMap escaped_escapeChar b.toList) later
  exact ⟨String.toList_inj.1 chars, rest⟩

theorem newline_notMem_quoted (s : String) : '\n' ∉ (quoted s).toList := by
  have escaped (c : Char) : '\n' ∉ escapeChar c := (escaped_escapeChar c).line
  simp [quoted, escaped]

end Wallpaper.Text
