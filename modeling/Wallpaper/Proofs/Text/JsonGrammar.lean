import Wallpaper.Proofs.Text.Runs
import Wallpaper.Text.Json

/-! Which texts stand for a JSON value, said without a writer. White space may stand around every
token, and a character of a string may be escaped in several ways; numbers are natural, as there are
no others among the values. No text stands for two values, and what is written for a value stands
for it. -/
namespace Wallpaper.Text.Json

variable {α : Type}

def spaces : List Char := [' ', '\t', '\n', '\r']

def isSpace (c : Char) : Bool := spaces.contains c

def Blank (t : List Char) : Prop := ∀ c ∈ t, isSpace c = true

/-- The letters that stand behind a backslash, and the characters they stand for. -/
def shortEscapes : List (Char × Char) :=
  [('"', '"'), ('\\', '\\'), ('/', '/'), ('b', '\x08'), ('f', '\x0c'), ('n', '\n'), ('r', '\r'),
    ('t', '\t')]

def hexValue? (c : Char) : Option Nat :=
  if '0' ≤ c ∧ c ≤ '9' then some (c.toNat - '0'.toNat)
  else if 'a' ≤ c ∧ c ≤ 'f' then some (c.toNat - 'a'.toNat + 10)
  else if 'A' ≤ c ∧ c ≤ 'F' then some (c.toNat - 'A'.toNat + 10)
  else none

/-- The number in four hexadecimal digits. -/
def unit? : List Char → Option Nat
  | [a, b, c, d] => do
    return ((← hexValue? a) * 16 + (← hexValue? b)) * 256 + (← hexValue? c) * 16 + (← hexValue? d)
  | _ => none

/-- What may stand for a character within a string. A character behind the first 65536 is a pair of
surrogates if it is escaped. -/
inductive Character : Char → List Char → Prop
  | plain : 0x20 ≤ c.toNat → c ≠ '"' → c ≠ '\\' → Character c [c]
  | short : (letter, c) ∈ shortEscapes → Character c ['\\', letter]
  | unit : unit? t = some c.toNat → Character c ('\\' :: 'u' :: t)
  | pair : unit? t = some (0xd800 + high) → high < 0x400 → unit? u = some (0xdc00 + low) →
    low < 0x400 → c.toNat = 0x10000 + high * 0x400 + low →
    Character c ('\\' :: 'u' :: t ++ '\\' :: 'u' :: u)

def Quoted (s : String) (t : List Char) : Prop :=
  ∃ body, Sequenced Character s.toList body ∧ t = '"' :: body ++ ['"']

/-- Items with a comma between any two of them, and none behind the last. -/
inductive Listed (item : α → List Char → Prop) : List α → List Char → Prop
  | none : Listed item [] []
  | last : item a t → Blank after → Listed item [a] (t ++ after)
  | more : item a t → Blank after → Blank line → Listed item (b :: rest) u →
    Listed item (a :: b :: rest) (t ++ (after ++ ',' :: (line ++ u)))

inductive Member (value : Json → List Char → Prop) : String × Json → List Char → Prop
  | mk : Quoted key k → Blank after → Blank line → value v t →
    Member value (key, v) (k ++ (after ++ ':' :: (line ++ t)))

inductive Spells : Json → List Char → Prop
  | null : Spells null "null".toList
  | bool : Spells (bool value) (if value then "true" else "false").toList
  | number : Numeral n t → Spells (number n) t
  | string : Quoted s t → Spells (string s) t
  | array : Blank line → Listed Spells items t →
    Spells (array items) ('[' :: (line ++ t) ++ [']'])
  | object : Blank line → Listed (Member Spells) entries t →
    Spells (object entries) ('\x7b' :: (line ++ t) ++ ['\x7d'])

/-- A whole text that stands for a value. -/
def Reads (text : String) (value : Json) : Prop :=
  ∃ line t after, Blank line ∧ Spells value t ∧ Blank after ∧ text.toList = line ++ t ++ after

/- A value holds values in a list or in the entries of an object. -/
@[induction_eliminator]
theorem induct {motive : Json → Prop} (null : motive null) (bool : ∀ b, motive (bool b))
    (number : ∀ n, motive (number n)) (string : ∀ s, motive (string s))
    (array : ∀ items, (∀ v ∈ items, motive v) → motive (array items))
    (object : ∀ entries, (∀ e ∈ entries, motive e.2) → motive (object entries)) (v : Json) :
    motive v :=
  match v with
  | .null => null
  | .bool b => bool b
  | .number n => number n
  | .string s => string s
  | .array items => array items fun v _ => induct null bool number string array object v
  | .object entries => object entries fun e _ => induct null bool number string array object e.2
termination_by sizeOf v
decreasing_by
  · decreasing_tactic
  · obtain ⟨key, v⟩ := e
    have inside := List.sizeOf_lt_of_mem ‹(key, v) ∈ entries›
    simp only [Prod.mk.sizeOf_spec, Json.object.sizeOf_spec] at inside ⊢
    omega

section Unambiguity

theorem length_of_unit? {t : List Char} {n : Nat} (h : unit? t = some n) : t.length = 4 := by
  unfold unit? at h
  split at h
  · rfl
  · cases h

/-- Four digits are as many as any four. -/
theorem unit_unique {t u r s : List Char} {m n : Nat} (ht : unit? t = some m)
    (hu : unit? u = some n) (same : t ++ r = u ++ s) : m = n ∧ r = s := by
  have lengths : t.length = u.length := by rw [length_of_unit? ht, length_of_unit? hu]
  obtain ⟨rfl, rest⟩ := List.append_inj same lengths
  exact ⟨Option.some.inj (ht.symm.trans hu), rest⟩

theorem short_unique : ∀ x ∈ shortEscapes,
    x.1 ≠ 'u' ∧ ∀ y ∈ shortEscapes, x.1 = y.1 → x.2 = y.2 := by decide

theorem not_surrogate (c : Char) {n : Nat} (small : n < 0x400) : c.toNat ≠ 0xd800 + n := by
  have valid : c.toNat.isValidChar := c.valid
  rcases valid with below | ⟨above, -⟩ <;> omega

theorem Character.unique {c d : Char} {t u r s : List Char} (hc : Character c t)
    (hd : Character d u) (same : t ++ r = u ++ s) : c = d ∧ r = s := by
  cases hc with
  | plain printable not_quote not_escape =>
    cases hd with
    | plain => simpa using same
    | _ => exact absurd (List.cons.inj same).1 not_escape
  | @short letter _ mem =>
    cases hd with
    | plain _ _ not_escape => exact absurd (List.cons.inj same).1.symm not_escape
    | @short other _ mem_other =>
      obtain ⟨letters, rest⟩ : letter = other ∧ r = s := by simpa using same
      exact ⟨(short_unique _ mem).2 _ mem_other letters, rest⟩
    | _ => exact absurd (List.cons.inj (List.cons.inj same).2).1 (short_unique _ mem).1
  | unit number =>
    cases hd with
    | plain _ _ not_escape => exact absurd (List.cons.inj same).1.symm not_escape
    | short mem =>
      exact absurd (List.cons.inj (List.cons.inj same).2).1.symm (short_unique _ mem).1
    | unit other =>
      obtain ⟨numbers, rest⟩ := unit_unique number other (by simpa using same)
      exact ⟨Char.toNat_inj.1 numbers, rest⟩
    | pair first small =>
      obtain ⟨numbers, -⟩ := unit_unique number first (by simpa using same)
      exact absurd numbers (not_surrogate c small)
  | pair first small second small_second value =>
    cases hd with
    | plain _ _ not_escape => exact absurd (List.cons.inj same).1.symm not_escape
    | short mem =>
      exact absurd (List.cons.inj (List.cons.inj same).2).1.symm (short_unique _ mem).1
    | unit other =>
      obtain ⟨numbers, -⟩ := unit_unique first other (by simpa using same)
      exact absurd numbers.symm (not_surrogate d small)
    | pair first_other _ second_other _ value_other =>
      obtain ⟨highs, later⟩ := unit_unique first first_other (by simpa using same)
      obtain ⟨lows, rest⟩ := unit_unique second second_other (by simpa using later)
      have numbers : c.toNat = d.toNat := by omega
      exact ⟨Char.toNat_inj.1 numbers, rest⟩

/-- No character begins with the quote that ends a string. -/
theorem Character.head {c : Char} {t : List Char} (h : Character c t) :
    ∃ first rest, t = first :: rest ∧ first ≠ '"' := by
  cases h with
  | plain _ not_quote => exact ⟨c, [], rfl, not_quote⟩
  | _ => exact ⟨'\\', _, rfl, by decide⟩

/-- An item can be told from every other item, and from what stands behind it if that does not go on
with a digit. -/
def Settled (item : α → List Char → Prop) (a : α) : Prop :=
  ∀ ⦃b t u r s⦄, item a t → item b u → Avoids Char.isDigit r → Avoids Char.isDigit s →
    t ++ r = u ++ s → a = b ∧ r = s

theorem settled_quoted (a : String) : Settled Quoted a := by
  intro b t u r s ha hb _ _ same
  obtain ⟨x, hx, rfl⟩ := ha
  obtain ⟨y, hy, rfl⟩ := hb
  obtain ⟨chars, rest⟩ := hx.unique Character.unique Character.head hy (by simpa using same)
  exact ⟨String.toList_inj.1 chars, rest⟩

def punctuation : List Char := [',', ':', ']', '\x7d']

theorem punctuation_apart : ∀ c ∈ punctuation, isSpace c = false ∧ c.isDigit = false := by
  simp [punctuation, isSpace, spaces]

theorem Blank.avoids_digit {after r : List Char} (blank : Blank after)
    (ends : Avoids Char.isDigit r) : Avoids Char.isDigit (after ++ r) := by
  cases after with
  | nil => exact ends
  | cons space rest =>
    have among : space ∈ spaces := by simpa [isSpace] using blank space List.mem_cons_self
    have digitless : ∀ c ∈ spaces, c.isDigit = false := by simp [spaces]
    exact avoids_cons.2 (digitless space among)

theorem Settled.part {item : α → List Char → Prop} {a b : α} (settled : Settled item a)
    {t u after other r s : List Char} {c d : Char} (ha : item a t) (hb : item b u)
    (blank : Blank after) (blank_other : Blank other) (stop : c ∈ punctuation)
    (stop_other : d ∈ punctuation) (same : t ++ (after ++ c :: r) = u ++ (other ++ d :: s)) :
    a = b ∧ c = d ∧ r = s := by
  obtain ⟨not_space, not_digit⟩ := punctuation_apart c stop
  obtain ⟨not_space_other, not_digit_other⟩ := punctuation_apart d stop_other
  obtain ⟨items, later⟩ := settled ha hb (blank.avoids_digit (avoids_cons.2 not_digit))
    (blank_other.avoids_digit (avoids_cons.2 not_digit_other)) same
  obtain ⟨-, rest⟩ := run_unique blank blank_other (avoids_cons.2 not_space)
    (avoids_cons.2 not_space_other) later
  exact ⟨items, List.cons.inj rest⟩

/-- Begins with a character that is no white space and closes nothing. -/
def Opens (t : List Char) : Prop :=
  ∃ c rest, t = c :: rest ∧ isSpace c = false ∧ c ∉ punctuation

theorem Opens.avoids {t r : List Char} (opens : Opens t) : Avoids isSpace (t ++ r) := by
  obtain ⟨c, rest, rfl, ink, -⟩ := opens
  exact avoids_cons.2 ink

theorem Opens.ne_stop {t r s : List Char} {c : Char} (opens : Opens t) (stop : c ∈ punctuation) :
    t ++ r ≠ c :: s := by
  obtain ⟨first, rest, rfl, -, other⟩ := opens
  intro same
  exact other ((List.cons.inj same).1 ▸ stop)

theorem Opens.append {t r : List Char} (opens : Opens t) : Opens (t ++ r) := by
  obtain ⟨c, rest, rfl, apart⟩ := opens
  exact ⟨c, rest ++ r, rfl, apart⟩

theorem Listed.opens {item : α → List Char → Prop} (opens : ∀ {a t}, item a t → Opens t) {a : α}
    {rest : List α} {t : List Char} (h : Listed item (a :: rest) t) : Opens t := by
  cases h with
  | last first => exact (opens first).append
  | more first => exact (opens first).append

theorem Listed.avoids {item : α → List Char → Prop} {items : List α} {closing : Char}
    (closes : closing ∈ punctuation) (opens : ∀ {a t}, item a t → Opens t) {t r : List Char}
    (h : Listed item items t) : Avoids isSpace (t ++ closing :: r) := by
  cases items with
  | nil =>
    cases h
    exact avoids_cons.2 (punctuation_apart closing closes).1
  | cons a rest => exact (h.opens opens).avoids

/-- The items of a list can be read off it, up to what closes it. -/
theorem Listed.unique {item : α → List Char → Prop} {items others : List α} {closing : Char}
    (closes : closing ∈ punctuation) (not_comma : closing ≠ ',')
    (settled : ∀ a ∈ items, Settled item a) (opens : ∀ {a t}, item a t → Opens t)
    {t u r s : List Char} (ht : Listed item items t) (hu : Listed item others u)
    (same : t ++ closing :: r = u ++ closing :: s) : items = others ∧ r = s := by
  have comma : ',' ∈ punctuation := by decide
  induction ht generalizing others u with
  | none =>
    cases others with
    | nil =>
      cases hu
      exact ⟨rfl, (List.cons.inj same).2⟩
    | cons b rest => exact absurd same.symm ((hu.opens opens).ne_stop closes)
  | last first blank =>
    have apart := settled _ List.mem_cons_self
    cases hu with
    | none => exact absurd same ((opens first).append.ne_stop closes)
    | last other blank_other =>
      rw [List.append_assoc, List.append_assoc] at same
      obtain ⟨rfl, -, rest⟩ := apart.part first other blank blank_other closes closes same
      exact ⟨rfl, rest⟩
    | more other blank_other =>
      -- One list closes where the other goes on with a comma.
      simp only [List.append_assoc, List.cons_append] at same
      obtain ⟨-, stop, -⟩ := apart.part first other blank blank_other closes comma same
      exact absurd stop not_comma
  | more first blank line later ih =>
    have apart := settled _ List.mem_cons_self
    cases hu with
    | none => exact absurd same ((opens first).append.ne_stop closes)
    | last other blank_other =>
      simp only [List.append_assoc, List.cons_append] at same
      obtain ⟨-, stop, -⟩ := apart.part first other blank blank_other comma closes same
      exact absurd stop.symm not_comma
    | more other blank_other line_other later_other =>
      simp only [List.append_assoc, List.cons_append] at same
      obtain ⟨rfl, -, lines⟩ := apart.part first other blank blank_other comma comma same
      obtain ⟨-, rests⟩ := run_unique line line_other (later.avoids closes opens)
        (later_other.avoids closes opens) lines
      obtain ⟨items, rest⟩ :=
        ih (fun a mem => settled a (List.mem_cons_of_mem _ mem)) later_other rests
      exact ⟨by rw [items], rest⟩

theorem Listed.unique_behind {item : α → List Char → Prop} {items others : List α}
    (closing : Char) (closes : closing ∈ punctuation) (not_comma : closing ≠ ',')
    (settled : ∀ a ∈ items, Settled item a) (opens : ∀ {a t}, item a t → Opens t)
    {line other t u r s : List Char} (blank : Blank line) (blank_other : Blank other)
    (ht : Listed item items t) (hu : Listed item others u)
    (same : line ++ t ++ closing :: r = other ++ u ++ closing :: s) : items = others ∧ r = s := by
  rw [List.append_assoc, List.append_assoc] at same
  obtain ⟨-, lists⟩ := run_unique blank blank_other (ht.avoids closes opens)
    (hu.avoids closes opens) same
  exact ht.unique closes not_comma settled opens hu lists

def opening : Json → Char
  | null => 'n'
  | bool value => if value then 't' else 'f'
  | number _ => '0'
  | string _ => '"'
  | array _ => '['
  | object _ => '\x7b'

/-- All digits open numbers. -/
def kindOf (c : Char) : Char := if c.isDigit then '0' else c

theorem Spells.opening {v : Json} {t : List Char} (h : Spells v t) :
    ∃ c rest, t = c :: rest ∧ kindOf c = v.opening := by
  cases h with
  | number numeral =>
    cases t with
    | nil => exact absurd rfl numeral.nonempty
    | cons c rest =>
      have digit : c.isDigit = true := numeral.digits c List.mem_cons_self
      exact ⟨c, rest, rfl, by simp [kindOf, digit, Json.opening]⟩
  | string quoted =>
    obtain ⟨body, -, rfl⟩ := quoted
    exact ⟨'"', _, rfl, rfl⟩
  | @bool value => cases value <;> exact ⟨_, _, rfl, rfl⟩
  | _ => exact ⟨_, _, rfl, rfl⟩

theorem Spells.opens {v : Json} {t : List Char} (h : Spells v t) : Opens t := by
  obtain ⟨c, rest, rfl, kind⟩ := h.opening
  have opening : kindOf c ∈ ['n', 't', 'f', '0', '"', '[', '\x7b'] := by
    rw [kind]
    cases v with
    | bool value => cases value <;> simp [Json.opening]
    | _ => simp [Json.opening]
  have others : ∀ c ∈ spaces ++ punctuation,
      kindOf c ∉ ['n', 't', 'f', '0', '"', '[', '\x7b'] := by
    simp [spaces, punctuation, kindOf]
  have other : c ∉ spaces ++ punctuation := fun mem => others c mem opening
  exact ⟨c, rest, rfl, by simp_all [isSpace], by simp_all⟩

theorem Member.opens {value : Json → List Char → Prop} {entry : String × Json} {t : List Char}
    (h : Member value entry t) : Opens t := by
  cases h with
  | mk quoted =>
    obtain ⟨body, -, rfl⟩ := quoted
    exact ⟨'"', _, rfl, by decide⟩

theorem settled_member {entry : String × Json} (settled : Settled Spells entry.2) :
    Settled (Member Spells) entry := by
  intro other t u r s h h_other ends_r ends_s same
  have colon : ':' ∈ punctuation := by decide
  cases h with
  | mk key blank line value =>
    cases h_other with
    | mk key_other blank_other line_other value_other =>
      simp only [List.append_assoc, List.cons_append] at same
      obtain ⟨rfl, -, lines⟩ :=
        (settled_quoted _).part key key_other blank blank_other colon colon same
      obtain ⟨-, values⟩ :=
        run_unique line line_other value.opens.avoids value_other.opens.avoids lines
      obtain ⟨rfl, rest⟩ := settled value value_other ends_r ends_s values
      exact ⟨rfl, rest⟩

theorem Spells.alike {v w : Json} {t u r s : List Char} (hv : Spells v t) (hw : Spells w u)
    (same : t ++ r = u ++ s) : v.opening = w.opening := by
  obtain ⟨c, rest, rfl, kind⟩ := hv.opening
  obtain ⟨d, other, rfl, kind_other⟩ := hw.opening
  rw [← kind, ← kind_other, (List.cons.inj same).1]

/- By induction on the value: what the text opens with gives the kind of the other value, and the
parts of the two are settled one by one. -/
theorem settled_spells (v : Json) : Settled Spells v := by
  induction v
  all_goals
    intro w t u r s hv hw ends_r ends_s same
    have alike := hv.alike hw same
  case null =>
    obtain rfl : w = null := by cases w <;> grind [Json.opening]
    cases hv; cases hw
    exact ⟨rfl, List.append_cancel_left same⟩
  case bool b =>
    obtain rfl : w = bool b := by cases w <;> grind [Json.opening]
    cases hv; cases hw
    exact ⟨rfl, List.append_cancel_left same⟩
  case number n =>
    obtain ⟨m, rfl⟩ : ∃ m, w = number m := by cases w <;> grind [Json.opening]
    cases hv with | number numeral => cases hw with | number other =>
    obtain ⟨numbers, rest⟩ := numeral.unique other ends_r ends_s same
    exact ⟨by rw [numbers], rest⟩
  case string a =>
    obtain ⟨b, rfl⟩ : ∃ b, w = string b := by cases w <;> grind [Json.opening]
    cases hv with | string quoted => cases hw with | string other =>
    obtain ⟨texts, rest⟩ := settled_quoted a quoted other ends_r ends_s same
    exact ⟨by rw [texts], rest⟩
  case array items ih =>
    obtain ⟨others, rfl⟩ : ∃ others, w = array others := by cases w <;> grind [Json.opening]
    cases hv with | array line listed => cases hw with | array line_other other =>
    obtain ⟨lists, rest⟩ := Listed.unique_behind ']' (by decide) (by decide) ih Spells.opens line
      line_other listed other (by simpa using same)
    exact ⟨by rw [lists], rest⟩
  case object entries ih =>
    obtain ⟨others, rfl⟩ : ∃ others, w = object others := by cases w <;> grind [Json.opening]
    cases hv with | object line listed => cases hw with | object line_other other =>
    obtain ⟨lists, rest⟩ := Listed.unique_behind '\x7d' (by decide) (by decide)
      (fun e mem => settled_member (ih e mem)) Member.opens line line_other listed other
      (by simpa using same)
    exact ⟨by rw [lists], rest⟩

/-- A text stands for one value at most. -/
theorem Reads.unique {text : String} {v w : Json} (hv : Reads text v) (hw : Reads text w) :
    v = w := by
  obtain ⟨line, t, after, blank, spells, blank_after, split⟩ := hv
  obtain ⟨other, u, after_other, blank_other, spells_other, blank_after_other, split_other⟩ := hw
  rw [split, List.append_assoc, List.append_assoc] at split_other
  obtain ⟨-, values⟩ := run_unique blank blank_other spells.opens.avoids spells_other.opens.avoids
    split_other
  have ends {after : List Char} (blank : Blank after) : Avoids Char.isDigit after := by
    simpa using blank.avoids_digit (avoids_nil Char.isDigit)
  exact (settled_spells v spells spells_other (ends blank_after) (ends blank_after_other) values).1

end Unambiguity

section Writing

theorem unit?_hexDigits : ∀ n < 0x20,
    unit? ('0' :: '0' :: [Nat.digitChar (n / 16), Nat.digitChar (n % 16)]) = some n := by decide

theorem character_escapeChar (c : Char) : Character c (escapeChar c) := by
  unfold escapeChar
  split
  case h_8 =>
    split
    next control =>
      exact .unit (unit?_hexDigits c.toNat control)
    next => exact .plain (by omega) ‹_› ‹_›
  all_goals exact .short (by decide)

theorem quoted_stringText (s : String) : Quoted s (stringText s).toList :=
  ⟨_, sequenced_flatMap character_escapeChar s.toList, String.toList_ofList⟩

theorem blank_nil : Blank [] := fun _ mem => nomatch mem

theorem blank_newline (depth : Nat) : Blank (newline depth).toList := by
  intro c mem
  rw [newline, String.toList_ofList] at mem
  rcases List.mem_cons.1 mem with rfl | space
  · rfl
  · rw [List.eq_of_mem_replicate space]
    rfl

theorem morePieces_eq (depth : Nat) (items : List Json) :
    morePieces depth items =
      items.flatMap fun item => "," :: newline depth :: item.pieces depth := by
  induction items with
  | nil => rfl
  | cons item rest ih => simp [morePieces, ih]

theorem moreEntries_eq (depth : Nat) (entries : List (String × Json)) :
    moreEntries depth entries =
      entries.flatMap fun entry => "," :: newline depth :: entryPieces depth entry := by
  induction entries with
  | nil => rfl
  | cons entry rest ih => simp [moreEntries, ih]

/-- Items are written with a line end behind each comma, and before the closing bracket. -/
theorem listed_written {item : α → List Char → Prop} (pieces : α → List String) {line tail : String}
    (blank_line : Blank line.toList) (blank_tail : Blank tail.toList) (first : α) (rest : List α)
    (each : ∀ a ∈ first :: rest, item a (written (pieces a))) :
    Listed item (first :: rest)
      (written (pieces first ++ (rest.flatMap fun a => "," :: line :: pieces a) ++ [tail])) := by
  induction rest generalizing first with
  | nil =>
    simpa [written] using Listed.last (each first List.mem_cons_self) blank_tail
  | cons b rest ih =>
    have later := ih b fun a mem => each a (List.mem_cons_of_mem _ mem)
    simpa [written] using Listed.more (each first List.mem_cons_self) blank_nil blank_line later

theorem spells_pieces (v : Json) (depth : Nat) : Spells v (written (v.pieces depth)) := by
  induction v generalizing depth with
  | null => exact .null
  | bool b => cases b <;> exact .bool
  | number n => simpa [pieces, written] using Spells.number (numeral_toString n)
  | string s => simpa [pieces, written] using Spells.string (quoted_stringText s)
  | array items ih =>
    cases items with
    | nil => exact .array blank_nil .none
    | cons first rest =>
      have listed := listed_written (pieces (depth + 1)) (blank_newline (depth + 1))
        (blank_newline depth) first rest fun v mem => ih v mem (depth + 1)
      simpa [pieces, morePieces_eq, written] using Spells.array (blank_newline (depth + 1)) listed
  | object entries ih =>
    cases entries with
    | nil => exact .object blank_nil .none
    | cons first rest =>
      have member (entry : String × Json) (mem : entry ∈ first :: rest) :
          Member Spells entry (written (entryPieces (depth + 1) entry)) := by
        obtain ⟨key, v⟩ := entry
        have value := ih (key, v) mem (depth + 1)
        have blank : Blank [' '] := by simp [Blank, isSpace, spaces]
        simpa [entryPieces, written] using
          Member.mk (quoted_stringText key) blank_nil blank value
      have listed := listed_written (entryPieces (depth + 1)) (blank_newline (depth + 1))
        (blank_newline depth) first rest member
      simpa [pieces, moreEntries_eq, written] using
        Spells.object (blank_newline (depth + 1)) listed

theorem reads_text (v : Json) : Reads v.text v :=
  ⟨[], _, [], blank_nil, v.spells_pieces 0, blank_nil, by simp [text, written]⟩

/-- The written form of a value stands for it, and for no other. -/
theorem reads_text_iff {v w : Json} : Reads v.text w ↔ w = v :=
  ⟨fun reads => reads.unique v.reads_text, fun same => same ▸ v.reads_text⟩

end Writing

end Wallpaper.Text.Json
