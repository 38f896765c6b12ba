import Mathlib.Data.List.DropRight
import TemplateLint.Json.Printer
import TemplateLint.Json.Reader

/-!
# What texts spell

A text spells something when the reader takes just this text for it and goes on with what stands
behind it. What stands behind a number may not go on with its digits; a comma, a closing bracket and
a blank do not. The reader takes a bounded number of steps, and two for each character are enough:
every value and every entry takes one, and has a character of its own.

Arrays and objects are read in one way, entry by entry, up to different brackets.

## Main definitions

* `Reader.Spells`: the texts that are read as something, in front of other text
* `Reader.Enclosed`: how entries are read up to a closing bracket

## Main statements

* `Reader.spells_quote`, `Reader.spells_int`: strings and integers
* `Reader.Enclosed.entries_intercalate`: entries with a comma and blanks between them
* `Reader.spells_arr`, `Reader.spells_obj`: arrays and objects
-/

namespace TemplateLint.Json.Reader

variable {α : Type} {cs ds ws rest : List Char} {fuel n : Nat}

/-! ### Blanks -/

/-- Blanks are skipped, whatever stands behind them. -/
theorem skipBlanks_append (h : skipBlanks ws = []) (cs : List Char) :
    skipBlanks (ws ++ cs) = skipBlanks cs :=
  List.dropWhile_append_of_pos (List.dropWhile_eq_nil_iff.1 h)

theorem value_congr (h : skipBlanks cs = skipBlanks ds) (fuel : Nat) :
    value fuel cs = value fuel ds := by
  cases fuel with
  | zero => rfl
  | succ fuel => rw [value, value, h]

/-! ### Texts in front of other text -/

/-- Whether no number goes on with a text. -/
def Ends (rest : List Char) : Prop :=
  ∀ c ∈ rest.head?, ¬ c.isDigit ∧ c ≠ '.' ∧ c ≠ 'e' ∧ c ≠ 'E'

theorem ends_nil : Ends [] := fun c hc => absurd hc (by simp)

theorem ends_comma (cs : List Char) : Ends (',' :: cs) := by
  intro c hc
  obtain rfl : ',' = c := Option.some.inj hc
  decide

theorem ends_append (h : skipBlanks ws = []) (hrest : Ends rest) : Ends (ws ++ rest) := by
  cases ws with
  | nil => exact hrest
  | cons c ws =>
      have hblank := List.dropWhile_eq_nil_iff.1 h c List.mem_cons_self
      simp only [Bool.or_eq_true, decide_eq_true_eq] at hblank
      intro d hd
      obtain rfl : c = d := Option.some.inj hd
      rcases hblank with ((rfl | rfl) | rfl) | rfl
      all_goals decide

/-- **Whether a text is read as something**, given two steps for each character and in front of any
text that no number goes on with. -/
def Spells (read : Nat → List Char → Option (α × List Char)) (cs : List Char) (a : α) : Prop :=
  ∀ fuel rest, 2 * cs.length ≤ fuel → Ends rest → read fuel (cs ++ rest) = some (a, rest)

/-- A text that is not empty has at least one step. -/
theorem spells_of_succ {read : Nat → List Char → Option (α × List Char)} {a : α} (hne : cs ≠ [])
    (h : ∀ fuel rest, 2 * cs.length ≤ fuel + 1 → Ends rest →
      read (fuel + 1) (cs ++ rest) = some (a, rest)) :
    Spells read cs a := by
  intro fuel rest hfuel hrest
  have hpos : 0 < cs.length := List.length_pos_iff.2 hne
  obtain ⟨fuel, rfl⟩ : ∃ n, fuel = n + 1 := ⟨fuel - 1, by omega⟩
  exact h fuel rest hfuel hrest

theorem spells_null : Spells value ['n', 'u', 'l', 'l'] .null :=
  spells_of_succ (List.cons_ne_nil _ _) fun _ _ _ _ => rfl

theorem spells_true : Spells value ['t', 'r', 'u', 'e'] (.bool true) :=
  spells_of_succ (List.cons_ne_nil _ _) fun _ _ _ _ => rfl

theorem spells_false : Spells value ['f', 'a', 'l', 's', 'e'] (.bool false) :=
  spells_of_succ (List.cons_ne_nil _ _) fun _ _ _ _ => rfl

/-! ### Strings -/

/-- **How a character stands between quotation marks**: behind a backslash by a letter, or by the
digits of its number, or as it is. -/
theorem escape_cases (c : Char) :
    (∃ e, escape c = ['\\', e] ∧ e ≠ 'u' ∧ plainEscape? e = some c) ∨
      (escape c = ['\\', 'u', '0', '0', hexDigit (c.toNat / 16), hexDigit c.toNat] ∧
        c.toNat < 0x20) ∨
      (escape c = [c] ∧ c ≠ '"' ∧ c ≠ '\\' ∧ ¬ c.toNat < 0x20) := by
  by_cases hletter : c ∈ ['"', '\\', '\n', '\r', '\t', '\x08', '\x0c']
  · left
    simp only [List.mem_cons, List.not_mem_nil, or_false] at hletter
    rcases hletter with rfl | rfl | rfl | rfl | rfl | rfl | rfl
    all_goals exact ⟨_, rfl, by decide, rfl⟩
  · right
    simp only [List.mem_cons, List.not_mem_nil, or_false, not_or] at hletter
    obtain ⟨hquote, hslash, hn, hr, ht, hb, hf⟩ := hletter
    simp only [escape]
    by_cases hlow : c.toNat < 0x20
    · left
      exact ⟨if_pos hlow, hlow⟩
    · right
      exact ⟨if_neg hlow, hquote, hslash, hlow⟩

theorem hexNumber?_digits (h : n < 0x20) :
    hexNumber? ['0', '0', hexDigit (n / 16), hexDigit n] = some n := by
  revert n
  decide

/-- A unit that is no half of a pair spells a character. -/
theorem spell?_unit (h : n < 0xD800) (ps : List Piece) :
    spell? (.unit n :: ps) = (spell? ps).map (Char.ofNat n :: ·) := by
  have hhigh : isHighSurrogate n = false := by simp [isHighSurrogate]; omega
  have hlow : isLowSurrogate n = false := by simp [isLowSurrogate]; omega
  cases ps with
  | nil => simp [spell?, hhigh, hlow]
  | cons p ps =>
      cases p with
      | char c => simp [spell?, hhigh, hlow]
      | unit m => simp [spell?, hhigh, hlow]

/-- **A character between quotation marks** is one piece, and this piece spells it. -/
theorem pieces_escape (c : Char) :
    ∃ p, (∀ rest, pieces (escape c ++ rest) = (pieces rest).map fun r => (p :: r.1, r.2)) ∧
      ∀ ps, spell? (p :: ps) = (spell? ps).map (c :: ·) := by
  rcases escape_cases c with ⟨e, hescape, hu, hletter⟩ | ⟨hescape, hlow⟩ |
    ⟨hescape, hquote, hslash, hlow⟩
  · refine ⟨.char c, fun rest => ?_, fun ps => rfl⟩
    have hdigits : ∀ a b c d : Char, ∀ more : List Char, e = 'u' → rest = a :: b :: c :: d :: more →
        False := fun _ _ _ _ _ he _ => hu he
    rw [hescape, List.cons_append, List.singleton_append, pieces.eq_3 e rest hdigits, hletter]
    exact Option.map_eq_bind.symm
  · refine ⟨.unit c.toNat, fun rest => ?_, fun ps => ?_⟩
    · rw [hescape]
      simp only [List.cons_append, List.nil_append, pieces, hexNumber?_digits hlow]
      exact Option.map_eq_bind.symm
    · rw [spell?_unit (by omega), Char.ofNat_toNat]
  · refine ⟨.char c, fun rest => ?_, fun ps => rfl⟩
    rw [hescape, List.singleton_append, pieces.eq_4 c rest hquote (fun _ _ _ _ _ h _ => hslash h)
      (fun _ _ h _ => hslash h), if_neg hlow]
    exact Option.map_eq_bind.symm

/-- What stands between quotation marks is read up to the closing one. -/
theorem string_flatMap_escape (cs rest : List Char) :
    string (cs.flatMap escape ++ '"' :: rest) = some (some (String.ofList cs), rest) := by
  have hpieces : ∃ ps, pieces (cs.flatMap escape ++ '"' :: rest) = some (ps, rest) ∧
      spell? ps = some cs := by
    induction cs with
    | nil => exact ⟨[], rfl, rfl⟩
    | cons c cs ih =>
        obtain ⟨ps, hps, hspell⟩ := ih
        obtain ⟨p, hp, hpiece⟩ := pieces_escape c
        refine ⟨p :: ps, ?_, ?_⟩
        · rw [List.flatMap_cons, List.append_assoc, hp, hps]
          rfl
        · rw [hpiece, hspell]
          rfl
  obtain ⟨ps, hps, hspell⟩ := hpieces
  unfold string
  rw [hps]
  simp [hspell]

/-- **A string in quotation marks is read as the string.** -/
theorem string_quote (s : String) (rest : List Char) :
    ∃ cs, (quote s).toList ++ rest = '"' :: cs ∧ string cs = some (some s, rest) := by
  refine ⟨s.toList.flatMap escape ++ '"' :: rest, ?_, ?_⟩
  · simp [quote]
  · rw [string_flatMap_escape, String.ofList_toList]

theorem spells_quote (s : String) : Spells value (quote s).toList (.str s) := by
  refine spells_of_succ (by simp [quote]) fun fuel rest _ _ => ?_
  obtain ⟨cs, hcs, hstring⟩ := string_quote s rest
  rw [hcs]
  show ((string cs).bind fun r => some _) = _
  rw [hstring]
  rfl

/-! ### Integers -/

theorem isDigit_of_mem : ∀ c ∈ Nat.toDigits 10 n, c.isDigit :=
  fun _ => Nat.isDigit_of_mem_toDigits (by decide) (Nat.le_refl 10)

theorem decimal_toDigits (n : Nat) : decimal (Nat.toDigits 10 n) = n :=
  Nat.ofDigitChars_toDigits (by decide) (Nat.le_refl 10)

/-- A number has digits, and they do not begin with a zero, unless the number is zero. -/
theorem toDigits_eq_cons (n : Nat) :
    ∃ d ds, Nat.toDigits 10 n = d :: ds ∧ d.isDigit ∧ (n = 0 ∨ d ≠ '0') := by
  induction n using Nat.strongRecOn with
  | ind n ih =>
      by_cases hsmall : n < 10
      · have hdigit : ∀ m < 10, (Nat.digitChar m).isDigit ∧ (m = 0 ∨ Nat.digitChar m ≠ '0') := by
          decide
        exact ⟨n.digitChar, [], Nat.toDigits_of_lt_base hsmall, hdigit n hsmall⟩
      · obtain ⟨d, ds, hds, hdigit, hzero⟩ := ih (n / 10) (by omega)
        refine ⟨d, ds ++ [(n % 10).digitChar], ?_, hdigit, Or.inr (hzero.resolve_left (by omega))⟩
        rw [Nat.toDigits_of_base_le (by decide) (by omega), hds, List.cons_append]

theorem digits_append (hds : ∀ c ∈ ds, c.isDigit) (hrest : Ends rest) :
    digits (ds ++ rest) = (ds, rest) := by
  have hstop : rest.takeWhile Char.isDigit = [] ∧ rest.dropWhile Char.isDigit = rest := by
    cases rest with
    | nil => exact ⟨rfl, rfl⟩
    | cons c rest =>
        have hc := (hrest c rfl).1
        exact ⟨List.takeWhile_cons_of_neg hc, List.dropWhile_cons_of_neg hc⟩
  unfold digits
  rw [List.takeWhile_append_of_pos hds, List.dropWhile_append_of_pos hds, hstop.1, hstop.2,
    List.append_nil]

theorem wholePart_toDigits (n : Nat) (hrest : Ends rest) :
    wholePart (Nat.toDigits 10 n ++ rest) = some (Nat.toDigits 10 n, rest) := by
  have hdigits := digits_append (isDigit_of_mem (n := n)) hrest
  obtain ⟨d, ds, hds, -, hzero⟩ := toDigits_eq_cons n
  rcases hzero with rfl | hzero
  · rfl
  · rw [hds, List.cons_append] at hdigits ⊢
    rw [wholePart, hdigits]
    intro _ h
    exact hzero (List.cons.inj h).1

theorem fraction_of_ends (h : Ends rest) : fraction rest = some (none, rest) := by
  unfold fraction
  split
  · exact absurd rfl (h _ rfl).2.1
  · rfl

theorem power_of_ends (h : Ends rest) : power rest = some (none, rest) := by
  unfold power
  cases rest with
  | nil => rfl
  | cons c rest =>
      obtain ⟨-, -, hsmall, hlarge⟩ := h c rfl
      simp [hsmall, hlarge]

/-- The digits of a number are read as a number without a sign. -/
theorem number_toDigits (n : Nat) (hrest : Ends rest) :
    number (Nat.toDigits 10 n ++ rest) =
      some (numberValue false (Nat.toDigits 10 n) none none, rest) := by
  have hwhole := wholePart_toDigits n hrest
  obtain ⟨d, ds, hds, hdigit, -⟩ := toDigits_eq_cons n
  have hminus : d ≠ '-' := by
    rintro rfl
    exact absurd hdigit (by decide)
  rw [hds, List.cons_append] at hwhole ⊢
  unfold number
  simp [hminus, hwhole, fraction_of_ends hrest, power_of_ends hrest]

theorem number_minus (n : Nat) (hrest : Ends rest) :
    number ('-' :: (Nat.toDigits 10 n ++ rest)) =
      some (numberValue true (Nat.toDigits 10 n) none none, rest) := by
  unfold number
  simp [wholePart_toDigits n hrest, fraction_of_ends hrest, power_of_ends hrest]

/-- A value that begins like a number is one. -/
theorem value_eq_number {c : Char} (h : c.isDigit ∨ c = '-') (fuel : Nat) (cs : List Char) :
    value (fuel + 1) (c :: cs) = number (c :: cs) := by
  have hne : ∀ d : Char, ¬ d.isDigit → d ≠ '-' → c ≠ d := by
    rintro d hdigit hminus rfl
    exact h.elim hdigit hminus
  have hskip : skipBlanks (c :: cs) = c :: cs := by
    refine List.dropWhile_cons_of_neg ?_
    simp only [Bool.or_eq_true, decide_eq_true_eq, not_or]
    exact ⟨⟨⟨hne _ (by decide) (by decide), hne _ (by decide) (by decide)⟩,
      hne _ (by decide) (by decide)⟩, hne _ (by decide) (by decide)⟩
  rw [value, hskip]
  split
  all_goals simp_all

/-- **The text of an integer is read as the integer**, if it is one that is kept as an integer. -/
theorem spells_int {n : Int} (hlow : integerRange.1 ≤ n) (hhigh : n ≤ integerRange.2) :
    Spells value (toString n).toList (.int n) := by
  cases n with
  | ofNat m =>
      have htext : (toString (Int.ofNat m)).toList = Nat.toDigits 10 m := Nat.toList_repr
      have hvalue : numberValue false (Nat.toDigits 10 m) none none = .int (Int.ofNat m) := by
        unfold numberValue
        simp only [decimal_toDigits]
        exact if_pos ⟨hlow, hhigh, fun h => Bool.false_ne_true h.1⟩
      obtain ⟨d, ds, hds, hdigit, -⟩ := toDigits_eq_cons m
      rw [htext]
      refine spells_of_succ Nat.toDigits_ne_nil fun fuel rest _ hrest => ?_
      have hnumber := number_toDigits m hrest
      rw [hds, List.cons_append] at hnumber ⊢
      rw [value_eq_number (Or.inl hdigit), hnumber, ← hds, hvalue]
  | negSucc m =>
      have htext : (toString (Int.negSucc m)).toList = '-' :: Nat.toDigits 10 (m + 1) := by
        show ("-" ++ Nat.repr (m + 1)).toList = _
        rw [String.toList_append, Nat.toList_repr]
        rfl
      have hvalue : numberValue true (Nat.toDigits 10 (m + 1)) none none =
          .int (Int.negSucc m) := by
        unfold numberValue
        simp only [decimal_toDigits]
        exact if_pos ⟨hlow, hhigh, fun h => Int.negSucc_ne_zero m h.2⟩
      rw [htext]
      refine spells_of_succ (List.cons_ne_nil _ _) fun fuel rest _ hrest => ?_
      rw [List.cons_append, value_eq_number (Or.inr rfl), number_minus (m + 1) hrest, hvalue]

/-! ### Entries between brackets -/

/-- One member of an object: a name in quotation marks, a colon and a value. -/
def member (fuel : Nat) (cs : List Char) : Option ((Option String × Document) × List Char) :=
  match skipBlanks cs with
  | '"' :: rest => do
    let (name, rest) ← string rest
    match skipBlanks rest with
    | ':' :: rest => do
      let (d, rest) ← value fuel rest
      return ((name, d), rest)
    | _ => none
  | _ => none

/-- When a member is read: its name stands between quotation marks, and its value behind a colon. -/
theorem member_eq_some_iff {m : Option String × Document} :
    member fuel cs = some (m, rest) ↔ ∃ quoted after written, skipBlanks cs = '"' :: quoted ∧
      string quoted = some (m.1, after) ∧ skipBlanks after = ':' :: written ∧
      value fuel written = some (m.2, rest) := by
  constructor
  · intro h
    unfold member at h
    split at h
    · rename_i quoted hquoted
      obtain ⟨⟨name, after⟩, hname, h⟩ := Option.bind_eq_some_iff.1 h
      dsimp only at h
      split at h
      · rename_i written hwritten
        obtain ⟨⟨d, more⟩, hvalue, h⟩ := Option.bind_eq_some_iff.1 h
        obtain ⟨rfl, rfl⟩ := Prod.mk.inj (Option.some.inj h)
        exact ⟨quoted, after, written, hquoted, hname, hwritten, hvalue⟩
      · cases h
    · cases h
  · rintro ⟨quoted, after, written, hquoted, hname, hwritten, hvalue⟩
    simp [member, hquoted, hname, hwritten, hvalue]

/-- How entries are read up to a closing bracket: blanks in front of an entry are skipped, behind
it a comma goes on with the next one, and the bracket ends them. -/
structure Enclosed (entry : Nat → List Char → Option (α × List Char))
    (entries : Nat → List Char → Option (List α × List Char)) (closing : Char) : Prop where
  closing_eq : closing = ']' ∨ closing = '\x7d'
  blank : ∀ fuel ws cs, skipBlanks ws = [] → entry fuel (ws ++ cs) = entry fuel cs
  next : ∀ fuel cs a rest more, entry fuel cs = some (a, rest) → skipBlanks rest = ',' :: more →
    entries (fuel + 1) cs = (entries fuel more).map fun r => (a :: r.1, r.2)
  last : ∀ fuel cs a rest after, entry fuel cs = some (a, rest) →
    skipBlanks rest = closing :: after → entries (fuel + 1) cs = some ([a], after)

theorem enclosed_items : Enclosed value items ']' where
  closing_eq := Or.inl rfl
  blank fuel ws cs h := value_congr (skipBlanks_append h cs) fuel
  next fuel cs d rest more h hrest := by
    rw [items, h]
    simp only [Option.bind_eq_bind, Option.bind_some, hrest]
    exact Option.map_eq_bind.symm
  last fuel cs d rest after h hrest := by
    rw [items, h]
    simp only [Option.bind_eq_bind, Option.bind_some, hrest]

theorem enclosed_members : Enclosed member members '\x7d' where
  closing_eq := Or.inr rfl
  blank fuel ws cs h := by
    unfold member
    rw [skipBlanks_append h]
  next fuel cs m rest more h hrest := by
    obtain ⟨quoted, after, written, hquoted, hname, hwritten, hvalue⟩ := member_eq_some_iff.1 h
    rw [members, hquoted]
    simp only [Option.bind_eq_bind, Option.bind_some, hname, hwritten, hvalue, hrest]
    exact Option.map_eq_bind.symm
  last fuel cs m rest after h hrest := by
    obtain ⟨quoted, after, written, hquoted, hname, hwritten, hvalue⟩ := member_eq_some_iff.1 h
    rw [members, hquoted]
    simp only [Option.bind_eq_bind, Option.bind_some, hname, hwritten, hvalue, hrest]

section

variable {entry : Nat → List Char → Option (α × List Char)}
  {entries : Nat → List Char → Option (List α × List Char)} {closing : Char} {ws' : List Char}

/-- Blanks and a closing bracket do not go on with a number, and the bracket is found behind the
blanks. -/
theorem Enclosed.of_blanks (h : Enclosed entry entries closing) (hws : skipBlanks ws = [])
    (rest : List Char) :
    Ends (ws ++ closing :: rest) ∧ skipBlanks (ws ++ closing :: rest) = closing :: rest := by
  have hends : ∀ c ∈ (closing :: rest).head?, c = closing := fun c hc => (Option.some.inj hc).symm
  rw [skipBlanks_append hws]
  rcases h.closing_eq with rfl | rfl
  · refine ⟨ends_append hws fun c hc => ?_, rfl⟩
    obtain rfl := hends c hc
    decide
  · refine ⟨ends_append hws fun c hc => ?_, rfl⟩
    obtain rfl := hends c hc
    decide

/-- An entry is read behind blanks and in front of what no number goes on with. -/
theorem Enclosed.entry_append (h : Enclosed entry entries closing) (hws : skipBlanks ws = [])
    {text : List Char} {a : α} (htext : Spells entry text a) (hfuel : 2 * text.length ≤ fuel)
    (hrest : Ends rest) : entry fuel (ws ++ (text ++ rest)) = some (a, rest) := by
  rw [h.blank fuel _ _ hws]
  exact htext fuel rest hfuel hrest

/-- **Entries with a comma and blanks between them are read one by one**, by induction on the
entries. Blanks may stand in front of them and behind them, too. -/
theorem Enclosed.entries_intercalate (h : Enclosed entry entries closing)
    (hws : skipBlanks ws = []) (hws' : skipBlanks ws' = []) {texts : List (List Char)}
    {as : List α} (hspells : List.Forall₂ (Spells entry) texts as) (hne : as ≠ []) (fuel : Nat)
    (rest : List Char)
    (hfuel : 2 * (ws ++ (',' :: ws).intercalate texts ++ ws').length + 1 ≤ fuel) :
    entries fuel (ws ++ (',' :: ws).intercalate texts ++ ws' ++ closing :: rest) =
      some (as, rest) := by
  induction hspells generalizing fuel with
  | nil => exact absurd rfl hne
  | @cons text a texts as htext hmore ih =>
      obtain ⟨fuel, rfl⟩ : ∃ n, fuel = n + 1 := ⟨fuel - 1, by omega⟩
      cases hmore with
      | nil =>
          obtain ⟨hends, hclosing⟩ := h.of_blanks hws' rest
          simp only [List.intercalate_singleton, List.length_append, List.append_assoc] at hfuel ⊢
          exact h.last fuel _ a _ rest (h.entry_append hws htext (by omega) hends) hclosing
      | @cons next b texts bs hnext hmore =>
          rw [List.intercalate_cons_cons] at hfuel ⊢
          -- Behind the comma stands what the induction is about.
          generalize hrest : ws ++ (',' :: ws).intercalate (next :: texts) ++ ws' = more at ih
          have htexts :
              ws ++ (text ++ ',' :: ws ++ (',' :: ws).intercalate (next :: texts)) ++ ws' =
                ws ++ (text ++ ',' :: more) := by
            rw [← hrest]
            simp only [List.append_assoc, List.cons_append]
          rw [htexts] at hfuel ⊢
          simp only [List.length_append, List.length_cons, List.append_assoc,
            List.cons_append] at hfuel ⊢
          have hentry : entry fuel (ws ++ (text ++ ',' :: (more ++ closing :: rest))) =
              some (a, ',' :: (more ++ closing :: rest)) :=
            h.entry_append hws htext (by omega) (ends_comma _)
          rw [h.next fuel _ a _ _ hentry rfl, ih (List.cons_ne_nil _ _) fuel (by omega)]
          rfl

end

/-! ### Arrays and objects -/

/-- No value begins with the bracket that closes an array. -/
theorem items_of_closing {after : List Char} (h : skipBlanks cs = ']' :: after) :
    items fuel cs = none := by
  cases fuel with
  | zero => rfl
  | succ fuel =>
      cases fuel with
      | zero => rfl
      | succ fuel =>
          rw [items, value, h]
          rfl

/-- No member begins with the bracket that closes an object. -/
theorem members_of_closing {after : List Char} (h : skipBlanks cs = '\x7d' :: after) :
    members fuel cs = none := by
  cases fuel with
  | zero => rfl
  | succ fuel =>
      rw [members, h]
      rfl

theorem value_of_items {ds : List Document} (h : items fuel cs = some (ds, rest)) :
    value (fuel + 1) ('[' :: cs) = some (.arr ds, rest) := by
  have hskip : skipBlanks ('[' :: cs) = '[' :: cs := rfl
  simp only [value, hskip, h]
  split
  · rename_i after hafter
    rw [items_of_closing hafter] at h
    cases h
  · rfl

theorem value_of_members {ms : List (Option String × Document)}
    (h : members fuel cs = some (ms, rest)) :
    value (fuel + 1) ('\x7b' :: cs) = some (.obj ms, rest) := by
  have hskip : skipBlanks ('\x7b' :: cs) = '\x7b' :: cs := rfl
  simp only [value, hskip, h]
  split
  · rename_i after hafter
    rw [members_of_closing hafter] at h
    cases h
  · rfl

theorem spells_arr_nil : Spells value ['[', ']'] (.arr []) :=
  spells_of_succ (List.cons_ne_nil _ _) fun _ _ _ _ => rfl

theorem spells_obj_nil : Spells value ['\x7b', '\x7d'] (.obj []) :=
  spells_of_succ (List.cons_ne_nil _ _) fun _ _ _ _ => rfl

section

variable {ws' : List Char} {texts : List (List Char)}

/-- **Values with a comma and blanks between them are an array.** -/
theorem spells_arr (hws : skipBlanks ws = []) (hws' : skipBlanks ws' = []) {ds : List Document}
    (h : List.Forall₂ (Spells value) texts ds) (hne : ds ≠ []) :
    Spells value ('[' :: (ws ++ (',' :: ws).intercalate texts ++ ws' ++ [']'])) (.arr ds) := by
  refine spells_of_succ (List.cons_ne_nil _ _) fun fuel rest hfuel _ => ?_
  simp only [List.length_cons, List.length_append] at hfuel
  rw [List.cons_append, List.append_assoc, List.singleton_append]
  refine value_of_items (enclosed_items.entries_intercalate hws hws' h hne fuel rest ?_)
  simp only [List.length_append]
  omega

/-- A name in quotation marks, a colon and a value are a member. -/
theorem spells_member (hws : skipBlanks ws = []) (name : String) {text : List Char} {d : Document}
    (h : Spells value text d) :
    Spells member ((quote name).toList ++ ':' :: (ws ++ text)) (some name, d) := by
  intro fuel rest hfuel hrest
  simp only [List.length_cons, List.length_append] at hfuel
  obtain ⟨quoted, hquoted, hname⟩ := string_quote name (':' :: (ws ++ (text ++ rest)))
  refine member_eq_some_iff.2 ⟨quoted, _, ws ++ (text ++ rest), ?_, hname, rfl, ?_⟩
  · rw [List.append_assoc, List.cons_append, List.append_assoc, hquoted]
    rfl
  · rw [value_congr (skipBlanks_append hws _)]
    exact h fuel rest (by omega) hrest

/-- **Members with a comma and blanks between them are an object.** -/
theorem spells_obj (hws : skipBlanks ws = []) (hws' : skipBlanks ws' = [])
    {ms : List (Option String × Document)} (h : List.Forall₂ (Spells member) texts ms)
    (hne : ms ≠ []) :
    Spells value ('\x7b' :: (ws ++ (',' :: ws).intercalate texts ++ ws' ++ ['\x7d']))
      (.obj ms) := by
  refine spells_of_succ (List.cons_ne_nil _ _) fun fuel rest hfuel _ => ?_
  simp only [List.length_cons, List.length_append] at hfuel
  rw [List.cons_append, List.append_assoc, List.singleton_append]
  refine value_of_members (enclosed_members.entries_intercalate hws hws' h hne fuel rest ?_)
  simp only [List.length_append]
  omega

end

end TemplateLint.Json.Reader
