import RuleArena.Foundation.JsonText

/-!
# The text of JSON values in ASCII

By default `json.dumps` writes a character that is not a printable one of ASCII
as the escapes of its UTF-16 code units. Such a character stands in a string
only, so that the text is the one of `Json.render` with its characters escaped.
A string is still told by its text (`Json.asciiChars_append_inj`).
-/

namespace RuleArena

namespace Json

/-- The escape of a UTF-16 code unit. -/
def escapeUnit (unit : Nat) : List Char :=
  ['\\', 'u', Nat.digitChar (unit / 4096), Nat.digitChar (unit / 256 % 16),
    Nat.digitChar (unit / 16 % 16), Nat.digitChar (unit % 16)]

/-- A character of a text in ASCII. Characters beyond the first plane have two code units. -/
def asciiChar (c : Char) : List Char :=
  if c.toNat < 127 then [c]
  else if c.toNat < 0x10000 then escapeUnit c.toNat
  else escapeUnit (0xd800 + (c.toNat - 0x10000) / 1024) ++
    escapeUnit (0xdc00 + (c.toNat - 0x10000) % 1024)

/-- The text of `json.dumps` with `ensure_ascii`, made of the one without. -/
def asciiText (text : String) : String := String.ofList (text.toList.flatMap asciiChar)

/-! ## Strings -/

/-- A character as it stands in a string of a text in ASCII. -/
def asciiEscape (c : Char) : List Char := (escapeChar c).flatMap asciiChar

theorem digitChar_inj {m n : Nat} (hm : m < 16) (hn : n < 16)
    (h : Nat.digitChar m = Nat.digitChar n) : m = n := by
  have inj : ∀ m < 16, ∀ n < 16, Nat.digitChar m = Nat.digitChar n → m = n := by decide
  exact inj m hm n hn h

/-- The escape of a unit has always the same length. -/
theorem escapeUnit_append_inj {m n : Nat} (hm : m < 65536) (hn : n < 65536) {x y : List Char}
    (h : escapeUnit m ++ x = escapeUnit n ++ y) : m = n ∧ x = y := by
  simp only [escapeUnit, List.cons_append, List.nil_append, List.cons.injEq, true_and] at h
  obtain ⟨h₁, h₂, h₃, h₄, rest⟩ := h
  have := digitChar_inj (by omega) (by omega) h₁
  have := digitChar_inj (by omega) (by omega) h₂
  have := digitChar_inj (by omega) (by omega) h₃
  have := digitChar_inj (by omega) (by omega) h₄
  exact ⟨by omega, rest⟩

/-- A character of a string in ASCII is a letter behind a backslash, itself, the escape of its
    code, or the escapes of two surrogates. -/
theorem asciiEscape_cases (a : Char) :
    (∃ c, shortEscape a = some c ∧ asciiEscape a = ['\\', c]) ∨
    (a ≠ '\\' ∧ a ≠ '"' ∧ asciiEscape a = [a]) ∨
    ((a.toNat < 0xd800 ∨ 0xdfff < a.toNat) ∧ a.toNat < 0x10000 ∧
      asciiEscape a = escapeUnit a.toNat) ∨
    (0x10000 ≤ a.toNat ∧ a.toNat < 0x110000 ∧
      asciiEscape a = escapeUnit (0xd800 + (a.toNat - 0x10000) / 1024) ++
        escapeUnit (0xdc00 + (a.toNat - 0x10000) % 1024)) := by
  have valid : a.toNat < 0xd800 ∨ 0xdfff < a.toNat ∧ a.toNat < 0x110000 := a.valid
  unfold asciiEscape
  rcases escapeChar_cases a with ⟨c, short, e⟩ | ⟨control, e⟩ | ⟨slash, quote, e⟩
  · refine .inl ⟨c, short, ?_⟩
    rw [e]
    unfold shortEscape at short
    split_ifs at short <;> cases short <;> rfl
  · refine .inr (.inr (.inl ⟨.inl (by omega), by omega, ?_⟩))
    have codes : ∀ n < 32, ['\\', 'u', '0', '0', Nat.digitChar (n / 16),
        Nat.digitChar (n % 16)].flatMap asciiChar = escapeUnit n := by decide
    rw [e, codes _ control]
  · rw [e, List.flatMap_singleton, asciiChar]
    split_ifs with ascii plane
    · exact .inr (.inl ⟨slash, quote, rfl⟩)
    · exact .inr (.inr (.inl ⟨by omega, plane, rfl⟩))
    · exact .inr (.inr (.inr ⟨by omega, by omega, rfl⟩))

/-- The text of a character does not begin with a quote: a string goes on. -/
theorem asciiEscape_ne_quote {a : Char} {x y : List Char} : asciiEscape a ++ x ≠ '"' :: y := by
  rcases asciiEscape_cases a with ⟨c, -, e⟩ | ⟨-, h, e⟩ | ⟨-, -, e⟩ | ⟨-, -, e⟩ <;>
    simp [e, escapeUnit]
  exact fun ha => absurd ha h

/-- A letter behind a backslash is no escape of a unit. -/
theorem letter_ne_escapeUnit {a c : Char} {x y : List Char} {n : Nat}
    (short : shortEscape a = some c) : '\\' :: c :: x ≠ escapeUnit n ++ y := by
  intro h
  simp only [escapeUnit, List.cons_append, List.cons.injEq, true_and] at h
  exact shortEscape_ne_u short h.1

/-- A character as it is is no escape of a unit. -/
theorem char_ne_escapeUnit {a : Char} {x y : List Char} {n : Nat} (slash : a ≠ '\\') :
    a :: x ≠ escapeUnit n ++ y := by
  intro h
  simp only [escapeUnit, List.cons_append, List.cons.injEq] at h
  exact slash h.1

/-- No text of a character is the beginning of another one. -/
theorem asciiEscape_append_inj {a b : Char} {x y : List Char}
    (h : asciiEscape a ++ x = asciiEscape b ++ y) : a = b ∧ x = y := by
  rcases asciiEscape_cases a with ⟨c, ha, ea⟩ | ⟨ha, -, ea⟩ | ⟨ha, small, ea⟩ | ⟨ha, large, ea⟩ <;>
    rcases asciiEscape_cases b with
      ⟨d, hb, eb⟩ | ⟨hb, -, eb⟩ | ⟨hb, small', eb⟩ | ⟨hb, large', eb⟩ <;>
    rw [ea, eb] at h
  · simp only [List.cons_append, List.nil_append, List.cons.injEq, true_and] at h
    exact ⟨shortEscape_inj ha (h.1 ▸ hb), h.2⟩
  · exact absurd (List.cons.inj h).1.symm hb
  · exact absurd h (letter_ne_escapeUnit ha)
  · exact absurd (List.append_assoc _ _ _ ▸ h) (letter_ne_escapeUnit ha)
  · exact absurd (List.cons.inj h).1 ha
  · exact List.cons.inj h
  · exact absurd h (char_ne_escapeUnit ha)
  · exact absurd (List.append_assoc _ _ _ ▸ h) (char_ne_escapeUnit ha)
  · exact absurd h.symm (letter_ne_escapeUnit hb)
  · exact absurd h.symm (char_ne_escapeUnit hb)
  · obtain ⟨code, rest⟩ := escapeUnit_append_inj (by omega) (by omega) h
    exact ⟨Char.toNat_inj.1 code, rest⟩
  -- The code of a character is no surrogate.
  · rw [List.append_assoc] at h
    have := (escapeUnit_append_inj (by omega) (by omega) h).1
    omega
  · exact absurd (List.append_assoc _ _ _ ▸ h.symm) (letter_ne_escapeUnit hb)
  · exact absurd (List.append_assoc _ _ _ ▸ h.symm) (char_ne_escapeUnit hb)
  · rw [List.append_assoc] at h
    have := (escapeUnit_append_inj (by omega) (by omega) h).1
    omega
  · rw [List.append_assoc, List.append_assoc] at h
    obtain ⟨first, h⟩ := escapeUnit_append_inj (by omega) (by omega) h
    obtain ⟨second, rest⟩ := escapeUnit_append_inj (by omega) (by omega) h
    exact ⟨Char.toNat_inj.1 (by omega), rest⟩

/-- The text of a string tells the string, whatever follows. -/
theorem asciiChars_append_inj : ∀ {s t x y : List Char},
    (renderChars s ++ x).flatMap asciiChar = (renderChars t ++ y).flatMap asciiChar →
      s = t ∧ x.flatMap asciiChar = y.flatMap asciiChar
  | [], [], _, _, h => by
    simp only [renderChars, List.cons_append, List.flatMap_cons, List.nil_append] at h
    exact ⟨rfl, List.append_cancel_left h⟩
  | [], _ :: _, _, _, h => by
    simp only [renderChars, List.append_assoc, List.flatMap_append] at h
    exact absurd h.symm asciiEscape_ne_quote
  | _ :: _, [], _, _, h => by
    simp only [renderChars, List.append_assoc, List.flatMap_append] at h
    exact absurd h asciiEscape_ne_quote
  | a :: s, b :: t, x, y, h => by
    have h : asciiEscape a ++ (renderChars s ++ x).flatMap asciiChar =
        asciiEscape b ++ (renderChars t ++ y).flatMap asciiChar := by
      simpa only [asciiEscape, renderChars, List.append_assoc, List.flatMap_append] using h
    obtain ⟨e, h⟩ := asciiEscape_append_inj h
    obtain ⟨e', rest⟩ := asciiChars_append_inj h
    exact ⟨by rw [e, e'], rest⟩

/-- The text of a pair of strings tells the strings. -/
theorem asciiText_pair_inj {a b a' b' : String}
    (h : asciiText (String.ofList (arr [str a, str b]).render) =
      asciiText (String.ofList (arr [str a', str b']).render)) : a = a' ∧ b = b' := by
  simp only [asciiText, String.toList_ofList, render, renderArr, renderItems,
    List.cons_append] at h
  have h := String.ofList_injective h
  rw [List.flatMap_cons, List.flatMap_cons, List.flatMap_cons, List.flatMap_cons,
    List.append_cancel_left_eq, List.append_cancel_left_eq] at h
  obtain ⟨first, h⟩ := asciiChars_append_inj h
  rw [List.flatMap_cons, List.flatMap_cons, List.flatMap_cons, List.flatMap_cons,
    List.append_cancel_left_eq, List.append_cancel_left_eq] at h
  obtain ⟨second, -⟩ := asciiChars_append_inj h
  exact ⟨String.toList_inj.1 first, String.toList_inj.1 second⟩

/-- The texts of strings tell the strings. -/
theorem asciiItems_inj {as bs : List String}
    (h : (renderItems (as.map str)).flatMap asciiChar =
      (renderItems (bs.map str)).flatMap asciiChar) : as = bs := by
  induction as generalizing bs with
  | nil =>
    cases bs with
    | nil => rfl
    | cons b bs => cases h
  | cons a as ih =>
    cases bs with
    | nil => cases h
    | cons b bs =>
      simp only [List.map_cons, renderItems, render, List.cons_append] at h
      rw [List.flatMap_cons, List.flatMap_cons, List.flatMap_cons, List.flatMap_cons,
        List.append_cancel_left_eq, List.append_cancel_left_eq] at h
      obtain ⟨first, rest⟩ := asciiChars_append_inj h
      rw [String.toList_inj.1 first, ih rest]

theorem sortItems_strings (texts : List String) : sortItems (texts.map str) = texts.map str := by
  induction texts with
  | nil => rfl
  | cons text texts ih =>
    rw [List.map_cons, sortItems, ih]
    rfl

/-- The text of an array of strings tells the strings. -/
theorem asciiText_strings_inj {as bs : List String}
    (h : asciiText (arr (as.map str)).canonical = asciiText (arr (bs.map str)).canonical) :
    as = bs := by
  simp only [canonical, sortKeys, sortItems_strings, asciiText, String.toList_ofList, render] at h
  have h := String.ofList_injective h
  rw [List.flatMap_cons, List.flatMap_cons, List.append_cancel_left_eq] at h
  cases as with
  | nil =>
    cases bs with
    | nil => rfl
    | cons b bs => cases h
  | cons a as =>
    cases bs with
    | nil => cases h
    | cons b bs =>
      simp only [List.map_cons, renderArr, render, List.cons_append] at h
      rw [List.flatMap_cons, List.flatMap_cons, List.append_cancel_left_eq] at h
      obtain ⟨first, rest⟩ := asciiChars_append_inj h
      rw [String.toList_inj.1 first, asciiItems_inj rest]

end Json

end RuleArena
