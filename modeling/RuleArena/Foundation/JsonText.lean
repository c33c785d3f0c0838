import RuleArena.Foundation.Json

/-!
# The text of JSON values

`Json.render` is the compact text `json.dumps` gives a value with
`separators=(",", ":")` and `ensure_ascii=False`, and `Json.canonical` the text
of the value with the members of its objects sorted by name (`sort_keys`).

The text of a value without floating-point numbers determines it
(`Json.render_inj`): every text but a number's ends where it says it does, and
a number ends at the first character that is not one of a number's. The proof
carries the rest of the text along, which has to stop a number (`Stops`).
-/

namespace RuleArena

namespace Json

/-! ## Rendering -/

/-- The letter of the two-character escape of a character, if it has one. -/
def shortEscape (c : Char) : Option Char :=
  if c = '"' then some '"'
  else if c = '\\' then some '\\'
  else if c = '\n' then some 'n'
  else if c = '\r' then some 'r'
  else if c = '\t' then some 't'
  else if c = Char.ofNat 12 then some 'f'
  else if c = Char.ofNat 8 then some 'b'
  else none

/-- A character as it stands in a string: escaped if it is a quote, a backslash
    or a control character, itself otherwise. -/
def escapeChar (c : Char) : List Char :=
  match shortEscape c with
  | some letter => ['\\', letter]
  | none =>
    if c.toNat < 32 then
      ['\\', 'u', '0', '0', Nat.digitChar (c.toNat / 16), Nat.digitChar (c.toNat % 16)]
    else [c]

/-- The rest of a string, after its opening quote. -/
def renderChars : List Char → List Char
  | [] => ['"']
  | c :: cs => escapeChar c ++ renderChars cs

/-- The text of a floating-point number. -/
def renderFloat : PyFloat → List Char
  | .finite _ _ text => text.toList
  | .inf false => ['I', 'n', 'f', 'i', 'n', 'i', 't', 'y']
  | .inf true => ['-', 'I', 'n', 'f', 'i', 'n', 'i', 't', 'y']
  | .nan => ['N', 'a', 'N']

mutual

/-- The compact text of a value. -/
def render : Json → List Char
  | null => ['n', 'u', 'l', 'l']
  | bool true => ['t', 'r', 'u', 'e']
  | bool false => ['f', 'a', 'l', 's', 'e']
  | int i => (toString i).toList
  | float x => renderFloat x
  | str s => '"' :: renderChars s.toList
  | arr items => '[' :: renderArr items
  | obj members => Char.ofNat 123 :: renderObj members

/-- The rest of an array, after its opening bracket. -/
def renderArr : List Json → List Char
  | [] => [']']
  | a :: as => render a ++ renderItems as

/-- The rest of an object, after its opening brace. -/
def renderObj : List (String × Json) → List Char
  | [] => [Char.ofNat 125]
  | (k, a) :: as => '"' :: (renderChars k.toList ++ ':' :: (render a ++ renderMembers as))

/-- The rest of an array, after one of its items. -/
def renderItems : List Json → List Char
  | [] => [']']
  | a :: as => ',' :: (render a ++ renderItems as)

/-- The rest of an object, after one of its members. -/
def renderMembers : List (String × Json) → List Char
  | [] => [Char.ofNat 125]
  | (k, a) :: as => ',' :: '"' :: (renderChars k.toList ++ ':' :: (render a ++ renderMembers as))

end

mutual

/-- The value with the members of its objects sorted by name. -/
def sortKeys : Json → Json
  | arr items => arr (sortItems items)
  | obj members => obj ((sortMembers members).insertionSort fun a b => a.1 ≤ b.1)
  | j => j

def sortItems : List Json → List Json
  | [] => []
  | a :: as => sortKeys a :: sortItems as

def sortMembers : List (String × Json) → List (String × Json)
  | [] => []
  | (k, a) :: as => (k, sortKeys a) :: sortMembers as

end

/-- The text of `json.dumps` with `sort_keys=True`. -/
def canonical (j : Json) : String := String.ofList j.sortKeys.render

mutual

/-- No floating-point number occurs in the value. -/
def Plain : Json → Prop
  | float _ => False
  | arr items => PlainItems items
  | obj members => PlainMembers members
  | _ => True

def PlainItems : List Json → Prop
  | [] => True
  | a :: as => Plain a ∧ PlainItems as

def PlainMembers : List (String × Json) → Prop
  | [] => True
  | (_, a) :: as => Plain a ∧ PlainMembers as

end

/-! ## Strings -/

theorem shortEscape_inj {a b c : Char} (ha : shortEscape a = some c) (hb : shortEscape b = some c) :
    a = b := by
  unfold shortEscape at ha hb
  split_ifs at ha hb <;> cases ha <;> first | (subst_vars; rfl) | simp at hb

theorem shortEscape_ne_u {a c : Char} (ha : shortEscape a = some c) : c ≠ 'u' := by
  unfold shortEscape at ha
  split_ifs at ha <;> cases ha <;> decide

theorem eq_of_hex {a b : Char} (ha : a.toNat < 32) (hb : b.toNat < 32)
    (h₁ : Nat.digitChar (a.toNat / 16) = Nat.digitChar (b.toNat / 16))
    (h₂ : Nat.digitChar (a.toNat % 16) = Nat.digitChar (b.toNat % 16)) : a = b := by
  have inj : ∀ m < 16, ∀ n < 16, Nat.digitChar m = Nat.digitChar n → m = n := by decide
  have := inj _ (by omega) _ (by omega) h₁
  have := inj _ (by omega) _ (by omega) h₂
  exact Char.toNat_inj.1 (by omega)

/-- A character is escaped by a letter, by its code, or not at all. -/
theorem escapeChar_cases (a : Char) :
    (∃ c, shortEscape a = some c ∧ escapeChar a = ['\\', c]) ∨
    (a.toNat < 32 ∧ escapeChar a =
      ['\\', 'u', '0', '0', Nat.digitChar (a.toNat / 16), Nat.digitChar (a.toNat % 16)]) ∨
    (a ≠ '\\' ∧ a ≠ '"' ∧ escapeChar a = [a]) := by
  unfold escapeChar
  cases ha : shortEscape a with
  | some c => exact .inl ⟨c, rfl, rfl⟩
  | none =>
    by_cases h : a.toNat < 32
    · exact .inr (.inl ⟨h, by simp [h]⟩)
    · refine .inr (.inr ⟨?_, ?_, by simp [h]⟩) <;> rintro rfl <;> cases ha

/-- No escape is the beginning of another one. -/
theorem escapeChar_append_inj {a b : Char} {x y : List Char}
    (h : escapeChar a ++ x = escapeChar b ++ y) : a = b ∧ x = y := by
  rcases escapeChar_cases a with ⟨c, ha, ea⟩ | ⟨ha, ea⟩ | ⟨ha, -, ea⟩ <;>
    rcases escapeChar_cases b with ⟨d, hb, eb⟩ | ⟨hb, eb⟩ | ⟨hb, -, eb⟩ <;>
    simp only [ea, eb, List.cons_append, List.nil_append, List.cons.injEq, true_and] at h
  · exact ⟨shortEscape_inj ha (h.1 ▸ hb), h.2⟩
  · exact absurd h.1 (shortEscape_ne_u ha)
  · exact absurd h.1.symm hb
  · exact absurd h.1.symm (shortEscape_ne_u hb)
  · exact ⟨eq_of_hex ha hb h.1 h.2.1, h.2.2⟩
  · exact absurd h.1.symm hb
  · exact absurd h.1 ha
  · exact absurd h.1 ha
  · exact h

/-- The text of a character does not begin with a quote: a string goes on. -/
theorem escapeChar_ne_quote {a : Char} {x y : List Char} : escapeChar a ++ x ≠ '"' :: y := by
  rcases escapeChar_cases a with ⟨c, -, e⟩ | ⟨-, e⟩ | ⟨-, h, e⟩ <;> simp [e]
  exact fun ha => absurd ha h

theorem renderChars_append_inj : ∀ {s t x y : List Char},
    renderChars s ++ x = renderChars t ++ y → s = t ∧ x = y
  | [], [], _, _, h => by simpa [renderChars] using h
  | [], _ :: _, _, _, h => by
    simp only [renderChars, List.append_assoc] at h
    exact absurd h.symm escapeChar_ne_quote
  | _ :: _, [], _, _, h => by
    simp only [renderChars, List.append_assoc] at h
    exact absurd h escapeChar_ne_quote
  | _ :: _, _ :: _, _, _, h => by
    simp only [renderChars, List.append_assoc] at h
    obtain ⟨e, h₁⟩ := escapeChar_append_inj h
    obtain ⟨e', h₂⟩ := renderChars_append_inj h₁
    exact ⟨by rw [e, e'], h₂⟩

/-! ## Numbers -/

/-- The characters of a number. -/
def isNumberChar (c : Char) : Bool := c.isDigit || c == '-'

/-- The rest of a text stops a number: it does not begin with a number's character. -/
def Stops (x : List Char) : Prop := ∀ c ∈ x.head?, isNumberChar c = false

theorem isNumberChar_of_mem_int {i : Int} {c : Char} (h : c ∈ (toString i).toList) :
    isNumberChar c = true := by
  have digits : ∀ {n : Nat}, c ∈ n.repr.toList → isNumberChar c = true := by
    intro n hn
    rw [Nat.toList_repr] at hn
    simp [isNumberChar, Nat.isDigit_of_mem_toDigits (by omega) (by omega) hn]
  cases i with
  | ofNat n => exact digits h
  | negSucc n =>
    rw [show toString (Int.negSucc n) = "-" ++ (n + 1).repr from rfl, String.toList_append,
      List.mem_append] at h
    rcases h with h | h
    · simp only [String.reduceToList, List.mem_singleton] at h
      simp [isNumberChar, h]
    · exact digits h

theorem toString_int_inj {i j : Int} (h : (toString i).toList = (toString j).toList) : i = j := by
  have := String.toList_inj.1 h
  simpa using this

/-- Two texts of number characters with rests that stop them are the same texts. -/
theorem append_inj_of_stops : ∀ {l m x y : List Char}, (∀ c ∈ l, isNumberChar c = true) →
    (∀ c ∈ m, isNumberChar c = true) → Stops x → Stops y → l ++ x = m ++ y → l = m ∧ x = y
  | [], [], _, _, _, _, _, _, h => ⟨rfl, h⟩
  | [], c :: _, _, _, _, hm, hx, _, h => by
    subst h
    have := hx c (by simp)
    simp [hm c List.mem_cons_self] at this
  | c :: _, [], _, _, hl, _, _, hy, h => by
    subst h
    have := hy c (by simp)
    simp [hl c List.mem_cons_self] at this
  | _ :: _, _ :: _, _, _, hl, hm, hx, hy, h => by
    simp only [List.cons_append, List.cons.injEq] at h
    obtain ⟨e, h₁⟩ := append_inj_of_stops (fun c hc => hl c (List.mem_cons_of_mem _ hc))
      (fun c hc => hm c (List.mem_cons_of_mem _ hc)) hx hy h.2
    exact ⟨by rw [h.1, e], h₁⟩

/-! ## Values -/

/-- The kind of a value, as its text begins. -/
def kindOf (c : Char) : Nat :=
  if c = 'n' then 0 else if c = 't' then 1 else if c = 'f' then 2 else if c = '"' then 3
  else if c = '[' then 4 else if c = Char.ofNat 123 then 5 else 6

/-- The kind of a value. -/
def kind : Json → Nat
  | null => 0
  | bool true => 1
  | bool false => 2
  | str _ => 3
  | arr _ => 4
  | obj _ => 5
  | _ => 6

theorem int_ne_nil (i : Int) : (toString i).toList ≠ [] := by
  intro h
  have : toString i = "" := String.toList_inj.1 (by simpa using h)
  cases i with
  | ofNat n => exact Nat.repr_ne_empty this
  | negSucc n =>
    rw [show toString (Int.negSucc n) = "-" ++ (n + 1).repr from rfl] at this
    simp at this

/-- The text of a value begins with a character of its kind, which does not end
    anything. -/
theorem render_head {a : Json} (ha : a.Plain) (x : List Char) :
    ∃ c l, render a ++ x = c :: l ∧ kindOf c = a.kind ∧ c ≠ ']' := by
  match a, ha with
  | null, _ => exact ⟨'n', _, rfl, rfl, by decide⟩
  | bool true, _ => exact ⟨'t', _, rfl, rfl, by decide⟩
  | bool false, _ => exact ⟨'f', _, rfl, rfl, by decide⟩
  | str _, _ => exact ⟨'"', _, rfl, rfl, by decide⟩
  | arr _, _ => exact ⟨'[', _, rfl, rfl, by decide⟩
  | obj _, _ => exact ⟨Char.ofNat 123, _, rfl, rfl, by decide⟩
  | int i, _ =>
    obtain ⟨c, l, hl⟩ := List.exists_cons_of_ne_nil (int_ne_nil i)
    have hc : isNumberChar c = true := isNumberChar_of_mem_int (hl ▸ List.mem_cons_self)
    refine ⟨c, l ++ x, by rw [render, hl]; rfl, ?_, ?_⟩
    · unfold kindOf kind
      split_ifs <;> first | rfl | (subst_vars; exact absurd hc (by decide))
    · rintro rfl
      exact absurd hc (by decide)

theorem stops_nil : Stops [] := by simp [Stops]

theorem stops_renderItems {as : List Json} {x : List Char} : Stops (renderItems as ++ x) := by
  cases as <;> simp [renderItems, Stops, isNumberChar, Char.isDigit]

theorem stops_renderMembers {as : List (String × Json)} {x : List Char} :
    Stops (renderMembers as ++ x) := by
  rcases as with _ | ⟨⟨_, _⟩, _⟩ <;> simp [renderMembers, Stops] <;> decide

mutual

/-- The text of a value, with a rest that stops a number, determines the value
    and the rest. -/
theorem render_append_inj : ∀ {a b : Json} {x y : List Char}, a.Plain → b.Plain → Stops x →
    Stops y → render a ++ x = render b ++ y → a = b ∧ x = y
  | a, b, x, y, ha, hb, hx, hy, h => by
    have hk : a.kind = b.kind := by
      obtain ⟨c, l, e, hc, -⟩ := render_head ha x
      obtain ⟨d, m, f, hd, -⟩ := render_head hb y
      rw [e, f, List.cons.injEq] at h
      rw [← hc, ← hd, h.1]
    match a, b, ha, hb, hk with
    | null, null, _, _, _ => exact ⟨rfl, List.append_cancel_left h⟩
    | bool true, bool true, _, _, _ => exact ⟨rfl, List.append_cancel_left h⟩
    | bool false, bool false, _, _, _ => exact ⟨rfl, List.append_cancel_left h⟩
    | int i, int j, _, _, _ =>
      rw [render, render] at h
      obtain ⟨e, h₁⟩ := append_inj_of_stops (fun _ => isNumberChar_of_mem_int)
        (fun _ => isNumberChar_of_mem_int) hx hy h
      exact ⟨by rw [toString_int_inj e], h₁⟩
    | str s, str t, _, _, _ =>
      rw [render, render, List.cons_append, List.cons_append, List.cons.injEq] at h
      obtain ⟨e, h₁⟩ := renderChars_append_inj h.2
      exact ⟨by rw [String.toList_inj.1 e], h₁⟩
    | arr as, arr bs, ha, hb, _ =>
      rw [render, render, List.cons_append, List.cons_append, List.cons.injEq] at h
      obtain ⟨e, h₁⟩ := renderArr_append_inj ha hb h.2
      exact ⟨by rw [e], h₁⟩
    | obj as, obj bs, ha, hb, _ =>
      rw [render, render, List.cons_append, List.cons_append, List.cons.injEq] at h
      obtain ⟨e, h₁⟩ := renderObj_append_inj ha hb h.2
      exact ⟨by rw [e], h₁⟩

theorem renderArr_append_inj : ∀ {as bs : List Json} {x y : List Char}, PlainItems as →
    PlainItems bs → renderArr as ++ x = renderArr bs ++ y → as = bs ∧ x = y
  | [], [], _, _, _, _, h => ⟨rfl, List.append_cancel_left h⟩
  | [], _ :: _, _, y, _, hb, h => by
    rw [PlainItems] at hb
    obtain ⟨_, _, e, -, hc⟩ := render_head hb.1 (renderItems _ ++ y)
    rw [renderArr, renderArr, List.append_assoc, e] at h
    exact absurd (List.cons.inj h).1.symm hc
  | _ :: _, [], x, _, ha, _, h => by
    rw [PlainItems] at ha
    obtain ⟨_, _, e, -, hc⟩ := render_head ha.1 (renderItems _ ++ x)
    rw [renderArr, renderArr, List.append_assoc, e] at h
    exact absurd (List.cons.inj h).1 hc
  | a :: as, b :: bs, _, _, ha, hb, h => by
    rw [PlainItems] at ha hb
    rw [renderArr, renderArr, List.append_assoc, List.append_assoc] at h
    obtain ⟨e, h₁⟩ := render_append_inj ha.1 hb.1 stops_renderItems stops_renderItems h
    obtain ⟨e', h₂⟩ := renderItems_append_inj ha.2 hb.2 h₁
    exact ⟨by rw [e, e'], h₂⟩

theorem renderObj_append_inj : ∀ {as bs : List (String × Json)} {x y : List Char},
    PlainMembers as → PlainMembers bs → renderObj as ++ x = renderObj bs ++ y → as = bs ∧ x = y
  | [], [], _, _, _, _, h => ⟨rfl, List.append_cancel_left h⟩
  | [], (_, _) :: _, _, _, _, _, h => by simp [renderObj] at h
  | (_, _) :: _, [], _, _, _, _, h => by simp [renderObj] at h
  | (k, a) :: as, (l, b) :: bs, _, _, ha, hb, h => by
    rw [PlainMembers] at ha hb
    simp only [renderObj, List.cons_append, List.append_assoc, List.cons.injEq, true_and] at h
    obtain ⟨e, h₁⟩ := renderChars_append_inj h
    obtain ⟨e', h₂⟩ := render_append_inj ha.1 hb.1 stops_renderMembers stops_renderMembers
      (List.cons.inj h₁).2
    obtain ⟨e'', h₃⟩ := renderMembers_append_inj ha.2 hb.2 h₂
    exact ⟨by rw [String.toList_inj.1 e, e', e''], h₃⟩

theorem renderItems_append_inj : ∀ {as bs : List Json} {x y : List Char}, PlainItems as →
    PlainItems bs → renderItems as ++ x = renderItems bs ++ y → as = bs ∧ x = y
  | [], [], _, _, _, _, h => ⟨rfl, List.append_cancel_left h⟩
  | [], _ :: _, _, _, _, _, h => by simp [renderItems] at h
  | _ :: _, [], _, _, _, _, h => by simp [renderItems] at h
  | a :: as, b :: bs, _, _, ha, hb, h => by
    rw [PlainItems] at ha hb
    simp only [renderItems, List.cons_append, List.append_assoc, List.cons.injEq, true_and] at h
    obtain ⟨e, h₁⟩ := render_append_inj ha.1 hb.1 stops_renderItems stops_renderItems h
    obtain ⟨e', h₂⟩ := renderItems_append_inj ha.2 hb.2 h₁
    exact ⟨by rw [e, e'], h₂⟩

theorem renderMembers_append_inj : ∀ {as bs : List (String × Json)} {x y : List Char},
    PlainMembers as → PlainMembers bs → renderMembers as ++ x = renderMembers bs ++ y →
    as = bs ∧ x = y
  | [], [], _, _, _, _, h => ⟨rfl, List.append_cancel_left h⟩
  | [], (_, _) :: _, _, _, _, _, h => by simp [renderMembers] at h
  | (_, _) :: _, [], _, _, _, _, h => by simp [renderMembers] at h
  | (k, a) :: as, (l, b) :: bs, _, _, ha, hb, h => by
    rw [PlainMembers] at ha hb
    simp only [renderMembers, List.cons_append, List.append_assoc, List.cons.injEq, true_and] at h
    obtain ⟨e, h₁⟩ := renderChars_append_inj h
    rw [List.cons.injEq] at h₁
    obtain ⟨e', h₂⟩ := render_append_inj ha.1 hb.1 stops_renderMembers stops_renderMembers h₁.2
    obtain ⟨e'', h₃⟩ := renderMembers_append_inj ha.2 hb.2 h₂
    exact ⟨by rw [String.toList_inj.1 e, e', e''], h₃⟩

end

/-- The text of a value determines it. -/
theorem render_inj {a b : Json} (ha : a.Plain) (hb : b.Plain) (h : render a = render b) :
    a = b :=
  (render_append_inj ha hb stops_nil stops_nil (by simpa using h)).1

/-! ## Sorted members -/

theorem plainItems_iff : ∀ {as : List Json}, PlainItems as ↔ ∀ a ∈ as, a.Plain
  | [] => by simp [PlainItems]
  | a :: as => by simp [PlainItems, @plainItems_iff as]

theorem plainMembers_iff : ∀ {as : List (String × Json)}, PlainMembers as ↔ ∀ m ∈ as, m.2.Plain
  | [] => by simp [PlainMembers]
  | (k, a) :: as => by simp [PlainMembers, @plainMembers_iff as]

theorem sortItems_eq : ∀ as : List Json, sortItems as = as.map sortKeys
  | [] => rfl
  | a :: as => by rw [sortItems, sortItems_eq as, List.map_cons]

theorem sortMembers_eq : ∀ as : List (String × Json),
    sortMembers as = as.map fun m => (m.1, m.2.sortKeys)
  | [] => rfl
  | (k, a) :: as => by rw [sortMembers, sortMembers_eq as, List.map_cons]

mutual

theorem Plain.sortKeys : ∀ {a : Json}, a.Plain → a.sortKeys.Plain
  | null, h | bool _, h | int _, h | str _, h => h
  | arr as, h => by
    rw [Json.sortKeys, Plain]
    exact PlainItems.sortItems h
  | obj as, h => by
    rw [Json.sortKeys, Plain, plainMembers_iff]
    intro m hm
    exact plainMembers_iff.1 (PlainMembers.sortMembers h) m ((List.mem_insertionSort _).1 hm)

theorem PlainItems.sortItems : ∀ {as : List Json}, PlainItems as → PlainItems (sortItems as)
  | [], h => h
  | _ :: _, h => by
    rw [PlainItems] at h
    rw [Json.sortItems, PlainItems]
    exact ⟨h.1.sortKeys, PlainItems.sortItems h.2⟩

theorem PlainMembers.sortMembers : ∀ {as : List (String × Json)}, PlainMembers as →
    PlainMembers (sortMembers as)
  | [], h => h
  | (_, _) :: _, h => by
    rw [PlainMembers] at h
    rw [Json.sortMembers, PlainMembers]
    exact ⟨h.1.sortKeys, PlainMembers.sortMembers h.2⟩

end

/-- Values with the same canonical text agree up to the order of members. -/
theorem canonical_inj {a b : Json} (ha : a.Plain) (hb : b.Plain)
    (h : a.canonical = b.canonical) : a.sortKeys = b.sortKeys :=
  render_inj ha.sortKeys hb.sortKeys (String.ofList_injective h)

/-- The order of the members does not matter to a lookup if their names differ. -/
theorem lookup_perm {α β : Type} [DecidableEq α] {l m : List (α × β)} (h : l.Perm m)
    (nd : (l.map Prod.fst).Nodup) (k : α) : l.lookup k = m.lookup k := by
  induction h with
  | nil => rfl
  | cons a _ ih =>
    obtain ⟨a, v⟩ := a
    rw [List.map_cons, List.nodup_cons] at nd
    rw [List.lookup_cons, List.lookup_cons, ih nd.2]
  | swap a b l =>
    obtain ⟨a, v⟩ := a
    obtain ⟨b, w⟩ := b
    simp only [List.map_cons, List.nodup_cons, List.mem_cons, not_or] at nd
    by_cases ha : k = a
    · have hb : (k == b) = false := beq_false_of_ne fun hb => nd.1.1 (hb ▸ ha)
      simp [List.lookup_cons, hb]
    · simp [List.lookup_cons, beq_false_of_ne ha]
  | trans h₁ _ ih₁ ih₂ =>
    rw [ih₁ nd, ih₂ ((h₁.map Prod.fst).nodup_iff.1 nd)]

theorem lookup_map {l : List (String × Json)} (k : String) :
    (l.map fun m => (m.1, m.2.sortKeys)).lookup k = (l.lookup k).map sortKeys := by
  induction l with
  | nil => rfl
  | cons m l ih =>
    obtain ⟨n, a⟩ := m
    simp only [List.map_cons, List.lookup_cons, ih]
    cases k == n <;> rfl

/-- Sorting the members of an object sorts within each of them. -/
theorem get?_sortKeys {members : List (String × Json)} (nd : (members.map Prod.fst).Nodup)
    (k : String) : (obj members).sortKeys.get? k = ((obj members).get? k).map sortKeys := by
  rw [sortKeys, get?, get?, sortMembers_eq, ← lookup_map]
  refine (lookup_perm (List.perm_insertionSort _ _).symm ?_ k).symm
  simpa [List.map_map, Function.comp_def] using nd

end Json

end RuleArena
