import RuleArena.Foundation.Checked

/-!
# Decimal numerals

The numerals of Python's `decimal` module: what `Decimal(text)` reads
(`PyDecimal.parse`), what `str` writes (`PyDecimal.toText`), and amounts held to
two places (`Amount`): what `quantize(Decimal("0.01"), ROUND_HALF_UP)` gives
(`PyDecimal.quantize`), and how `f"{amount:.2f}"` writes it (`Amount.text`).

What is written as an amount is read back as the same number
(`PyDecimal.parse_text`), so texts of different amounts differ
(`Amount.text_inj`).
-/

namespace RuleArena

/-- A value of Python's `Decimal`: a finite number is a sign, a coefficient and
    an exponent of ten. -/
inductive PyDecimal
  | finite (negative : Bool) (coefficient : Nat) (exponent : Int)
  | inf (negative : Bool)
  | nan (signaling : Bool)
  deriving DecidableEq, Repr

/-- An amount held to two places. Zero has two signs. -/
structure Amount where
  negative : Bool
  cents : Nat
  deriving DecidableEq, Repr

/-! ## Characters -/

/-- The zeros of the runs of ten Unicode characters that are decimal digits. -/
def unicodeZeros : List Nat :=
  [0x660, 0x6F0, 0x7C0, 0x966, 0x9E6, 0xA66, 0xAE6, 0xB66, 0xBE6, 0xC66, 0xCE6, 0xD66, 0xDE6,
   0xE50, 0xED0, 0xF20, 0x1040, 0x1090, 0x17E0, 0x1810, 0x1946, 0x19D0, 0x1A80, 0x1A90, 0x1B50,
   0x1BB0, 0x1C40, 0x1C50, 0xA620, 0xA8D0, 0xA900, 0xA9D0, 0xA9F0, 0xAA50, 0xABF0, 0xFF10,
   0x104A0, 0x10D30, 0x11066, 0x110F0, 0x11136, 0x111D0, 0x112F0, 0x11450, 0x114D0, 0x11650,
   0x116C0, 0x11730, 0x118E0, 0x11950, 0x11C50, 0x11D50, 0x11DA0, 0x11F50, 0x16A60, 0x16AC0,
   0x16B50, 0x1D7CE, 0x1D7D8, 0x1D7E2, 0x1D7EC, 0x1D7F6, 0x1E140, 0x1E2F0, 0x1E4F0, 0x1E950,
   0x1FBF0]

/-- The value of a decimal digit, ASCII or not. -/
def digitValue? (c : Char) : Option Nat :=
  if c.isDigit then some (c.toNat - 48)
  else (unicodeZeros.find? fun z => z ≤ c.toNat && c.toNat < z + 10).map (c.toNat - ·)

/-- What `str.isspace` accepts. -/
def isSpace (c : Char) : Bool :=
  let n := c.toNat
  (9 ≤ n && n ≤ 13) || (28 ≤ n && n ≤ 32) || n == 0x85 || n == 0xA0 || n == 0x1680 ||
    (0x2000 ≤ n && n ≤ 0x200A) || n == 0x2028 || n == 0x2029 || n == 0x202F || n == 0x205F ||
    n == 0x3000

/-- What `str.strip` leaves. -/
def strip (cs : List Char) : List Char :=
  ((cs.dropWhile isSpace).reverse.dropWhile isSpace).reverse

/-- The digits a text begins with, and the rest of it. -/
def spanDigits : List Char → List Nat × List Char
  | [] => ([], [])
  | c :: cs =>
    match digitValue? c with
    | some d => (d :: (spanDigits cs).1, (spanDigits cs).2)
    | none => ([], c :: cs)

/-- The number written by digits. -/
def ofDigits (ds : List Nat) : Nat := ds.foldl (fun n d => 10 * n + d) 0

/-- The number of digits of a number. -/
def numDigits (n : Nat) : Nat := (Nat.toDigits 10 n).length

/-- A sign, if the text begins with one, and the rest of it. -/
def spanSign : List Char → Bool × List Char
  | '-' :: cs => (true, cs)
  | '+' :: cs => (false, cs)
  | cs => (false, cs)

namespace PyDecimal

/-! ## Reading -/

/-- A finite number, if its exponent is one `Decimal` can hold. -/
def checked (negative : Bool) (coefficient : Nat) (exponent : Int) : Option PyDecimal :=
  if exponent + numDigits coefficient ≤ 10 ^ 18 ∧ -(2 * 10 ^ 18) + 3 ≤ exponent then
    some (finite negative coefficient exponent)
  else none

/-- The part of a number from its exponent on. -/
def parseExponent (negative : Bool) (coefficient : Nat) (exponent : Int) :
    List Char → Option PyDecimal
  | [] => checked negative coefficient exponent
  | c :: cs =>
    if c = 'e' ∨ c = 'E' then
      let (minus, cs) := spanSign cs
      match spanDigits cs with
      | (d :: ds, []) =>
        let e : Int := ofDigits (d :: ds)
        checked negative coefficient (exponent + if minus then -e else e)
      | _ => none
    else none

/-- A number without its sign: digits with an optional point among them, then
    an optional exponent. -/
def parseNumber (negative : Bool) (cs : List Char) : Option PyDecimal :=
  let (whole, cs) := spanDigits cs
  let (fraction, cs) :=
    match cs with
    | '.' :: cs => spanDigits cs
    | _ => ([], cs)
  if whole ++ fraction = [] then none
  else parseExponent negative (ofDigits (whole ++ fraction)) (-fraction.length) cs

/-- A numeral without its sign: an infinity, not a number, or a number. -/
def parseUnsigned (negative : Bool) (cs : List Char) : Option PyDecimal :=
  let lower := cs.map Char.toLower
  if lower = ['i', 'n', 'f'] ∨ lower = ['i', 'n', 'f', 'i', 'n', 'i', 't', 'y'] then
    some (inf negative)
  else if lower.take 3 = ['n', 'a', 'n'] ∧ (spanDigits (cs.drop 3)).2 = [] then some (nan false)
  else if lower.take 4 = ['s', 'n', 'a', 'n'] ∧ (spanDigits (cs.drop 4)).2 = [] then
    some (nan true)
  else parseNumber negative cs

/-- What `Decimal(text)` reads: space around the numeral and underscores in it
    do not matter. -/
def parse (text : String) : Option PyDecimal :=
  let (negative, cs) := spanSign ((strip text.toList).filter (· ≠ '_'))
  parseUnsigned negative cs

/-- `Decimal(i)` of an integer. -/
def ofInt (i : Int) : PyDecimal := finite (i < 0) i.natAbs 0

def isFinite : PyDecimal → Bool
  | finite .. => true
  | _ => false

/-! ## Writing -/

/-- What `str` writes: plainly if the exponent is not positive and the number
    not too small, in scientific notation otherwise. -/
def toText : PyDecimal → String
  | finite negative coefficient exponent =>
    let digits := Nat.toDigits 10 coefficient
    let left : Int := exponent + digits.length
    let dot : Int := if exponent ≤ 0 ∧ -6 < left then left else 1
    let body :=
      if dot ≤ 0 then '0' :: '.' :: (List.replicate (-dot).toNat '0' ++ digits)
      else if digits.length ≤ dot then digits ++ List.replicate (dot.toNat - digits.length) '0'
      else digits.take dot.toNat ++ '.' :: digits.drop dot.toNat
    let power :=
      if left = dot then []
      else 'E' :: (if dot ≤ left then '+' else '-') :: Nat.toDigits 10 (left - dot).natAbs
    String.ofList ((if negative then ['-'] else []) ++ body ++ power)
  | inf negative => if negative then "-Infinity" else "Infinity"
  | nan signaling => if signaling then "sNaN" else "NaN"

end PyDecimal

/-! ## Amounts -/

namespace Amount

/-- The amount as a number of cents. -/
def toInt (a : Amount) : Int := if a.negative then -a.cents else a.cents

/-- The amount of a number of cents. -/
def ofInt (i : Int) : Amount := ⟨i < 0, i.natAbs⟩

@[simp] theorem toInt_ofInt (i : Int) : (ofInt i).toInt = i := by
  unfold ofInt toInt
  by_cases h : i < 0
  · simp only [h, decide_true, if_true]
    omega
  · simp only [h, decide_false, Bool.false_eq_true, if_false]
    omega

/-- The characters of an amount, without its sign. -/
def digits (cents : Nat) : List Char :=
  Nat.toDigits 10 (cents / 100) ++
    ['.', Nat.digitChar (cents / 10 % 10), Nat.digitChar (cents % 10)]

/-- What `f"{amount:.2f}"` writes. -/
def text (a : Amount) : String :=
  String.ofList ((if a.negative then ['-'] else []) ++ digits a.cents)

end Amount

namespace PyDecimal

/-- The coefficient of a number brought to two places, ties away from zero. -/
def roundHalfUp (coefficient : Nat) (exponent : Int) : Nat :=
  if -2 ≤ exponent then coefficient * 10 ^ (exponent + 2).toNat
  else
    let drop := (-2 - exponent).toNat
    if numDigits coefficient < drop then 0
    else (coefficient + 10 ^ drop / 2) / 10 ^ drop

/-- `quantize(Decimal("0.01"), ROUND_HALF_UP)`: the number to two places, unless
    that takes more than 28 digits. A quiet NaN stays what it is. -/
def quantize : PyDecimal → Option (Amount ⊕ Unit)
  | finite negative coefficient exponent =>
    if coefficient = 0 then some (.inl ⟨negative, 0⟩)
    else if numDigits coefficient + exponent + 2 ≤ 28 ∧
        numDigits (roundHalfUp coefficient exponent) ≤ 28 then
      some (.inl ⟨negative, roundHalfUp coefficient exponent⟩)
    else none
  | inf _ => none
  | nan false => some (.inr ())
  | nan true => none

end PyDecimal

/-! ## Written and read back -/

/-- The digits of a text that are decimal digits. -/
def digitValues (cs : List Char) : List Nat := cs.map fun c => (digitValue? c).getD 0

theorem digitValue?_digitChar {d : Nat} (h : d < 10) : digitValue? d.digitChar = some d := by
  have hd : d.digitChar.isDigit = true := by simpa using h
  rw [digitValue?, if_pos hd, Nat.toNat_digitChar_sub_48_of_lt_ten h]

theorem exists_digitChar {c : Char} (h : c.isDigit = true) : ∃ d < 10, c = d.digitChar := by
  simp only [Char.isDigit, Bool.and_eq_true, decide_eq_true_eq] at h
  have h₁ : 48 ≤ c.toNat := by simpa [UInt32.le_iff_toNat_le] using h.1
  have h₂ : c.toNat ≤ 57 := by simpa [UInt32.le_iff_toNat_le] using h.2
  refine ⟨c.toNat - 48, by omega, Char.toNat_inj.1 ?_⟩
  rw [Nat.toNat_digitChar_of_lt_ten (by omega)]
  omega

/-- A run of digits is read to its end. -/
theorem spanDigits_append {cs rest : List Char} (h : ∀ c ∈ cs, c.isDigit = true)
    (stop : ∀ c ∈ rest.head?, digitValue? c = none) :
    spanDigits (cs ++ rest) = (digitValues cs, rest) := by
  induction cs with
  | nil =>
    cases rest with
    | nil => rfl
    | cons c rest => simp [spanDigits, stop c (by simp), digitValues]
  | cons c cs ih =>
    have hc : digitValue? c = some (c.toNat - 48) := if_pos (h c List.mem_cons_self)
    rw [List.cons_append, spanDigits, hc, ih fun d hd => h d (List.mem_cons_of_mem _ hd)]
    simp [digitValues, hc]

theorem ofDigits_digitValues {cs : List Char} (h : ∀ c ∈ cs, c.isDigit = true) :
    ofDigits (digitValues cs) = Nat.ofDigitChars 10 cs 0 := by
  rw [ofDigits, digitValues, List.foldl_map, Nat.ofDigitChars_eq_foldl]
  refine List.foldl_ext _ _ 0 fun n c hc => ?_
  simp [digitValue?, h c hc]

/-- The digits written for a number are read as that number. -/
theorem ofDigits_toDigits (n : Nat) : ofDigits (digitValues (Nat.toDigits 10 n)) = n := by
  rw [ofDigits_digitValues fun c hc => Nat.isDigit_of_mem_toDigits (by omega) (by omega) hc,
    Nat.ofDigitChars_ten_toDigits]

namespace Amount

theorem isDigit_of_mem_toDigits {n : Nat} {c : Char} (h : c ∈ Nat.toDigits 10 n) :
    c.isDigit = true :=
  Nat.isDigit_of_mem_toDigits (by omega) (by omega) h

/-- The characters of an amount are digits and a point. -/
theorem mem_digits {n : Nat} {c : Char} (h : c ∈ digits n) : c.isDigit = true ∨ c = '.' := by
  simp only [digits, List.mem_append, List.mem_cons, List.not_mem_nil, or_false] at h
  rcases h with h | h | h | h
  · exact .inl (isDigit_of_mem_toDigits h)
  · exact .inr h
  · exact .inl (by rw [h, Nat.isDigit_digitChar]; simpa using Nat.mod_lt _ (by omega))
  · exact .inl (by rw [h, Nat.isDigit_digitChar]; simpa using Nat.mod_lt _ (by omega))

/-- The characters of an amount begin with a digit. -/
theorem digits_eq_cons (n : Nat) : ∃ c cs, digits n = c :: cs ∧ c.isDigit = true := by
  obtain ⟨c, cs, h⟩ := List.exists_cons_of_ne_nil (Nat.toDigits_ne_nil (n := n / 100) (b := 10))
  exact ⟨c, cs ++ _, by rw [digits, h, List.cons_append],
    isDigit_of_mem_toDigits (h ▸ List.mem_cons_self)⟩

end Amount

namespace PyDecimal

theorem not_isSpace_of_isDigit {c : Char} (h : c.isDigit = true) : isSpace c = false := by
  obtain ⟨d, hd, rfl⟩ := exists_digitChar h
  interval_cases d <;> decide

/-- Nothing is stripped from a text without space. -/
theorem strip_eq {cs : List Char} (h : ∀ c ∈ cs, isSpace c = false) : strip cs = cs := by
  have drop : ∀ l : List Char, (∀ c ∈ l, isSpace c = false) → l.dropWhile isSpace = l := by
    intro l hl
    cases l with
    | nil => rfl
    | cons c l => simp [hl c List.mem_cons_self]
  rw [strip, drop cs h, drop cs.reverse fun c hc => h c (List.mem_reverse.1 hc), List.reverse_reverse]

/-- The digits of an amount are read as that many cents. -/
theorem parseNumber_digits {n : Nat} (h : numDigits n ≤ 10 ^ 18) (negative : Bool) :
    parseNumber negative (Amount.digits n) = some (finite negative n (-2)) := by
  have d₁ : n / 10 % 10 < 10 := Nat.mod_lt _ (by omega)
  have d₂ : n % 10 < 10 := Nat.mod_lt _ (by omega)
  have point : digitValue? '.' = none := by decide
  have whole : spanDigits (Amount.digits n) = (digitValues (Nat.toDigits 10 (n / 100)),
      ['.', (n / 10 % 10).digitChar, (n % 10).digitChar]) :=
    spanDigits_append (fun c => Amount.isDigit_of_mem_toDigits) (by simpa using point)
  have fraction : spanDigits [(n / 10 % 10).digitChar, (n % 10).digitChar] =
      ([n / 10 % 10, n % 10], []) := by
    simp [spanDigits, digitValue?_digitChar d₁, digitValue?_digitChar d₂]
  have value : ofDigits (digitValues (Nat.toDigits 10 (n / 100)) ++ [n / 10 % 10, n % 10]) = n := by
    have := ofDigits_toDigits (n / 100)
    unfold ofDigits at this ⊢
    rw [List.foldl_append, this]
    simp only [List.foldl_cons, List.foldl_nil]
    omega
  have range : (-2 : Int) + numDigits n ≤ 10 ^ 18 := by omega
  simp only [parseNumber, whole, fraction, value]
  rw [if_neg (by simp), parseExponent, checked]
  exact if_pos ⟨range, by norm_num⟩

theorem parseUnsigned_digits {n : Nat} (h : numDigits n ≤ 10 ^ 18) (negative : Bool) :
    parseUnsigned negative (Amount.digits n) = some (finite negative n (-2)) := by
  obtain ⟨c, cs, e, hc⟩ := Amount.digits_eq_cons n
  -- A digit is neither the first letter of an infinity nor of a NaN.
  have lower : c.toLower ≠ 'i' ∧ c.toLower ≠ 'n' ∧ c.toLower ≠ 's' := by
    obtain ⟨d, hd, rfl⟩ := exists_digitChar hc
    interval_cases d <;> decide
  rw [parseUnsigned, e]
  simp only [List.map_cons, List.cons.injEq, lower.1, false_and, or_self, if_false,
    List.take_succ_cons, lower.2.1, lower.2.2]
  rw [← e, parseNumber_digits h]

/-- What is written as an amount is read back as the same number. -/
theorem parse_text {a : Amount} (h : numDigits a.cents ≤ 10 ^ 18) :
    parse a.text = some (finite a.negative a.cents (-2)) := by
  have char : ∀ c ∈ Amount.digits a.cents, isSpace c = false ∧ c ≠ '_' := by
    intro c hc
    rcases Amount.mem_digits hc with hd | rfl
    · exact ⟨not_isSpace_of_isDigit hd, by rintro rfl; exact absurd hd (by decide)⟩
    · decide
  have clean : ∀ c ∈ (if a.negative then ['-'] else []) ++ Amount.digits a.cents,
      isSpace c = false ∧ c ≠ '_' := by
    intro c hc
    rcases List.mem_append.1 hc with hs | hs
    · cases ha : a.negative <;> simp [ha] at hs
      subst hs
      decide
    · exact char c hs
  have text : (strip a.text.toList).filter (· ≠ '_') =
      (if a.negative then ['-'] else []) ++ Amount.digits a.cents := by
    rw [Amount.text, String.toList_ofList, strip_eq fun c hc => (clean c hc).1]
    exact List.filter_eq_self.2 fun c hc => by simpa using (clean c hc).2
  have sign : spanSign ((if a.negative then ['-'] else []) ++ Amount.digits a.cents) =
      (a.negative, Amount.digits a.cents) := by
    obtain ⟨c, cs, e, hc⟩ := Amount.digits_eq_cons a.cents
    cases a.negative with
    | true => rfl
    | false =>
      simp only [Bool.false_eq_true, if_false, List.nil_append, e]
      unfold spanSign
      split
      · rename_i h; cases h; exact absurd hc (by decide)
      · rename_i h; cases h; exact absurd hc (by decide)
      · rfl
  rw [parse, text, sign]
  exact parseUnsigned_digits h _

end PyDecimal

theorem numDigits_le_iff {n k : Nat} (h : 0 < k) : numDigits n ≤ k ↔ n < 10 ^ k :=
  Nat.length_toDigits_le_iff (by omega) h

/-- An amount is already held to two places. -/
theorem PyDecimal.quantize_amount {n : Nat} (h : n < 10 ^ 28) (negative : Bool) :
    quantize (finite negative n (-2)) = some (.inl ⟨negative, n⟩) := by
  have same : roundHalfUp n (-2) = n := by simp [roundHalfUp]
  have digits : numDigits n ≤ 28 := (numDigits_le_iff (by omega)).2 h
  rw [quantize, same]
  split
  · subst_vars; rfl
  · rw [if_pos ⟨by omega, digits⟩]

/-- Amounts with the same text are the same. -/
theorem Amount.text_inj {a b : Amount} (ha : numDigits a.cents ≤ 10 ^ 18)
    (hb : numDigits b.cents ≤ 10 ^ 18) (h : a.text = b.text) : a = b := by
  have := (PyDecimal.parse_text ha).symm.trans (h ▸ PyDecimal.parse_text hb)
  cases a
  cases b
  simpa using this

end RuleArena
