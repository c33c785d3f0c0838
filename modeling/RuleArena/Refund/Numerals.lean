import RuleArena.Refund.Agent

/-!
# The amount of a ticket

The amount that the agent reads from a ticket is what stands after the first refund
marker that a digit follows, as far as its pattern goes: digits, and two digits
after a point. The numeral of the ticket may go on (`Continues`): it does so
exactly if it is not one of that kind (`amount_whole_iff`).
-/

namespace RuleArena

/-! ## Numerals -/

/-- Whether a text that stands after a part of a numeral is more of it: a digit, or a point or a
    separator of thousands that a digit follows. -/
def Continues : List Char → Prop
  | [] => False
  | c :: cs => c.isDigit ∨ (c = '.' ∨ c = ',') ∧ cs.head?.any Char.isDigit

instance decidableContinues : (cs : List Char) → Decidable (Continues cs)
  | [] => inferInstanceAs (Decidable False)
  | _ :: _ => inferInstanceAs (Decidable (_ ∨ _))

/-- The rest of a numeral that a text begins with. -/
def numeral : List Char → List Char
  | [] => []
  | c :: cs => if Continues (c :: cs) then c :: numeral cs else []

theorem numeral_eq_nil_iff {cs : List Char} : numeral cs = [] ↔ ¬ Continues cs := by
  cases cs with
  | nil => exact iff_of_true rfl id
  | cons c cs =>
    by_cases more : Continues (c :: cs)
    · rw [numeral, if_pos more]
      exact iff_of_false (List.cons_ne_nil _ _) (not_not_intro more)
    · rw [numeral, if_neg more]
      exact iff_of_true rfl more

theorem numeral_append {digits : List Char} (all : ∀ c ∈ digits, c.isDigit) (rest : List Char) :
    numeral (digits ++ rest) = digits ++ numeral rest := by
  induction digits with
  | nil => rfl
  | cons c digits ih =>
    rw [List.forall_mem_cons] at all
    rw [List.cons_append, numeral, if_pos (.inl all.1), ih all.2]
    rfl

/-- A numeral has its digits first: what follows is not a digit. -/
theorem dropWhile_numeral {cs : List Char} (stops : ¬ cs.head?.any Char.isDigit) :
    (numeral cs).dropWhile Char.isDigit = numeral cs := by
  cases cs with
  | nil => rfl
  | cons c cs =>
    unfold numeral
    split_ifs with more
    · exact List.dropWhile_cons_of_neg stops
    · rfl

/-- A numeral without a separator and with two decimals at most. -/
def PlainNumeral (digits : List Char) : Prop :=
  digits.dropWhile Char.isDigit = [] ∨ ∃ decimals, digits.dropWhile Char.isDigit = '.' :: decimals ∧
    (∀ c ∈ decimals, c.isDigit) ∧ decimals.length ≤ 2

/-! ## The marker -/

/-- What stands after the first refund marker that a digit follows, with nothing but space before
    it. -/
def afterMarker : List Char → Option (List Char)
  | [] => none
  | c :: cs =>
    let rest := ((c :: cs).drop 2).dropWhile isSpace
    if (c :: cs).take 2 = ['退', '款'] ∧ rest.head?.any Char.isDigit then some rest
    else afterMarker cs

/-- The part of the pattern after the marker and the space. -/
def amountAt (rest : List Char) : List Char :=
  let whole := rest.takeWhile Char.isDigit
  let fraction := (rest.drop (whole.length + 1)).take 2 |>.takeWhile Char.isDigit
  if (rest.drop whole.length).head? = some '.' ∧ fraction ≠ [] then whole ++ '.' :: fraction
  else whole

theorem searchRefundAmount_eq (cs : List Char) :
    searchRefundAmount cs = (afterMarker cs).map amountAt := by
  induction cs with
  | nil => rfl
  | cons c cs ih =>
    have digit (rest : List Char) : rest.takeWhile Char.isDigit ≠ [] ↔
        rest.head?.any Char.isDigit := by
      cases rest with
      | nil => simp
      | cons d rest => by_cases h : d.isDigit <;> simp [h]
    unfold searchRefundAmount afterMarker refundAmountAt
    dsimp only
    rw [ih, if_congr (and_congr_right fun _ => digit _) rfl rfl]
    split_ifs with marked point
    · exact congrArg some (if_pos point).symm
    · exact congrArg some (if_neg point).symm
    · rfl

/-- The marker is followed by a digit. -/
theorem head_afterMarker {cs rest : List Char} (h : afterMarker cs = some rest) :
    rest.head?.any Char.isDigit := by
  induction cs with
  | nil => cases h
  | cons c cs ih =>
    unfold afterMarker at h
    dsimp only at h
    split_ifs at h with marked
    · obtain rfl := Option.some.inj h
      exact marked.2
    · exact ih h

/-! ## What the pattern leaves -/

theorem head_dropWhile_digits (cs : List Char) :
    ¬ (cs.dropWhile Char.isDigit).head?.any Char.isDigit := by
  cases h : cs.dropWhile Char.isDigit with
  | nil => simp
  | cons c rest =>
    have := List.head?_dropWhile_not Char.isDigit cs
    rw [h] at this
    simpa using this

theorem amountAt_append {whole after : List Char} (digits : ∀ c ∈ whole, c.isDigit)
    (stops : ¬ after.head?.any Char.isDigit) :
    amountAt (whole ++ after) =
      if after.head? = some '.' ∧ (after.tail.take 2).takeWhile Char.isDigit ≠ [] then
        whole ++ '.' :: (after.tail.take 2).takeWhile Char.isDigit
      else whole := by
  have first : (whole ++ after).takeWhile Char.isDigit = whole := by
    rw [List.takeWhile_append_of_pos digits]
    cases after with
    | nil => exact List.append_nil _
    | cons c after => rw [List.takeWhile_cons_of_neg (p := Char.isDigit) stops, List.append_nil]
  have second : (whole ++ after).drop (whole.length + 1) = after.tail := by
    rw [← List.drop_drop, List.drop_left, List.drop_one]
  unfold amountAt
  dsimp only
  rw [first, second, List.drop_left]

/-- What stands after the marker is the amount and a text that continues the numeral or does not:
    it does not exactly if the numeral is plain. -/
theorem amountAt_spec {rest : List Char} (starts : rest.head?.any Char.isDigit) :
    ∃ after, rest = amountAt rest ++ after ∧ (¬ Continues after ↔ PlainNumeral (numeral rest)) := by
  obtain ⟨whole, after, rfl, digits, stops⟩ : ∃ whole after, rest = whole ++ after ∧
      (∀ c ∈ whole, c.isDigit) ∧ ¬ after.head?.any Char.isDigit :=
    ⟨_, _, List.takeWhile_append_dropWhile.symm, fun c mem => List.mem_takeWhile_imp mem,
      head_dropWhile_digits rest⟩
  have plain : PlainNumeral (numeral (whole ++ after)) ↔ numeral after = [] ∨ ∃ decimals,
      numeral after = '.' :: decimals ∧ (∀ c ∈ decimals, c.isDigit) ∧ decimals.length ≤ 2 := by
    rw [PlainNumeral, numeral_append digits, List.dropWhile_append_of_pos digits,
      dropWhile_numeral stops]
  rw [plain, amountAt_append digits stops]
  split_ifs with point
  · obtain ⟨dot, some⟩ := point
    cases after with
    | nil => cases dot
    | cons c cs =>
      obtain rfl := Option.some.inj dot
      rw [List.tail_cons, ← List.take_takeWhile] at some ⊢
      have split : cs = cs.takeWhile Char.isDigit ++ cs.dropWhile Char.isDigit :=
        List.takeWhile_append_dropWhile.symm
      have decimals : ∀ c ∈ cs.takeWhile Char.isDigit, c.isDigit :=
        fun c mem => List.mem_takeWhile_imp mem
      have tail := head_dropWhile_digits cs
      generalize cs.takeWhile Char.isDigit = ds at split some decimals
      generalize cs.dropWhile Char.isDigit = tail' at split tail
      subst split
      have more : Continues ('.' :: (ds ++ tail')) := by
        cases ds with
        | nil => exact absurd rfl some
        | cons d ds => exact .inr ⟨.inl rfl, decimals d List.mem_cons_self⟩
      refine ⟨ds.drop 2 ++ tail', ?_, ?_⟩
      · rw [List.append_assoc, List.cons_append, ← List.append_assoc (ds.take 2),
          List.take_append_drop]
      rw [numeral, if_pos more, numeral_append decimals]
      by_cases long : 2 < ds.length
      · -- A third decimal stands after the amount.
        refine iff_of_false (not_not_intro ?_) ?_
        · cases hd : ds.drop 2 with
          | nil => exact absurd (List.drop_eq_nil_iff.1 hd) (not_le.2 long)
          | cons d more => exact .inl (decimals d (List.mem_of_mem_drop (hd ▸ List.mem_cons_self)))
        · rintro (⟨⟨⟩⟩ | ⟨all, same, -, short⟩)
          obtain rfl := (List.cons.inj same).2
          rw [List.length_append] at short
          omega
      · rw [List.drop_eq_nil_of_le (not_lt.1 long), List.nil_append, ← numeral_eq_nil_iff]
        constructor
        · intro ends
          exact .inr ⟨ds, by rw [ends, List.append_nil], decimals, not_lt.1 long⟩
        · rintro (⟨⟨⟩⟩ | ⟨all, same, digits, -⟩)
          obtain rfl := (List.cons.inj same).2
          rw [← dropWhile_numeral tail, List.dropWhile_eq_nil_iff]
          exact fun c mem => digits c (List.mem_append_right _ mem)
  · refine ⟨after, rfl, ?_⟩
    rw [← numeral_eq_nil_iff, iff_self_or]
    rintro ⟨all, dotted, -⟩
    cases after with
    | nil => cases dotted
    | cons c cs =>
      by_cases more : Continues (c :: cs)
      · -- A numeral goes on with a point only if a digit follows it.
        rw [numeral, if_pos more] at dotted
        obtain rfl := (List.cons.inj dotted).1
        obtain ⟨⟨⟩⟩ | ⟨-, digit⟩ := more
        refine absurd ⟨rfl, ?_⟩ point
        cases cs with
        | nil => cases digit
        | cons d cs => simp [List.takeWhile_cons_of_pos (p := Char.isDigit) digit]
      · exact numeral_eq_nil_iff.2 more

/-! ## The amount of a request -/

/-- The numeral of a ticket: it stands after the first refund marker that a digit follows. -/
def Ticket.numeral (ticket : Ticket) : List Char :=
  RuleArena.numeral ((afterMarker ticket.text.toList).getD [])

/-- The amount stands after the first refund marker that a digit follows, and what stands after
    the amount does not continue it. -/
def Ticket.States (ticket : Ticket) (amount : String) : Prop :=
  ∃ after, afterMarker ticket.text.toList = some (amount.toList ++ after) ∧ ¬ Continues after

/-- The amount that is read from a ticket is the whole numeral that the ticket states, exactly if
    this numeral has no separator and two decimals at most. -/
theorem amount_whole_iff [UnicodeTables] {ticket : Ticket} {request : RefundRequest}
    {amount : String} (parsed : parseRefundRequest ticket.text = some request)
    (found : request.amount = some amount) :
    ticket.States amount ↔ PlainNumeral ticket.numeral := by
  unfold parseRefundRequest at parsed
  split at parsed
  · cases parsed
  · split_ifs at parsed
    · cases parsed
      cases found
    · rw [searchRefundAmount_eq] at parsed
      obtain ⟨digits, hd, rfl⟩ := Option.map_eq_some_iff.1 parsed
      obtain ⟨rest, marked, rfl⟩ := Option.map_eq_some_iff.1 hd
      obtain rfl := Option.some.inj found
      obtain ⟨after, split, plain⟩ := amountAt_spec (head_afterMarker marked)
      rw [Ticket.numeral, Ticket.States, marked, Option.getD_some, ← plain, String.toList_ofList]
      constructor
      · rintro ⟨after', same, stops⟩
        rwa [List.append_cancel_left (split.symm.trans (Option.some.inj same))]
      · intro stops
        exact ⟨after, by rw [← split], stops⟩

theorem amount_whole_cents :
    let _ := UnicodeTables.ascii
    Ticket.States ⟨"ticket-1", "user-1", "订单 order-12 退款 100.50 元"⟩ "100.50" := by
  intro _
  have parsed : parseRefundRequest "订单 order-12 退款 100.50 元" =
      some ⟨"order-12", some "100.50"⟩ := by
    decide +kernel
  have plain : PlainNumeral (Ticket.numeral ⟨"ticket-1", "user-1", "订单 order-12 退款 100.50 元"⟩) :=
    .inr ⟨['5', '0'], by decide +kernel, by simp, by decide⟩
  exact (amount_whole_iff parsed rfl).2 plain

/-- A third decimal is not read. -/
theorem amount_not_whole :
    let _ := UnicodeTables.ascii
    ¬ ∀ (ticket : Ticket) (request : RefundRequest) (amount : String),
      parseRefundRequest ticket.text = some request → request.amount = some amount →
      ticket.States amount := by
  intro _ claim
  have parsed : parseRefundRequest "订单 order-12 退款 100.505" =
      some ⟨"order-12", some "100.50"⟩ := by
    decide +kernel
  have marked : afterMarker "订单 order-12 退款 100.505".toList =
      some ("100.50".toList ++ ['5']) := by
    decide +kernel
  obtain ⟨after, same, stops⟩ :=
    claim ⟨"ticket-1", "user-1", "订单 order-12 退款 100.505"⟩ _ _ parsed rfl
  rw [← List.append_cancel_left (Option.some.inj (marked.symm.trans same))] at stops
  exact stops (by decide)

end RuleArena
