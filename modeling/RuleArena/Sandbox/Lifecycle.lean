import RuleArena.Sandbox.Faithful
import RuleArena.Sandbox.Idempotency

/-!
# The lifecycle of memberships

The user has a membership exactly while one is active, and each membership has
its own entitlement. In a faithful environment a membership that has ended stays
as it is, with an entitlement of which nothing can be consumed any more.
-/

namespace RuleArena

namespace RunSpace

variable {run run' : RunSpace} {command : ActionCommand} {key : String} {now : Nat}
  {outcome : Outcome}

/-! ## Active memberships -/

/-- One for an active membership. -/
def activeWeight (status : MembershipStatus) : ℤ := if status = .active then 1 else 0

theorem activeWeight_nonneg (status : MembershipStatus) : 0 ≤ activeWeight status := by
  unfold activeWeight
  split <;> decide

/-- The number of active memberships. -/
def activeMemberships (run : RunSpace) : ℤ :=
  (run.memberships.map fun membership => activeWeight membership.status).sum

/-- One if the user has a membership. -/
def userActive (run : RunSpace) : ℤ :=
  ((run.user.map TestUser.membershipStatus).map activeWeight).getD 0

/-- The user has a membership exactly while one is active, and each membership has
    an entitlement. -/
structure Members (run : RunSpace) : Prop where
  paired : run.entitlements.map Entitlement.membershipId = run.memberships.map Membership.id
  active : run.activeMemberships = run.userActive

theorem Members.of_rows (h : Members run)
    (entitlements : run'.entitlements.map Entitlement.membershipId =
      run.entitlements.map Entitlement.membershipId := by rfl)
    (memberships : run'.memberships = run.memberships := by rfl)
    (user : run'.user.map TestUser.membershipStatus =
      run.user.map TestUser.membershipStatus := by rfl) : Members run' := by
  refine ⟨by rw [entitlements, memberships, h.paired], ?_⟩
  rw [activeMemberships, memberships, userActive, user]
  exact h.active

/-- An active membership ends, and the user has none any more. -/
theorem Members.close (h : Members run) (storable : run.Storable) {membership : Membership}
    (hm : Table.find? Membership.id run.memberships membership.id = some membership)
    (active : membership.status = .active) (status : MembershipStatus) (ended : status ≠ .active)
    (entitlements : run'.entitlements.map Entitlement.membershipId =
      run.entitlements.map Entitlement.membershipId)
    (memberships : run'.memberships =
      Table.update Membership.id run.memberships (membership.withStatus status))
    (user : run'.user.map TestUser.membershipStatus = some .inactive) : Members run' := by
  refine ⟨by rw [entitlements, memberships, h.paired, Table.map_key_update], ?_⟩
  have found : Table.find? Membership.id run.memberships (membership.withStatus status).id =
      some membership := hm
  have total := Table.sum_update storable.memberships_keyed found
    fun membership => activeWeight membership.status
  have one : activeWeight membership.status ≤ run.activeMemberships := by
    refine List.single_le_sum (fun x hx => ?_) _ (List.mem_map_of_mem (Table.mem_of_find? hm))
    obtain ⟨m, -, rfl⟩ := List.mem_map.1 hx
    exact activeWeight_nonneg _
  have most : run.userActive ≤ 1 := by
    rw [userActive]
    cases run.user with
    | none => decide
    | some user =>
      simp only [Option.map_some, Option.getD_some, activeWeight]
      split <;> decide
  have was := h.active
  rw [activeMemberships, memberships, total, ← activeMemberships, userActive, user]
  simp only [activeWeight, active, Membership.withStatus_status, ended, if_true, if_false,
    Option.map_some, Option.getD_some] at one ⊢
  simp only [reduceCtorEq, if_false]
  omega

theorem handler_members [Python] (storable : run.Storable)
    (h : run.handler command key now = .ok (run', outcome)) (hm : Members run) : Members run' := by
  unfold handler at h
  split at h
  · obtain ⟨_, _, -, hu, rfl⟩ := createUser_ok h
    refine ⟨hm.paired, ?_⟩
    have : run.activeMemberships = 0 := by simpa [userActive, hu] using hm.active
    simpa [activeMemberships, userActive, activeWeight] using this
  · obtain ⟨_, _, _, _, -, -, -, rfl⟩ := issueCoupon_ok h
    exact hm.of_rows
  · obtain ⟨_, _, _, -, -, rfl⟩ := createOrder_ok h
    exact hm.of_rows
  · obtain ⟨_, _, -, -, -, -, -, rfl⟩ := applyCoupon_ok h
    exact hm.of_rows
  · obtain ⟨order, user, r, -, -, -, hu, -, -, hr, h⟩ := payOrder_ok h
    have rows := useCoupon_rows hr
    rcases h with ⟨-, rfl⟩ | ⟨-, h⟩
    · refine hm.of_rows (congrArg _ rows.2.2.2) rows.2.2.1 ?_
      rw [addEvent_user, rows.1, hu]
      rfl
    · have points := grantPoints_rows h
      refine hm.of_rows (congrArg _ (points.2.2.2.2.trans rows.2.2.2))
        (points.2.2.2.1.trans rows.2.2.1) ?_
      rw [points.1, hu]
      rfl
  · obtain ⟨_, r, -, -, hr, rfl⟩ := cancelOrder_ok h
    have rows := releaseCoupon_rows hr
    exact hm.of_rows (congrArg _ rows.2.2.2) rows.2.2.1 (congrArg _ rows.1)
  · obtain ⟨_, user, _, r, -, -, -, -, -, -, hu, hr, h, -⟩ := refundOrder_ok h
    have restored := restoreCoupon_rows h
    obtain ⟨⟨points, hp⟩, rows⟩ := refundPoints_rows hr (by simp [refunded])
    refine hm.of_rows (congrArg _ (restored.2.2.2.trans rows.2.2.2))
      (restored.2.2.1.trans rows.2.2.1) ?_
    rw [restored.1, hp, hu]
    rfl
  · obtain ⟨user, _, hu, -, -, rfl⟩ := redeemPoints_ok h
    exact hm.of_rows rfl rfl (by simp [hu])
  · obtain ⟨user, amount, quantity, currency, hu, hs, -, -, -, rfl⟩ := activateMembership_ok h
    refine ⟨by simp [activated, hm.paired], ?_⟩
    have none : run.activeMemberships = 0 := by
      simpa [userActive, hu, hs, activeWeight] using hm.active
    simpa [activeMemberships, userActive, activated, activeWeight] using none
  · obtain ⟨entitlement, quantity, hf, -, -, -, -, rfl⟩ := consumeEntitlement_ok h
    have found : Table.find? Entitlement.id run.entitlements (entitlement.consume quantity).id =
        some entitlement := hf
    exact hm.of_rows (Table.map_update storable.entitlements_keyed found _ rfl)
  · obtain ⟨membership, user, entitlement, r, hf, hs, -, he, h⟩ := cancelMembership_ok h
    -- Revoking what is left of an entitlement does not change whose it is.
    have owners : ∀ {r₀ : RunSpace} {allowed : Bool},
        r₀.revokeEntitlement key now allowed entitlement = .ok r →
        r₀.entitlements = run.entitlements → r.entitlements.map Entitlement.membershipId =
          run.entitlements.map Entitlement.membershipId := by
      intro r₀ allowed hr same
      have found : Table.find? Entitlement.id run.entitlements entitlement.revokeAvailable.id =
          some entitlement :=
        Table.find?_of_mem storable.entitlements_keyed (Table.mem_of_find? he)
      rcases revokeEntitlement_ok hr with ⟨-, rfl⟩ | ⟨-, -, rfl⟩
      · rw [same]
      · rw [addEvent_entitlements, setEntitlement_entitlements, same]
        exact Table.map_update storable.entitlements_keyed found _ rfl
    rcases h with ⟨-, hr, rfl⟩ | ⟨hr, rfl⟩
    · have rows := revokeEntitlement_rows hr
      exact hm.close storable hf hs .refunded (by decide) (owners hr rfl) rows.2.2 (congrArg _ rows.1)
    · have rows := revokeEntitlement_rows hr
      exact hm.close storable hf hs .cancelled (by decide) (owners hr rfl) rows.2.2 (congrArg _ rows.1)
  · rw [inspectState_ok h]
    exact hm

theorem Reachable.members [Python] (h : Reachable run) : Members run :=
  h.induction (fun _ _ => ⟨rfl, rfl⟩) (fun _ _ _ => ⟨rfl, rfl⟩)
    (fun _ _ _ _ _ _ hr _ h ih => handler_members hr.storable h ih) fun _ _ _ ih => ih.of_rows

theorem activeMemberships_eq (run : RunSpace) :
    run.activeMemberships = (run.memberships.filter (·.status = .active)).length := by
  rw [activeMemberships]
  induction run.memberships with
  | nil => rfl
  | cons membership memberships ih =>
    rw [List.map_cons, List.sum_cons, ih, List.filter_cons, activeWeight]
    split <;> simp_all [add_comm]

/-! ## Ended memberships -/

/-- A membership that has ended, with its entitlement. -/
structure Ended (run : RunSpace) (membership : Membership) (entitlement : Entitlement) : Prop where
  closed : Table.find? Membership.id run.memberships membership.id = some membership
  kept : Table.find? Entitlement.id run.entitlements entitlement.id = some entitlement
  owner : entitlement.membershipId = membership.id
  ended : membership.status ≠ .active
  used_up : entitlement.available = 0

/-- In a faithful environment neither changes any more. -/
theorem handler_ended [Python] (storable : run.Storable) (faithful : run.profile.Faithful)
    {membership : Membership} {entitlement : Entitlement}
    (h : run.handler command key now = .ok (run', outcome)) (he : Ended run membership entitlement) :
    Ended run' membership entitlement := by
  have kept : run'.memberships = run.memberships → run'.entitlements = run.entitlements →
      Ended run' membership entitlement := fun hm he' =>
    ⟨hm ▸ he.closed, he' ▸ he.kept, he.owner, he.ended, he.used_up⟩
  unfold handler at h
  split at h
  · obtain ⟨_, _, -, -, rfl⟩ := createUser_ok h
    exact kept rfl rfl
  · obtain ⟨_, _, _, _, -, -, -, rfl⟩ := issueCoupon_ok h
    exact kept rfl rfl
  · obtain ⟨_, _, _, -, -, rfl⟩ := createOrder_ok h
    exact kept rfl rfl
  · obtain ⟨_, _, -, -, -, -, -, rfl⟩ := applyCoupon_ok h
    exact kept rfl rfl
  · obtain ⟨_, _, r, -, -, -, -, -, -, hr, ⟨-, rfl⟩ | ⟨-, h⟩⟩ := payOrder_ok h
    · exact kept (useCoupon_rows hr).2.2.1 (useCoupon_rows hr).2.2.2
    · have rows := grantPoints_rows h
      exact kept (rows.2.2.2.1.trans (useCoupon_rows hr).2.2.1)
        (rows.2.2.2.2.trans (useCoupon_rows hr).2.2.2)
  · obtain ⟨_, r, -, -, hr, rfl⟩ := cancelOrder_ok h
    exact kept (releaseCoupon_rows hr).2.2.1 (releaseCoupon_rows hr).2.2.2
  · obtain ⟨_, _, _, r, -, -, -, -, -, -, -, hr, h, -⟩ := refundOrder_ok h
    have rows := refundPoints_rows hr (by simp [refunded])
    exact kept ((restoreCoupon_rows h).2.2.1.trans rows.2.2.2.1)
      ((restoreCoupon_rows h).2.2.2.trans rows.2.2.2.2)
  · obtain ⟨_, _, -, -, -, rfl⟩ := redeemPoints_ok h
    exact kept rfl rfl
  · obtain ⟨_, _, _, _, -, -, -, -, -, rfl⟩ := activateMembership_ok h
    exact ⟨by simp [activated, Table.find?_append, he.closed],
      by simp [activated, Table.find?_append, he.kept], he.owner, he.ended, he.used_up⟩
  · obtain ⟨consumed, quantity, hf, hq, -, -, ha, rfl⟩ := consumeEntitlement_ok h
    -- Nothing is available of the entitlement, so it is another one that is consumed.
    refine ⟨he.closed, ?_, he.owner, he.ended, he.used_up⟩
    rw [addEvent_entitlements, setEntitlement_entitlements, Table.find?_update, if_neg]
    · exact he.kept
    · intro e
      have same : entitlement.id = consumed.id := e
      have found := he.kept
      rw [same, hf] at found
      simp only [faithful.flags, Bool.false_eq_true, or_false, Option.some.inj found,
        he.used_up] at ha
      omega
  · obtain ⟨closed, user, revoked, r, hf, hs, -, hre, h⟩ := cancelMembership_ok h
    have other : membership.id ≠ closed.id := by
      intro e
      have found := he.closed
      rw [e, hf] at found
      exact he.ended (Option.some.inj found ▸ hs)
    have theirs : entitlement.id ≠ revoked.id := by
      intro e
      have found := Table.find?_of_mem storable.entitlements_keyed (Table.mem_of_find? hre)
      rw [← e, he.kept] at found
      have owner := Table.key_of_find? hre
      rw [← Option.some.inj found, he.owner] at owner
      exact other owner
    have ended : ∀ {r₀ : RunSpace} {allowed : Bool} {status : MembershipStatus},
        r₀.revokeEntitlement key now allowed revoked = .ok r →
        r₀.memberships = Table.update Membership.id run.memberships (closed.withStatus status) →
        r₀.entitlements = run.entitlements → Ended r membership entitlement := by
      intro r₀ allowed status hr hm hent
      refine ⟨?_, ?_, he.owner, he.ended, he.used_up⟩
      · rw [(revokeEntitlement_rows hr).2.2, hm, Table.find?_update]
        exact (if_neg other).trans he.closed
      · rcases revokeEntitlement_ok hr with ⟨-, rfl⟩ | ⟨-, -, rfl⟩
        · rw [hent, he.kept]
        · rw [addEvent_entitlements, setEntitlement_entitlements, hent, Table.find?_update]
          exact (if_neg theirs).trans he.kept
    rcases h with ⟨-, hr, rfl⟩ | ⟨hr, rfl⟩
    · have := ended hr rfl rfl
      exact ⟨this.closed, this.kept, this.owner, this.ended, this.used_up⟩
    · have := ended hr rfl rfl
      exact ⟨this.closed, this.kept, this.owner, this.ended, this.used_up⟩
  · rw [inspectState_ok h]
    exact he

theorem Ended.execute [Python] (hr : Reachable run) (faithful : run.profile.Faithful)
    {membership : Membership} {entitlement : Entitlement} (he : Ended run membership entitlement)
    (command : ActionCommand) (now : Nat) (uuid : String) :
    Ended (run.execute command now uuid).1 membership entitlement := by
  rcases execute_cases run command now uuid with e | ⟨record, -, hp, -⟩
  · rw [e]; exact he
  · rcases perform_ok hp with ⟨-, ⟨r, outcome, hd, -, -, e⟩ | ⟨error, -, -, e⟩⟩ <;> rw [e]
    · have := handler_ended hr.storable faithful (dispatch_ok hd).1 he
      exact ⟨this.closed, this.kept, this.owner, this.ended, this.used_up⟩
    · exact ⟨he.closed, he.kept, he.owner, he.ended, he.used_up⟩

/-- Whatever happens in the rest of the epoch. -/
theorem Ended.after [Python] (hr : Reachable run) (faithful : run.profile.Faithful)
    {membership : Membership} {entitlement : Entitlement} (he : Ended run membership entitlement)
    {later : List Op} (noReset : Op.reset ∉ later) :
    Ended (run.after later) membership entitlement := by
  induction later generalizing run with
  | nil => exact he
  | cons op later ih =>
    rw [List.mem_cons, not_or] at noReset
    cases op with
    | reset => exact absurd rfl noReset.1
    | execute command uuid now =>
      refine ih (hr.apply _) ?_ (he.execute hr faithful command now uuid) noReset.2
      rw [(created_apply run _).2.1]
      exact faithful

/-! ## The rules of memberships -/

/-- Each membership has one entitlement, at most one membership is active, and the
    user has a membership exactly while one is. In a faithful environment no more of
    an entitlement is consumed and revoked than was granted; of the entitlement of a
    membership that was cancelled or refunded nothing is left, it stays as it is for
    the rest of the epoch, and none of it was consumed if the membership was
    refunded. -/
theorem membership_lifecycle [Python] (request : CreateRunRequest) (id : String)
    (history : List Op) :
    let run := (createRun request id).after history
    (∀ membership ∈ run.memberships,
      (run.entitlements.filter (·.membershipId = membership.id)).length = 1) ∧
    (run.memberships.filter (·.status = .active)).length ≤ 1 ∧
    (∀ user ∈ run.user, user.membershipStatus = .active ↔
      (run.memberships.filter (·.status = .active)).length = 1) ∧
    (run.profile.Faithful →
      (∀ entitlement ∈ run.entitlements, 0 ≤ entitlement.grantedQuantity -
        entitlement.consumedQuantity - entitlement.revokedQuantity) ∧
      ∀ membership ∈ run.memberships, membership.status = .cancelled ∨
          membership.status = .refunded →
        ∀ entitlement ∈ run.entitlements, entitlement.membershipId = membership.id →
          entitlement.available = 0 ∧
          (membership.status = .refunded → entitlement.consumedQuantity = 0) ∧
          ∀ later, Op.reset ∉ later →
            Table.find? Entitlement.id (run.after later).entitlements entitlement.id =
              some entitlement) := by
  intro run
  have reachable : Reachable run := ⟨request, id, history, rfl⟩
  have members := reachable.members
  have storable := reachable.storable
  have active := run.activeMemberships_eq.symm.trans members.active
  refine ⟨fun membership hm => ?_, ?_, fun user hu => ?_, fun faithful => ⟨?_, ?_⟩⟩
  · have keyed : Table.Keyed Entitlement.membershipId run.entitlements := by
      rw [Table.Keyed, members.paired]
      exact storable.memberships_keyed
    rw [Table.filter_eq keyed]
    cases hf : Table.find? Entitlement.membershipId run.entitlements membership.id with
    | some entitlement => rfl
    | none =>
      rw [Table.find?_eq_none, members.paired] at hf
      exact absurd (List.mem_map_of_mem hm) hf
  · rw [userActive] at active
    cases hu : run.user with
    | none =>
      simp only [hu, Option.map_none, Option.getD_none] at active
      omega
    | some user =>
      simp only [hu, Option.map_some, Option.getD_some, activeWeight] at active
      split at active <;> omega
  · rw [userActive, Option.mem_def.1 hu] at active
    simp only [Option.map_some, Option.getD_some, activeWeight] at active
    split at active <;> rename_i hs
    · exact ⟨fun _ => by omega, fun _ => hs⟩
    · exact ⟨fun h => absurd h hs, fun h => by omega⟩
  · exact fun entitlement he => ((reachable.entitled faithful).nonneg entitlement he).2
  · intro membership hm ended entitlement he owner
    have notActive : membership.status ≠ .active := by
      rcases ended with e | e <;> rw [e] <;> decide
    have h := (reachable.entitled faithful).ended membership hm entitlement he owner notActive
    refine ⟨h.1, h.2, fun later noReset => ?_⟩
    have start : Ended run membership entitlement :=
      ⟨Table.find?_of_mem storable.memberships_keyed hm,
        Table.find?_of_mem storable.entitlements_keyed he, owner, notActive, h.1⟩
    exact (start.after reachable faithful noReset).kept

end RunSpace

end RuleArena
