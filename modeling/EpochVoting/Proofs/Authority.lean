import EpochVoting.Proofs.GuardedCalls
import EpochVoting.Proofs.Losses

/-!
# Who may change what

What a guarded call changes is changed by no other operation, whoever makes it and in
whatever state: the permissionless calls that write to the same gauges and snapshots leave it
alone (`every_step_authorized`).  So what the foreman or a voter has set stays as it is
through every run in which the foreman, or the owner and the delegate of the voter's lock,
make no call (`administration_kept`, `voter_records_kept`).
-/

namespace EpochVoting
namespace Deployment

open Engine EpochVoting.Action

variable {d d' : Deployment} {operation : Operation} {reply : Reply}

/-! ## All operations -/

/-- What every step keeps that is not of the kind `Q`, an operation keeps that is not of that
kind and makes no calls of it. -/
theorem kept_unless {P : Engine → Prop} {Q : Deployment → Operation → Prop}
    (hstep : ∀ {d operation reply d'}, Step d operation reply d' → P d.engine →
      P d'.engine ∨ Q d operation)
    (hparts : ∀ d part, operation.Makes part → ¬ Q d part) (h : P d.engine) :
    P (d.after operation).engine ∨ Q d operation := by
  have hcall {call : Operation} (hbasic : call.isBasic = true) (d : Deployment)
      (h : P d.engine) : P (d.after call).engine ∨ Q d call := by
    rcases engine_after_cases (d := d) hbasic with hsame | ⟨_, hdone⟩
    · exact Or.inl (hsame ▸ h)
    · exact hstep hdone h
  by_cases hbasic : operation.isBasic = true
  · exact hcall hbasic d h
  · refine Or.inl (after_induction (P := fun d => P d.engine) (Bool.not_eq_true _ ▸ hbasic) ?_ h)
    intro part hmade d h
    exact (hcall hmade.isPart.1 d h).resolve_right (hparts d part hmade)

/-- No operation changes who makes the administrative calls of a deployment. -/
theorem foreman_after (hbasic : operation.isBasic = true) :
    (d.after operation).foreman = d.foreman := by
  rcases after_cases (d := d) hbasic with hsame | ⟨_, hstep⟩ | ⟨_, hhalf⟩
  · rw [hsame]
  · generalize d.after operation = d' at hstep ⊢
    cases hstep <;> rfl
  · generalize d.after operation = d' at hhalf ⊢
    cases hhalf
    rfl

/-- Registering and enabling a gauge at once is the foreman's call too. -/
theorem isEnabled_addGauge {new target : Address} {mints : PerSide Address}
    (hother : ¬ (new = target ∧ d.foreman = d.engine.factory.foreman)) :
    (d.after (.addGauge new mints)).engine.registry.isEnabled target =
      d.engine.registry.isEnabled target := by
  refine (after_induction (P := fun x => x.foreman = d.foreman ∧
    x.engine.factory = d.engine.factory ∧
    x.engine.registry.isEnabled target = d.engine.registry.isEnabled target) rfl ?_
    ⟨rfl, rfl, rfl⟩).2.2
  rintro part hmade x ⟨hforeman, hfactory, henabled⟩
  have hbasic := hmade.isPart.1
  have hkept : (x.after part).engine.factory = x.engine.factory := by
    refine frame x part .factory fun hwrites => ?_
    simpa [Operation.writes] using hmade.writes hwrites
  refine ⟨(foreman_after hbasic).trans hforeman, hkept.trans hfactory, ?_⟩
  rcases engine_after_cases (d := x) hbasic with hsame | ⟨_, hstep⟩
  · rw [hsame, henabled]
  rcases hstep.isEnabled_cases target with hsame | ⟨hcaller, authority, enabled, rfl⟩
  · rw [hsame, henabled]
  · cases hmade with
    | enable =>
      refine absurd ⟨rfl, ?_⟩ hother
      rw [← hforeman, ← hfactory]
      exact Option.some.inj hcaller

/-! ## What every step of every run respects -/

/-- The records that an operation changes are those that its caller may change, and nobody
is made to pay for it. -/
structure Authorized (d : Deployment) (operation : Operation) : Prop where
  /-- The foreman hands the administration over. -/
  foreman : (d.after operation).engine.factory.foreman ≠ d.engine.factory.foreman →
    ∃ newForeman, operation = .setForeman d.engine.factory.foreman newForeman
  /-- The foreman sets the epoch's duration. -/
  epochDuration : (d.after operation).engine.factory.epochDurationSecs ≠
      d.engine.factory.epochDurationSecs →
    ∃ secs, operation = .setEpochDuration d.engine.factory.foreman secs
  /-- The foreman enables and disables gauges. -/
  enabled : ∀ target, (d.after operation).engine.registry.isEnabled target ≠
      d.engine.registry.isEnabled target →
    operation.caller? d = some d.engine.factory.foreman ∧
      ((∃ authority enabled, operation = .setGaugeEnabled authority target enabled) ∨
        ∃ mints, operation = .addGauge target mints)
  /-- The owner and the delegate of the voter's lock set the voter's weights. -/
  weights : ∀ voter, ¬ d.engine.weights.SameOf voter (d.after operation).engine.weights →
    (∃ authority gauge weight, operation = .setVote authority voter gauge weight) ∧
      ∃ lock, d.escrow.lock? voter = some lock ∧
        (operation.caller? d = some lock.owner ∨ operation.caller? d = some lock.delegate)
  /-- The delegate takes back the voter's votes in their epoch, and closes them after it. -/
  votes : ∀ voter gauge epoch x, d.engine.commitments.vote? voter gauge epoch = some x →
    (d.after operation).engine.commitments.vote? voter gauge epoch ≠ some x →
      (∃ lock, d.escrow.lock? voter = some lock ∧ operation.caller? d = some lock.delegate) ∧
        ((∃ authority wanted, operation = .revert authority voter gauge wanted) ∧
            epoch = d.engine.currentEpoch ∨
          (∃ authority, operation = .close authority voter gauge epoch) ∧
            epoch < d.engine.currentEpoch)
  /-- The delegate claims the voter's parts of fees and rewards, and the owner of the lock
  is paid. -/
  claims : ∀ voter pot, d.engine.hasClaimed voter pot = false →
    (d.after operation).engine.hasClaimed voter pot = true →
      ∃ authority lock mint vault paid, operation = pot.claim authority voter ∧
        d.escrow.lock? voter = some lock ∧ operation.caller? d = some lock.delegate ∧
        d.answer operation = .ok (.amount paid) ∧
        d.engine.mint? pot = some mint ∧ d.engine.vault? pot = some vault ∧
        d.tokens.settle (Payment.due ⟨mint, vault, lock.owner, paid⟩) =
          .ok (d.after operation).tokens
  /-- The briber claws a reward back, and is paid. -/
  clawbacks : ∀ id epoch, d.engine.bribes.isClawedBack id epoch = false →
    (d.after operation).engine.bribes.isClawedBack id epoch = true →
      ∃ b paid, d.engine.bribes.bribes.find? id = some b ∧
        operation = .clawBackBribe b.briber id epoch ∧
        d.answer operation = .ok (.amount paid) ∧
        d.tokens.settle [⟨b.mint, b.vault, b.briber, paid⟩] = .ok (d.after operation).tokens
  /-- An account that is neither a vault nor a pool's loses tokens only by the bribes that it
  creates, and by transfers on the ledger itself. -/
  losses : ∀ mint account, ¬ d.engine.Custodian account →
    (d.after operation).tokens.balance mint account < d.tokens.balance mint account →
      (∃ gauge reward epochEnd, operation = .createBribe account gauge mint reward epochEnd ∧
        ∃ id, d.answer operation = .ok (.amount id)) ∨
      ∃ target amount, operation = .transfer mint account target amount

theorem foreman_by_foreman (d : Deployment) (operation : Operation) :
    (d.after operation).engine.factory.foreman = d.engine.factory.foreman ∨
      ∃ newForeman, operation = .setForeman d.engine.factory.foreman newForeman := by
  refine kept_unless (P := fun e => e.factory.foreman = d.engine.factory.foreman)
    (Q := fun d call => ∃ newForeman, call = .setForeman d.engine.factory.foreman newForeman)
    ?_ ?_ rfl
  · intro x call reply x' hstep hx
    rcases hstep.factory_cases with ⟨hsame, -⟩ | ⟨hset, -⟩ | ⟨-, hsame⟩
    · exact Or.inl (hsame.trans hx)
    · exact Or.inr hset
    · exact Or.inl (hsame.trans hx)
  · rintro x part hmade ⟨_, rfl⟩
    cases hmade with
    | commit hpart => cases hpart

theorem epochDuration_by_foreman (d : Deployment) (operation : Operation) :
    (d.after operation).engine.factory.epochDurationSecs = d.engine.factory.epochDurationSecs ∨
      ∃ secs, operation = .setEpochDuration d.engine.factory.foreman secs := by
  refine kept_unless
    (P := fun e => e.factory.epochDurationSecs = d.engine.factory.epochDurationSecs)
    (Q := fun d call => ∃ secs, call = .setEpochDuration d.engine.factory.foreman secs)
    ?_ ?_ rfl
  · intro x call reply x' hstep hx
    rcases hstep.factory_cases with ⟨-, hsame⟩ | ⟨-, hsame⟩ | ⟨hset, -⟩
    · exact Or.inl (hsame.trans hx)
    · exact Or.inl (hsame.trans hx)
    · exact Or.inr hset
  · rintro x part hmade ⟨_, rfl⟩
    cases hmade with
    | commit hpart => cases hpart

theorem enabled_by_foreman (d : Deployment) (operation : Operation) (target : Address) :
    (d.after operation).engine.registry.isEnabled target =
      d.engine.registry.isEnabled target ∨
    operation.caller? d = some d.engine.factory.foreman ∧
      ((∃ authority enabled, operation = .setGaugeEnabled authority target enabled) ∨
        ∃ mints, operation = .addGauge target mints) := by
  by_cases hadds : ∃ new mints, operation = .addGauge new mints
  · obtain ⟨new, mints, rfl⟩ := hadds
    by_cases hown : new = target ∧ d.foreman = d.engine.factory.foreman
    · obtain ⟨rfl, hforeman⟩ := hown
      exact Or.inr ⟨congrArg some hforeman, Or.inr ⟨mints, rfl⟩⟩
    · exact Or.inl (isEnabled_addGauge hown)
  · refine (kept_unless (P := fun e => e.registry.isEnabled target =
      d.engine.registry.isEnabled target) (Q := fun d call =>
      call.caller? d = some d.engine.factory.foreman ∧
        ∃ authority enabled, call = .setGaugeEnabled authority target enabled)
      ?_ ?_ rfl).imp_right fun ⟨hcaller, hset⟩ => ⟨hcaller, Or.inl hset⟩
    · intro x call reply x' hstep hx
      exact (hstep.isEnabled_cases target).imp_left fun hsame => hsame.trans hx
    · rintro x part hmade ⟨-, _, _, rfl⟩
      cases hmade with
      | enable => exact hadds ⟨_, _, rfl⟩
      | commit hpart => cases hpart

theorem weights_by_voter (d : Deployment) (operation : Operation) (voter : Address) :
    d.engine.weights.SameOf voter (d.after operation).engine.weights ∨
    (∃ authority gauge weight, operation = .setVote authority voter gauge weight) ∧
      ∃ lock, d.escrow.lock? voter = some lock ∧
        (operation.caller? d = some lock.owner ∨ operation.caller? d = some lock.delegate) := by
  by_cases hwrites : Book.weights ∈ operation.writes
  case neg =>
    have hsame : (d.after operation).engine.weights = d.engine.weights :=
      frame d operation .weights hwrites
    exact Or.inl (by simp [WeightBook.SameOf, hsame])
  case pos =>
    have hbasic : operation.isBasic = true := by
      cases operation with
      | nextEpoch | addGauge | voteEpoch => simp [Operation.writes] at hwrites
      | _ => rfl
    rcases engine_after_cases (d := d) hbasic with hsame | ⟨_, hstep⟩
    · exact Or.inl (by simp [WeightBook.SameOf, hsame])
    · exact hstep.weights_cases voter

theorem votes_by_delegate (d : Deployment) (operation : Operation) {voter gauge : Address}
    {epoch : Epoch} {x : EpochVote} (hx : d.engine.commitments.vote? voter gauge epoch = some x) :
    (d.after operation).engine.commitments.vote? voter gauge epoch = some x ∨
    (∃ lock, d.escrow.lock? voter = some lock ∧ operation.caller? d = some lock.delegate) ∧
      ((∃ authority wanted, operation = .revert authority voter gauge wanted) ∧
          epoch = d.engine.currentEpoch ∨
        (∃ authority, operation = .close authority voter gauge epoch) ∧
          epoch < d.engine.currentEpoch) := by
  refine kept_unless (P := fun e => e.commitments.vote? voter gauge epoch = some x)
    (fun hstep hx => hstep.vote?_cases hx) ?_ hx
  rintro y part hmade ⟨-, ⟨⟨_, _, rfl⟩, -⟩ | ⟨⟨_, rfl⟩, -⟩⟩
  · cases hmade with
    | commit hpart => cases hpart
  · cases hmade with
    | commit hpart => cases hpart

/-- Whatever the deployment, an operation changes only what its caller may change. -/
theorem authorized (d : Deployment) (operation : Operation) : d.Authorized operation where
  foreman hne := (d.foreman_by_foreman operation).resolve_left hne
  epochDuration hne := (d.epochDuration_by_foreman operation).resolve_left hne
  enabled target hne := (d.enabled_by_foreman operation target).resolve_left hne
  weights voter hne := (d.weights_by_voter operation voter).resolve_left hne
  votes voter gauge epoch x hx hne := (d.votes_by_delegate operation hx).resolve_left hne
  claims voter pot hnew hclaimed := by
    have hclaims : d.Claims pot voter operation := by
      by_contra hnot
      rw [hasClaimed_after hnot, hnew] at hclaimed
      cases hclaimed
    obtain ⟨hclaim, reply, d', hrun⟩ := hclaims
    obtain ⟨lock, mint, vault, paid, hlock, hcaller, rfl, hmint, hvault, hpaid⟩ :=
      (step_of_perform (Operation.basic_of_claim hclaim).1 hrun).claim_payment hclaim
    obtain ⟨authority, hoperation⟩ := Operation.eq_claim hclaim
    refine ⟨authority, lock, mint, vault, paid, hoperation, hlock, hcaller, answer_of_run hrun,
      hmint, hvault, ?_⟩
    unfold after
    rw [hrun]
    exact hpaid
  clawbacks id epoch hnew hclawed := by
    have hclaws : d.ClawsBack id epoch operation := by
      by_contra hnot
      rw [isClawedBack_after hnot, hnew] at hclawed
      cases hclawed
    obtain ⟨hclawback, reply, d', hrun⟩ := hclaws
    obtain ⟨b, paid, hbribe, hoperation, rfl, hpaid⟩ :=
      (step_of_perform (Operation.basic_of_clawback hclawback) hrun).clawback_payment hclawback
    refine ⟨b, paid, hbribe, hoperation, answer_of_run hrun, ?_⟩
    unfold after
    rw [hrun]
    exact hpaid
  losses mint account hfree hloss := by
    rw [UInt64.lt_iff_toNat_lt] at hloss
    by_cases hbasic : operation.isBasic = true
    · exact loss_after hbasic hfree hloss
    · exact absurd hloss (Nat.not_lt.mpr (balance_le_after (Bool.not_eq_true _ ▸ hbasic) hfree))

/-- On the way of every run each operation changes only what its caller may change. -/
theorem every_step_authorized (d : Deployment) (done : List Operation) (operation : Operation) :
    (d.afterAll done).Authorized operation :=
  authorized (d.afterAll done) operation

/-! ## What stays as it is -/

/-- What every operation keeps that is not of the kind `Q`, a run keeps in which there is
none of that kind. -/
theorem kept_along_run {P : Deployment → Prop} {Q : Deployment → Operation → Prop}
    (hstep : ∀ d operation, P d → ¬ Q d operation → P (d.after operation))
    {run : List Operation} (hquiet : ¬ d.Occurs Q run) (h : P d) : P (d.afterAll run) := by
  induction run generalizing d with
  | nil => exact h
  | cons operation rest ih =>
    rw [Occurs, not_or] at hquiet
    exact ih hquiet.2 (hstep d operation h hquiet.1)

/-- The operation is a call by the foreman. -/
def ByForeman (d : Deployment) (operation : Operation) : Prop :=
  operation.caller? d = some d.engine.factory.foreman

/-- The operation is a call by the owner or the delegate of the voter's lock. -/
def ByVoter (voter : Address) (d : Deployment) (operation : Operation) : Prop :=
  ∃ lock, d.escrow.lock? voter = some lock ∧
    (operation.caller? d = some lock.owner ∨ operation.caller? d = some lock.delegate)

/-- As long as the foreman makes no call, the administration stays as it is. -/
theorem administration_kept {run : List Operation} (hquiet : ¬ d.Occurs ByForeman run) :
    (d.afterAll run).engine.factory.foreman = d.engine.factory.foreman ∧
      (d.afterAll run).engine.factory.epochDurationSecs = d.engine.factory.epochDurationSecs ∧
      ∀ target, (d.afterAll run).engine.registry.isEnabled target =
        d.engine.registry.isEnabled target := by
  refine kept_along_run (P := fun x => x.engine.factory.foreman = d.engine.factory.foreman ∧
    x.engine.factory.epochDurationSecs = d.engine.factory.epochDurationSecs ∧
    ∀ target, x.engine.registry.isEnabled target = d.engine.registry.isEnabled target)
    ?_ hquiet ⟨rfl, rfl, fun _ => rfl⟩
  rintro x operation ⟨hforeman, hduration, henabled⟩ hother
  refine ⟨?_, ?_, fun target => ?_⟩
  · rcases x.foreman_by_foreman operation with hsame | ⟨_, rfl⟩
    · exact hsame.trans hforeman
    · exact absurd rfl hother
  · rcases x.epochDuration_by_foreman operation with hsame | ⟨_, rfl⟩
    · exact hsame.trans hduration
    · exact absurd rfl hother
  · rcases x.enabled_by_foreman operation target with hsame | ⟨hcaller, -⟩
    · exact hsame.trans (henabled target)
    · exact absurd hcaller hother

/-- As long as neither the owner nor the delegate of a voter's lock makes a call, the voter's
weights and live votes stay as they are, and nothing more is claimed for the voter. -/
theorem voter_records_kept {voter : Address} {run : List Operation}
    (hquiet : ¬ d.Occurs (ByVoter voter) run) :
    d.engine.weights.SameOf voter (d.afterAll run).engine.weights ∧
      (∀ gauge epoch x, d.engine.commitments.vote? voter gauge epoch = some x →
        (d.afterAll run).engine.commitments.vote? voter gauge epoch = some x) ∧
      ∀ pot, d.engine.hasClaimed voter pot = false →
        (d.afterAll run).engine.hasClaimed voter pot = false := by
  refine kept_along_run (P := fun x => d.engine.weights.SameOf voter x.engine.weights ∧
    (∀ gauge epoch vote, d.engine.commitments.vote? voter gauge epoch = some vote →
      x.engine.commitments.vote? voter gauge epoch = some vote) ∧
    ∀ pot, d.engine.hasClaimed voter pot = false → x.engine.hasClaimed voter pot = false)
    ?_ hquiet ⟨⟨rfl, fun _ => rfl⟩, fun _ _ _ h => h, fun _ h => h⟩
  rintro x operation ⟨hweights, hvotes, hclaims⟩ hother
  refine ⟨?_, fun gauge epoch vote hvote => ?_, fun pot hpot => ?_⟩
  · rcases x.weights_by_voter operation voter with hsame | ⟨-, hcaller⟩
    · exact ⟨hsame.1.trans hweights.1, fun gauge => (hsame.2 gauge).trans (hweights.2 gauge)⟩
    · exact absurd hcaller hother
  · rcases x.votes_by_delegate operation (hvotes gauge epoch vote hvote) with
      hsame | ⟨⟨lock, hlock, hcaller⟩, -⟩
    · exact hsame
    · exact absurd ⟨lock, hlock, Or.inr hcaller⟩ hother
  · by_contra hclaimed
    obtain ⟨_, lock, _, _, _, -, hlock, hcaller, -⟩ := (x.authorized operation).claims voter pot
      (hclaims pot hpot) (Bool.not_eq_false _ ▸ hclaimed)
    exact hother ⟨lock, hlock, Or.inr hcaller⟩

end Deployment
end EpochVoting
