import EpochVoting.Proofs.CallPayments

/-!
# Who loses tokens

The vaults and the pools pay for what the engine does.  Any other account loses tokens only
by a bribe that it creates itself, and by a transfer that is made on the ledger, without the
engine (`loss_after`, `balance_le_after`).
-/

namespace EpochVoting

namespace TokenLedger

variable {t t' : TokenLedger}

/-- What a pool earns is taken from nobody. -/
theorem balance_le_accrue {pool pool' : FeePool} {target earned : Address} {side : FeeSide}
    {amount : UInt64} (h : pool.accrue t target side earned amount = .ok (pool', t'))
    (mint account : Address) :
    (t.balance mint account).toNat ≤ (t'.balance mint account).toNat := by
  obtain ⟨next, -, hcounted⟩ := bind_eq_ok_iff.mp h
  obtain ⟨tokens, hissued, heq⟩ := bind_eq_ok_iff.mp hcounted
  cases heq
  exact balance_le_issue hissued mint account

end TokenLedger

namespace Engine

variable {e e' : Engine}

/-- The account holds tokens for a gauge or for a bribe. -/
inductive Custodian (e : Engine) : Address → Prop
  | feeVault {target : Address} {g : Gauge}
      (hgauge : e.registry.gauges.find? target = some g) (side : FeeSide) :
      Custodian e (g.feeVault side)
  | poolFees {target : Address} {g : Gauge}
      (hgauge : e.registry.gauges.find? target = some g) (side : FeeSide) :
      Custodian e (Account.poolFees g.target side)
  | bribeVault {id : UInt64} {b : Bribe} (hbribe : e.bribes.bribes.find? id = some b) :
      Custodian e b.vault

theorem Custodian.of_gauges {account : Address} (h : e'.Custodian account)
    (hgauges : ∀ target g, e'.registry.gauges.find? target = some g →
      ∃ g, e.registry.gauges.find? target = some g)
    (hbribes : e'.bribes = e.bribes) : e.Custodian account := by
  cases h with
  | @feeVault target g' hgauge side =>
    obtain ⟨g, hold⟩ := hgauges target g' hgauge
    have hvault := Custodian.feeVault hold side
    rw [Gauge.feeVault, Registry.target_of_find? hold] at hvault
    rwa [Gauge.feeVault, Registry.target_of_find? hgauge]
  | @poolFees target g' hgauge side =>
    obtain ⟨g, hold⟩ := hgauges target g' hgauge
    have hpool := Custodian.poolFees hold side
    rw [Registry.target_of_find? hold] at hpool
    rwa [Registry.target_of_find? hgauge]
  | bribeVault hbribe => exact .bribeVault (hbribes ▸ hbribe)

end Engine

namespace Deployment

open Engine EpochVoting.Action

variable {d d' : Deployment} {operation : Operation} {reply : Reply}

/-- Tokens leave an account in five ways: a capture takes them from a pool, a claim of fees
from a fee vault, a settlement of a bribe from the bribe's vault, a new bribe from its briber,
and a transfer from whatever account it names. -/
theorem Step.source_of_loss (h : Step d operation reply d') {mint account : Address}
    (hloss : (d'.tokens.balance mint account).toNat < (d.tokens.balance mint account).toNat) :
    (∃ target epoch g side, d.engine.registry.gauges.find? target = some g ∧
      account = Account.poolFees g.target side ∧
      operation = .ensureEpochGauge target epoch ∧ reply = .flag true) ∨
    (∃ target g side, d.engine.registry.gauges.find? target = some g ∧
      account = g.feeVault side) ∨
    (∃ id b, d.engine.bribes.bribes.find? id = some b ∧ account = b.vault) ∨
    (∃ gauge reward epochEnd id,
      operation = .createBribe account gauge mint reward epochEnd ∧ reply = .amount id) ∨
    ∃ target amount, operation = .transfer mint account target amount := by
  cases h with
  | @captured target epoch g capture tokens _ hgauge _ _ _ hpaid =>
    obtain ⟨p, hp, -, rfl⟩ := TokenLedger.payment_of_loss hpaid hloss
    refine Or.inl ?_
    rcases List.mem_append.mp hp with hp | hp
    · rw [Payment.mem_due hp]
      exact ⟨target, epoch, g, .a, hgauge, rfl, rfl, rfl⟩
    · rw [Payment.mem_due hp]
      exact ⟨target, epoch, g, .b, hgauge, rfl, rfl, rfl⟩
  | @feePaid _ _ target _ _ _ g _ _ claim _ _ _ _ hgauge _ _ _ hpaid =>
    obtain ⟨p, hp, -, rfl⟩ := TokenLedger.payment_of_loss hpaid hloss
    rw [Payment.mem_due hp]
    exact Or.inr (Or.inl ⟨target, g, claim.side, hgauge, rfl⟩)
  | @bribeCreated briber target mint' reward epochEnd g id b escrowed tokens _ _ hbribe _ hpaid =>
    obtain ⟨p, hp, hmint, hsource⟩ := TokenLedger.payment_of_loss hpaid hloss
    obtain ⟨rfl, -⟩ := Bribe.prepare_eq_ok_iff.mp hbribe
    rw [List.mem_singleton.mp hp] at hmint hsource
    cases hmint
    cases hsource
    exact Or.inr (Or.inr (Or.inr (Or.inl ⟨target, reward, epochEnd, id, rfl, rfl⟩)))
  | @bribePaid _ _ id _ _ b _ _ _ _ _ _ hbribe _ hpaid _ =>
    obtain ⟨p, hp, -, rfl⟩ := TokenLedger.payment_of_loss hpaid hloss
    rw [Payment.mem_due hp]
    exact Or.inr (Or.inr (Or.inl ⟨id, b, hbribe, rfl⟩))
  | @bribeReturned _ id _ b _ _ _ _ hbribe _ hpaid _ =>
    obtain ⟨p, hp, -, rfl⟩ := TokenLedger.payment_of_loss hpaid hloss
    rw [List.mem_singleton.mp hp]
    exact Or.inr (Or.inr (Or.inl ⟨id, b, hbribe, rfl⟩))
  | accrueFees _ hearned =>
    exact absurd hloss (Nat.not_lt.mpr (TokenLedger.balance_le_accrue hearned mint account))
  | accruePool hearned =>
    exact absurd hloss (Nat.not_lt.mpr (TokenLedger.balance_le_accrue hearned mint account))
  | fund hissued =>
    exact absurd hloss (Nat.not_lt.mpr (TokenLedger.balance_le_issue hissued mint account))
  | @transfer _ _ target amount _ hmoved =>
    obtain ⟨p, hp, hmint, hsource⟩ := TokenLedger.payment_of_loss
      (TokenLedger.settle_singleton (p := ⟨_, _, _, _⟩).mpr hmoved) hloss
    rw [List.mem_singleton.mp hp] at hmint hsource
    cases hmint
    cases hsource
    exact Or.inr (Or.inr (Or.inr (Or.inr ⟨target, amount, rfl⟩)))
  | _ => exact absurd hloss (Nat.lt_irrefl _)

/-- Apart from the vaults and the pools, an account loses tokens by a bribe that it creates
and by a transfer that is no call of the engine. -/
theorem Step.loss (h : Step d operation reply d') {mint account : Address}
    (hfree : ¬ d.engine.Custodian account)
    (hloss : (d'.tokens.balance mint account).toNat < (d.tokens.balance mint account).toNat) :
    (∃ gauge reward epochEnd id,
      operation = .createBribe account gauge mint reward epochEnd ∧ reply = .amount id) ∨
    ∃ target amount, operation = .transfer mint account target amount := by
  rcases h.source_of_loss hloss with
    ⟨_, _, _, side, hgauge, rfl, -⟩ | ⟨_, _, side, hgauge, rfl⟩ | ⟨_, _, hbribe, rfl⟩ | hmoved
  · exact absurd (.poolFees hgauge side) hfree
  · exact absurd (.feeVault hgauge side) hfree
  · exact absurd (.bribeVault hbribe) hfree
  · exact hmoved

/-- The same for calls that fail: half a capture takes from a pool. -/
theorem loss_after (hbasic : operation.isBasic = true) {mint account : Address}
    (hfree : ¬ d.engine.Custodian account)
    (hloss : ((d.after operation).tokens.balance mint account).toNat <
      (d.tokens.balance mint account).toNat) :
    (∃ gauge reward epochEnd, operation = .createBribe account gauge mint reward epochEnd ∧
      ∃ id, d.answer operation = .ok (.amount id)) ∨
    ∃ target amount, operation = .transfer mint account target amount := by
  unfold after at hloss
  cases hrun : (perform operation).run d with
  | ok reply d' =>
    rw [hrun] at hloss
    rcases (step_of_perform hbasic hrun).loss hfree hloss with
      ⟨gauge, reward, epochEnd, id, hcreates, rfl⟩ | htransfer
    · exact Or.inl ⟨gauge, reward, epochEnd, hcreates, id, answer_of_run hrun⟩
    · exact Or.inr htransfer
  | error error d' =>
    rw [hrun] at hloss
    rcases atomic_or_interrupted hbasic hrun with rfl | hhalf
    · exact absurd hloss (Nat.lt_irrefl _)
    · cases hhalf with
      | capture _ hgauge _ _ _ _ hpaid =>
        obtain ⟨p, hp, -, rfl⟩ := TokenLedger.payment_of_loss hpaid hloss
        rw [Payment.mem_due hp] at hfree
        exact absurd (.poolFees hgauge .a) hfree

/-- Voting registers no gauges. -/
theorem gauge_of_after {voter target : Address} {gauges : List Address} {part : Operation}
    {g : Gauge} (hmade : (Operation.voteEpoch voter gauges).Makes part)
    (hgauge : (d.after part).engine.registry.gauges.find? target = some g) :
    ∃ g, d.engine.registry.gauges.find? target = some g := by
  by_cases hwrites : Book.registry ∈ part.writes
  case neg =>
    have hsame : (d.after part).engine.registry = d.engine.registry :=
      frame d part .registry hwrites
    exact ⟨g, hsame ▸ hgauge⟩
  case pos =>
    rcases engine_after_cases (d := d) hmade.isPart.1 with hsame | ⟨_, hstep⟩
    · exact ⟨g, hsame ▸ hgauge⟩
    cases hmade with
    | snapshot => simp [Operation.writes] at hwrites
    | commit hpart =>
      cases hpart with
      | commit => simp [Operation.writes] at hwrites
      | record =>
        generalize d.after _ = d' at hstep hgauge
        cases hstep with
        | foundEpochGauge => exact ⟨g, hgauge⟩
        | @captured _ _ old capture _ _ hold =>
          have hput : (d.engine.registry.put (capture.apply old)).gauges.find? target = some g :=
            hgauge
          unfold Registry.put at hput
          rw [Table.find?_insert_ite] at hput
          split at hput
          · next hkey => exact ⟨old, hkey ▸ Table.find?_key_of_mem (Table.mem_of_find? hold)⟩
          · exact ⟨g, hput⟩

/-- Creating gauges' records and committing power costs only vaults and pools tokens. -/
theorem balance_le_voteEpoch {voter mint account : Address} {gauges : List Address}
    (hfree : ¬ d.engine.Custodian account) :
    (d.tokens.balance mint account).toNat ≤
      ((d.after (.voteEpoch voter gauges)).tokens.balance mint account).toNat := by
  refine (after_induction (P := fun x => ¬ x.engine.Custodian account ∧
    (d.tokens.balance mint account).toNat ≤ (x.tokens.balance mint account).toNat) rfl ?_
    ⟨hfree, Nat.le_refl _⟩).2
  rintro part hmade x ⟨hfree, hle⟩
  have hbribes : (x.after part).engine.bribes = x.engine.bribes := by
    refine frame x part .bribes fun hwrites => ?_
    simpa [Operation.writes] using hmade.writes hwrites
  have hgauges (target : Address) (g : Gauge)
      (hgauge : (x.after part).engine.registry.gauges.find? target = some g) :
      ∃ g, x.engine.registry.gauges.find? target = some g :=
    gauge_of_after hmade hgauge
  refine ⟨fun hheld => hfree (hheld.of_gauges hgauges hbribes), hle.trans (Nat.not_lt.mp ?_)⟩
  intro hloss
  rcases loss_after hmade.isPart.1 hfree hloss with ⟨_, _, _, rfl, _⟩ | ⟨_, _, rfl⟩
  · cases hmade with
    | commit hpart => cases hpart
  · cases hmade with
    | commit hpart => cases hpart

/-- Neither the next epoch nor a new gauge moves tokens. -/
theorem tokens_after_part {part : Operation} (hmade : operation.Makes part)
    (hvotes : ∀ voter gauges, operation ≠ .voteEpoch voter gauges) :
    (d.after part).tokens = d.tokens := by
  rcases after_cases (d := d) hmade.isPart.1 with hsame | ⟨_, hstep⟩ | ⟨_, hhalf⟩
  · rw [hsame]
  · generalize d.after part = d' at hstep ⊢
    cases hmade with
    | snapshot | commit => exact absurd rfl (hvotes _ _)
    | wait | advance | create | enable =>
      cases hstep
      rfl
  · generalize d.after part = d' at hhalf ⊢
    cases hmade with
    | commit => exact absurd rfl (hvotes _ _)
    | _ => cases hhalf

/-- Operations of several calls cost only vaults and pools tokens. -/
theorem balance_le_after (hseveral : operation.isBasic = false) {mint account : Address}
    (hfree : ¬ d.engine.Custodian account) :
    (d.tokens.balance mint account).toNat ≤
      ((d.after operation).tokens.balance mint account).toNat := by
  by_cases hvotes : ∃ voter gauges, operation = .voteEpoch voter gauges
  · obtain ⟨voter, gauges, rfl⟩ := hvotes
    exact balance_le_voteEpoch hfree
  · have hsame : (d.after operation).tokens = d.tokens := by
      refine after_induction (P := fun x => x.tokens = d.tokens) hseveral ?_ rfl
      intro part hmade x hx
      refine (tokens_after_part hmade fun voter gauges hvote => ?_).trans hx
      exact hvotes ⟨voter, gauges, hvote⟩
    exact Nat.le_of_eq (by rw [hsame])

end Deployment
end EpochVoting
