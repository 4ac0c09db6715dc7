import EpochVoting.Proofs.Audit
import EpochVoting.Proofs.GuardedCalls

/-!
# Payouts and the audit

A claim counts its amount as paid out by the vault of its pot and has it transferred from
there to the owner of the voter's lock.  The engine does not ask who that is.  A transfer
between different accounts moves what the counter counts, but one from a vault to itself
moves nothing, and one to another vault leaves too much in that one.

Main statement: a claim with an amount keeps the audit passing exactly if the owner is none
of the audited vaults of the mint, and none of them but the pot's own has its address
(`Deployment.audit_after_claim_iff`).
-/

namespace EpochVoting

/-- The account in custody that a pot is paid from. -/
def Pot.custody : Pot → Custody
  | fees gauge _ side => .feeVault gauge side
  | reward bribe _ => .bribeVault bribe

namespace Engine

variable {e : Engine} {pot : Pot} {mint : Address}

/-- The audit looks for what a pot pays where it is paid from. -/
theorem auditedMint?_custody (e : Engine) (pot : Pot) :
    e.auditedMint? pot.custody = e.mint? pot := by
  cases pot <;> rfl

/-- An account can take tokens of the mint without the audit noticing. -/
def Unaudited (e : Engine) (mint account : Address) : Prop :=
  ∀ c, e.auditedMint? c = some mint → c.address ≠ account

/-- No other account that the audit checks for the same mint has the address of a pot's
vault. -/
def Apart (e : Engine) (mint : Address) (pot : Pot) : Prop :=
  ∀ c, e.auditedMint? c = some mint → c.address = pot.custody.address → c = pot.custody

theorem auditedMint?_putGauge {e' : Engine} {g g' : Gauge} (hbribes : e'.bribes = e.bribes)
    (hregistry : e'.registry = e.registry.put g') (hname : g'.target = g.target)
    (hg : e.registry.gauges.find? g.target = some g)
    (hmint : ∀ side, (g'.fee side).mint = (g.fee side).mint) (c : Custody) :
    e'.auditedMint? c = e.auditedMint? c := by
  cases c with
  | poolFees => rfl
  | bribeVault id => simp [auditedMint?, hbribes]
  | feeVault target side =>
    simp only [auditedMint?, hregistry, Registry.find?_put, hname]
    by_cases htarget : g.target = target
    · subst htarget
      simp [hg, hmint]
    · simp [htarget]

theorem auditedMint?_putBribe {e' : Engine} {b : Bribe} {claimed clawedBack : UInt64}
    (hregistry : e'.registry = e.registry)
    (hbribes : e'.bribes.bribes = e.bribes.bribes.insert (b.withTotals claimed clawedBack))
    (hb : e.bribes.bribes.find? b.id = some b) (c : Custody) :
    e'.auditedMint? c = e.auditedMint? c := by
  cases c with
  | poolFees => rfl
  | feeVault => simp [auditedMint?, hregistry]
  | bribeVault id =>
    have hfind : e'.bribes.bribes.find? id =
        if b.id = id then some (b.withTotals claimed clawedBack)
        else e.bribes.bribes.find? id := by
      rw [hbribes]
      exact Table.find?_insert_ite ..
    simp only [auditedMint?, hfind]
    by_cases hid : b.id = id
    · subst hid
      simp [hb, Bribe.withTotals]
    · simp [hid]

end Engine

namespace Sample

/-- The voter of the sample run has what is paid go back to the fee vault. -/
def vaultOwnerRun : List Operation :=
  run.take 8 ++ [.setOwner (account 4) (Account.feeVault (account 1) .a)]

end Sample

namespace Deployment

open Engine

variable {d d' : Deployment} {operation : Operation} {reply : Reply} {voter owner mint : Address}
  {pot : Pot} {amount : UInt64}

/-- A pot pays an amount to an account: it is counted at the pot's vault, whatever it does to
the balances. -/
structure PaysOut (d d' : Deployment) (pot : Pot) (mint owner : Address) (amount : UInt64) :
    Prop where
  mint_eq : d.engine.mint? pot = some mint
  audited_eq : ∀ c, d'.engine.auditedMint? c = d.engine.auditedMint? c
  received_eq : ∀ m c, d'.engine.received m c = d.engine.received m c
  paidOut_eq : ∀ m c, d'.engine.paidOut m c =
    d.engine.paidOut m c + if mint = m ∧ pot.custody = c then amount.toNat else 0
  settled : d.tokens.settle (Payment.due ⟨mint, pot.custody.address, owner, amount⟩) =
    .ok d'.tokens

/-- A claim pays its amount to the owner of the voter's lock. -/
theorem Step.paysOut (h : Step d operation reply d')
    (hclaim : operation.claim? = some (voter, pot)) :
    ∃ lock mint amount, d.escrow.lock? voter = some lock ∧ reply = .amount amount ∧
      PaysOut d d' pot mint lock.owner amount := by
  cases h with
  | @unvotedFee _ _ target epoch side lock g _ _ hlock _ _ hgauge =>
    cases hclaim
    refine ⟨lock, (g.fee side).mint, 0, hlock, rfl, ?_⟩
    exact {
      mint_eq := mint?_fees hgauge epoch side
      audited_eq := fun _ => rfl
      received_eq := fun _ _ => rfl
      paidOut_eq := by simp
      settled := rfl }
  | @feePaid _ _ target epoch side lock g _ s claim tokens hlock _ _ hgauge _ _ hcompute hpaid =>
    cases hclaim
    obtain rfl := Registry.target_of_find? hgauge
    obtain ⟨-, -, a, -, rfl, -, htotal⟩ := FeeClaim.compute_eq_ok_some_iff.mp hcompute
    have hbooks := books_of_feeClaim d.engine (s := s) hgauge htotal
    have hmint (other : FeeSide) :
        ((claim.applyToGauge g).fee other).mint = (g.fee other).mint := by
      by_cases hside : claim.side = other
      · rw [← hside, FeeClaim.fee_applyToGauge_self]
      · rw [FeeClaim.fee_applyToGauge_of_ne hside]
    refine ⟨lock, (g.fee claim.side).mint, claim.share, hlock, rfl, ?_⟩
    exact {
      mint_eq := mint?_fees hgauge epoch claim.side
      audited_eq := auditedMint?_putGauge rfl rfl FeeClaim.applyToGauge_target hgauge hmint
      received_eq := fun m c => (hbooks m c).1
      paidOut_eq := fun m c => (hbooks m c).2.trans (congrArg _ (c.ofGauge_side ..))
      settled := hpaid }
  | @bribePaid _ _ id epoch lock b claim bribes tokens hlock _ _ hbribe hcheck hpaid hrecorded =>
    cases hclaim
    obtain ⟨-, hid, -⟩ := (BribeLedger.checkClaim_eq_ok_iff hbribe).mp hcheck
    obtain ⟨total, htotal, hledger⟩ :=
      (BribeLedger.recordClaim_eq_ok_iff (hid ▸ hbribe)).mp hrecorded
    obtain rfl := BribeLedger.id_of_find? hbribe
    have hrows : bribes.bribes =
        d.engine.bribes.bribes.insert (b.withTotals total b.clawedBackAmount) := by
      rw [hledger]
      rfl
    have hout : total.toNat + b.clawedBackAmount.toNat =
        b.claimedAmount.toNat + b.clawedBackAmount.toNat + claim.amount.toNat := by omega
    have hbooks := books_of_putBribe d.engine { d.engine with bribes } rfl hrows hbribe hout
    refine ⟨lock, b.mint, claim.amount, hlock, rfl, ?_⟩
    exact {
      mint_eq := mint?_reward hbribe epoch
      audited_eq := auditedMint?_putBribe rfl hrows hbribe
      received_eq := fun m c => (hbooks m c).1
      paidOut_eq := fun m c => (hbooks m c).2
      settled := hpaid }
  | _ => cases hclaim

/-- What an account holds and has paid out, after a payout from another one or itself. -/
theorem PaysOut.balance_eq (h : PaysOut d d' pot mint owner amount) (c : Custody) :
    (d'.tokens.balance mint c.address).toNat + d'.engine.paidOut mint c +
        (if pot.custody.address = c.address then amount.toNat else 0) =
      (d.tokens.balance mint c.address).toNat + d.engine.paidOut mint c +
        (if owner = c.address then amount.toNat else 0) +
        (if pot.custody = c then amount.toNat else 0) := by
  have hmoved := TokenLedger.balance_settle h.settled mint c.address
  have hcounted := h.paidOut_eq mint c
  simp only [Payment.outflow_due, Payment.inflow_due, true_and] at hmoved hcounted
  omega

/-- The vaults of other mints are not touched. -/
theorem PaysOut.balance_of_ne (h : PaysOut d d' pot mint owner amount) {other : Address}
    (hother : mint ≠ other) (c : Custody) :
    (d'.tokens.balance other c.address).toNat + d'.engine.paidOut other c =
      (d.tokens.balance other c.address).toNat + d.engine.paidOut other c := by
  have hmoved := TokenLedger.balance_settle h.settled other c.address
  have hcounted := h.paidOut_eq other c
  simp only [Payment.outflow_due, Payment.inflow_due, hother, false_and, if_false]
    at hmoved hcounted
  omega

/-- After a payout the vaults hold what they should exactly if nothing was paid, or it has
left the vaults, and the pot's is the only one that it has left. -/
theorem PaysOut.vaultsHold_iff (h : PaysOut d d' pot mint owner amount)
    (hbefore : d.engine.VaultsHold d.tokens) :
    d'.engine.VaultsHold d'.tokens ↔
      amount = 0 ∨ d.engine.Unaudited mint owner ∧ d.engine.Apart mint pot := by
  have hpot : d.engine.auditedMint? pot.custody = some mint :=
    (auditedMint?_custody ..).trans h.mint_eq
  constructor
  · intro hafter
    by_cases hzero : amount = 0
    · exact Or.inl hzero
    have hpositive : amount.toNat ≠ 0 := fun hnot => hzero (UInt64.toNat_inj.mp hnot)
    have hflow (c : Custody) (hc : d.engine.auditedMint? c = some mint) :
        (if pot.custody.address = c.address then amount.toNat else 0) =
          (if owner = c.address then amount.toNat else 0) +
            (if pot.custody = c then amount.toNat else 0) := by
      have hheld := hbefore c mint hc
      have hholds := hafter c mint ((h.audited_eq c).trans hc)
      have hmoved := h.balance_eq c
      rw [h.received_eq] at hholds
      omega
    have howner : owner ≠ pot.custody.address := by
      intro hsame
      have hself := hflow pot.custody hpot
      simp only [hsame, if_true] at hself
      omega
    refine Or.inr ⟨fun c hc hsame => ?_, fun c hc hsame => ?_⟩
    · have hother := hflow c hc
      have hleaves : pot.custody.address ≠ c.address :=
        fun heq => howner (hsame.symm.trans heq.symm)
      rw [if_neg hleaves, if_pos hsame.symm] at hother
      omega
    · have hother := hflow c hc
      have hstays : owner ≠ c.address := fun heq => howner (heq.trans hsame)
      by_contra hne
      rw [if_pos hsame.symm, if_neg hstays, if_neg (Ne.symm hne)] at hother
      omega
  · intro hcond c m hc
    rw [h.audited_eq] at hc
    have hheld := hbefore c m hc
    rw [h.received_eq, ← hheld]
    by_cases hm : mint = m
    · subst hm
      have hmoved := h.balance_eq c
      rcases hcond with hzero | ⟨houtside, hapart⟩
      · simp only [hzero, UInt64.toNat_zero, ite_self] at hmoved
        exact hmoved
      · have hstays : owner ≠ c.address := (houtside c hc).symm
        have hsame : pot.custody.address = c.address ↔ pot.custody = c :=
          ⟨fun heq => (hapart c hc heq.symm).symm, fun heq => heq ▸ rfl⟩
        simp only [hsame, hstays, if_false] at hmoved
        omega
    · exact h.balance_of_ne hm c

/-- A claim on a deployment that passes the audit leaves one that passes it exactly if it
pays nothing, or pays out of the pot's vault alone and to none of the audited vaults.  If it
pays to the pot's own vault, the books of that are off by the amount. -/
theorem audit_after_claim_iff {foreman : Address} {params : FactoryParams} {maxLockSecs : UInt64}
    {start : Deployment} (hcreate : create foreman params maxLockSecs = .ok start)
    (run : List Operation) (hpasses : (start.afterAll run).audit = .ok ())
    (hclaim : operation.claim? = some (voter, pot))
    (hanswer : (start.afterAll run).answer operation = .ok reply) :
    ∃ lock mint amount, (start.afterAll run).escrow.lock? voter = some lock ∧
      (start.afterAll run).engine.mint? pot = some mint ∧ reply = .amount amount ∧
      (((start.afterAll run).after operation).audit = .ok () ↔
        amount = 0 ∨ (start.afterAll run).engine.Unaudited mint lock.owner ∧
          (start.afterAll run).engine.Apart mint pot) ∧
      (((start.afterAll run).after operation).tokens.balance mint pot.custody.address).toNat +
          ((start.afterAll run).after operation).engine.paidOut mint pot.custody =
        ((start.afterAll run).after operation).engine.received mint pot.custody +
          if lock.owner = pot.custody.address then amount.toNat else 0 := by
  have hsound := sound_afterAll hcreate run
  generalize start.afterAll run = d at hpasses hanswer hsound ⊢
  have hstep := step_of_perform (Operation.basic_of_claim hclaim).1 (run_of_answer hanswer)
  obtain ⟨lock, mint, amount, hlock, rfl, hpaid⟩ := hstep.paysOut hclaim
  have hvaults := hsound.audit_eq_ok_iff.mp hpasses
  refine ⟨lock, mint, amount, hlock, hpaid.mint_eq, rfl, ?_, ?_⟩
  · exact (sound_after hsound operation).audit_eq_ok_iff.trans (hpaid.vaultsHold_iff hvaults)
  · have hheld := hvaults pot.custody mint ((auditedMint?_custody ..).trans hpaid.mint_eq)
    have hmoved := hpaid.balance_eq pot.custody
    simp only [if_true] at hmoved
    rw [hpaid.received_eq]
    omega

theorem audit_after_claim_into_vault :
    (Sample.deployment.afterAll Sample.vaultOwnerRun).audit = .ok () ∧
      (Sample.deployment.afterAll Sample.vaultOwnerRun).answer
        (.claimFee none (Sample.account 4) (Sample.account 1) 1 .a) = .ok (.amount 30) ∧
      ((Sample.deployment.afterAll Sample.vaultOwnerRun).after
        (.claimFee none (Sample.account 4) (Sample.account 1) 1 .a)).audit ≠ .ok () := by
  have hpasses : (Sample.deployment.afterAll Sample.vaultOwnerRun).audit = .ok () := by
    decide +kernel
  have hanswer : (Sample.deployment.afterAll Sample.vaultOwnerRun).answer
      (.claimFee none (Sample.account 4) (Sample.account 1) 1 .a) = .ok (.amount 30) := by
    decide +kernel
  have howner : ((Sample.deployment.afterAll Sample.vaultOwnerRun).escrow.lock?
      (Sample.account 4)).map Lock.owner = some (Account.feeVault (Sample.account 1) .a) := by
    decide +kernel
  obtain ⟨lock, mint, amount, hlock, hmint, hamount, hiff, -⟩ :=
    audit_after_claim_iff Sample.create_deployment Sample.vaultOwnerRun hpasses rfl hanswer
  refine ⟨hpasses, hanswer, fun hafter => ?_⟩
  rcases hiff.mp hafter with hzero | ⟨houtside, -⟩
  · rw [hzero] at hamount
    cases hamount
  · -- The audited vault is the account that the claim pays to.
    rw [hlock] at howner
    exact houtside (.feeVault (Sample.account 1) .a)
      ((auditedMint?_custody _ (.fees (Sample.account 1) 1 .a)).trans hmint)
      (Option.some.inj howner).symm

end Deployment
end EpochVoting
