import EpochVoting.Proofs.SettlementOrder
import EpochVoting.Proofs.PoolSteps

/-!
# The supply of tokens

Tokens come into being where they are funded and where fees are earned, and nowhere else: every
other call only moves them, wherever they go to and whether it ends well or fails between two
payments (`supply_after`).  So the balances of a mint always add up to what was brought into being
in it (`tokens_conserved`).  Nothing is assumed of the accounts here: vaults may be funded, may
own locks and may bribe.
-/

namespace EpochVoting

/-! ## Single movements -/

namespace TokenLedger

variable {t t' : TokenLedger} {mint account : Address} {amount : UInt64}

/-- New tokens are added to the supply of their mint. -/
theorem supply_issue (h : t.issue mint account amount = .ok t') (m : Address) :
    t'.supply m = t.supply m + if mint = m then amount.toNat else 0 := by
  obtain ⟨total, htotal, hset⟩ := bind_eq_ok_iff.mp h
  cases hset
  rw [demand_eq_ok_iff, Amount.add?_eq_some_iff] at htotal
  have hreplaced := t.supply_setBalance mint account total m
  by_cases hmint : mint = m
  · simp only [if_pos hmint] at hreplaced ⊢
    omega
  · simpa only [if_neg hmint, Nat.add_zero] using hreplaced

/-- A sum that is capped at every step is the sum, capped once. -/
theorem toNat_foldl_addCapped (amounts : List UInt64) (start : UInt64) :
    (amounts.foldl Amount.addCapped start).toNat =
      min (start.toNat + (amounts.map UInt64.toNat).sum) Amount.greatest.toNat := by
  have hsize : UInt64.size = 2 ^ 64 := rfl
  induction amounts generalizing start with
  | nil =>
    have hbound := start.toNat_lt_size
    simp only [List.foldl_nil, List.map_nil, List.sum_nil, Amount.toNat_greatest]
    omega
  | cons amount rest ih =>
    have hstep : (Amount.addCapped start amount).toNat =
        min (start.toNat + amount.toNat) Amount.greatest.toNat := by
      unfold Amount.addCapped
      cases hsum : Amount.add? start amount with
      | none =>
        rw [Amount.add?_eq_none_iff] at hsum
        -- Here the sum is capped, and stays so.
        rw [Option.getD_none, Amount.toNat_greatest]
        omega
      | some sum =>
        have hbound := sum.toNat_lt_size
        rw [Amount.add?_eq_some_iff] at hsum
        rw [Option.getD_some, Amount.toNat_greatest]
        omega
    rw [List.foldl_cons, ih, hstep, List.map_cons, List.sum_cons, Amount.toNat_greatest]
    omega

/-- The supply that is told is exact as long as one amount can hold it. -/
theorem toNat_totalSupply (t : TokenLedger) (mint : Address) :
    (t.totalSupply mint).toNat = min (t.supply mint) Amount.greatest.toNat := by
  have hsum : (((t.balances.records.filter fun b => b.mint == mint).map Balance.amount).map
      UInt64.toNat).sum = t.supply mint := by
    rw [List.map_map, Table.sum_filter]
    exact Table.total_congr fun b _ => by simp
  rw [totalSupply, toNat_foldl_addCapped, hsum]
  simp

end TokenLedger

/-- The mint in which a gauge earns fees on a side. -/
def Registry.feeMint? (r : Registry) (target : Address) (side : FeeSide) : Option Address :=
  (r.gauges.find? target).map fun g => (g.fee side).mint

theorem Operation.Makes.issues {part operation : Operation} (h : operation.Makes part) :
    part.issues = false := by
  cases h with
  | commit hpart => cases hpart <;> rfl
  | _ => rfl

namespace Deployment

open EpochVoting.Action

variable {d d' : Deployment} {operation : Operation} {reply : Reply} {mint : Address}

/-! ## What is brought into being -/

/-- What an operation brings into being in a mint, if it succeeds. -/
def issued (mint : Address) (d : Deployment) : Operation → Nat
  | .fund m _ amount | .accruePool _ _ m amount => if m = mint then amount.toNat else 0
  | .accrueFees target side amount =>
    if d.engine.registry.feeMint? target side = some mint then amount.toNat else 0
  | _ => 0

/-- What an operation brings into being in a mint: nothing, if it fails. -/
def issuedBy (mint : Address) (d : Deployment) (operation : Operation) : Nat :=
  match d.answer operation with
  | .ok _ => d.issued mint operation
  | .error _ => 0

/-- What the operations of a run bring into being in a mint. -/
def issuedIn (mint : Address) (d : Deployment) : List Operation → Nat
  | [] => 0
  | operation :: rest => d.issuedBy mint operation + issuedIn mint (d.after operation) rest

theorem issued_of_issues (hissues : operation.issues = false) : d.issued mint operation = 0 := by
  cases operation with
  | fund | accruePool | accrueFees => cases hissues
  | _ => rfl

theorem issuedBy_of_issues (hissues : operation.issues = false) :
    d.issuedBy mint operation = 0 := by
  unfold issuedBy
  split
  · exact issued_of_issues hissues
  · rfl

theorem issues_of_several (hseveral : operation.isBasic = false) : operation.issues = false := by
  cases operation with
  | fund | accruePool | accrueFees => cases hseveral
  | _ => rfl

/-- A step changes the supply by what it brings into being. -/
theorem Step.supply_eq (h : Step d operation reply d') (mint : Address) :
    d'.tokens.supply mint = d.tokens.supply mint + d.issued mint operation := by
  by_cases hissues : operation.issues = true
  · cases h with
    | fund hissued => exact TokenLedger.supply_issue hissued mint
    | accruePool hearned =>
      exact TokenLedger.supply_issue (FeePool.accrue_eq_ok hearned).1 mint
    | accrueFees hgauge hearned =>
      simpa only [issued, Registry.feeMint?, hgauge, Option.map_some, Option.some.injEq] using
        TokenLedger.supply_issue (FeePool.accrue_eq_ok hearned).1 mint
    | _ => cases hissues
  · have hmoves := Bool.not_eq_true _ ▸ hissues
    obtain ⟨payments, -, hsettled⟩ := paymentsFor_of_step h hmoves
    rw [TokenLedger.supply_settle hsettled, issued_of_issues hmoves, Nat.add_zero]

theorem supply_after_basic (hbasic : operation.isBasic = true) (mint : Address) :
    (d.after operation).tokens.supply mint =
      d.tokens.supply mint + d.issuedBy mint operation := by
  cases hrun : (perform operation).run d with
  | ok reply d' =>
    rw [after_eq_leaves, leaves_of_ok hrun, issuedBy, answer_of_run hrun]
    exact (step_of_perform hbasic hrun).supply_eq mint
  | error error d' =>
    have hafter : d.after operation = d' := by rw [after_eq_leaves, leaves, hrun]
    rw [hafter, issuedBy, answer_of_refused hrun, Nat.add_zero]
    rcases atomic_or_interrupted hbasic hrun with rfl | hhalf
    · rfl
    · -- A capture that fails at its second payment has made the first one.
      cases hhalf with
      | capture _ _ _ _ _ _ hpaid => exact TokenLedger.supply_settle hpaid mint

/-- An operation changes the supply by what it brings into being. -/
theorem supply_after (d : Deployment) (operation : Operation) (mint : Address) :
    (d.after operation).tokens.supply mint =
      d.tokens.supply mint + d.issuedBy mint operation := by
  by_cases hbasic : operation.isBasic = true
  · exact supply_after_basic hbasic mint
  have hseveral : operation.isBasic = false := Bool.not_eq_true _ ▸ hbasic
  rw [issuedBy_of_issues (issues_of_several hseveral)]
  refine after_induction (P := fun x => x.tokens.supply mint = d.tokens.supply mint) hseveral
    (fun part hmade x hx => ?_) rfl
  rw [supply_after_basic hmade.isPart.1, issuedBy_of_issues hmade.issues]
  exact hx

/-- A run changes the supply by what its operations bring into being. -/
theorem supply_afterAll (d : Deployment) (run : List Operation) (mint : Address) :
    (d.afterAll run).tokens.supply mint = d.tokens.supply mint + d.issuedIn mint run := by
  induction run generalizing d with
  | nil => rfl
  | cons operation rest ih =>
    rw [afterAll_cons, ih, supply_after, issuedIn, Nat.add_assoc]

theorem supply_create {foreman : Address} {params : FactoryParams} {maxLockSecs : UInt64}
    (hcreate : create foreman params maxLockSecs = .ok d) (mint : Address) :
    d.tokens.supply mint = 0 := by
  obtain ⟨engine, -, hnew⟩ := bind_eq_ok_iff.mp hcreate
  cases hnew
  rfl

/-! ## Accruals -/

/-- Fees that are earned are counted by the pool and held by it. -/
theorem accrued {gauge : Address} {side : FeeSide} {amount : UInt64}
    (h : d.answer (.accrueFees gauge side amount) = .ok reply) :
    ∃ g, d.engine.registry.gauges.find? gauge = some g ∧
      ((d.after (.accrueFees gauge side amount)).pool.total gauge side).toNat =
        (d.pool.total gauge side).toNat + amount.toNat ∧
      ((d.after (.accrueFees gauge side amount)).tokens.balance (g.fee side).mint
          (Account.poolFees gauge side)).toNat =
        (d.tokens.balance (g.fee side).mint (Account.poolFees gauge side)).toNat +
          amount.toNat := by
  have hstep := step_of_perform rfl (run_of_answer h)
  generalize d.after (.accrueFees gauge side amount) = d' at hstep ⊢
  cases hstep with
  | @accrueFees _ _ _ g _ _ hgauge hearned =>
    obtain ⟨hissued, hcounted⟩ := FeePool.accrue_eq_ok hearned
    refine ⟨g, hgauge, (hcounted gauge side).trans ?_, ?_⟩
    · rw [if_pos ⟨rfl, rfl⟩]
    · rw [TokenLedger.balance_issue hissued, if_pos ⟨rfl, rfl⟩]

theorem atomic_fund {account : Address} {amount : UInt64} : Atomic (fund mint account amount) d :=
  atomic_get_bind (atomic_ofExternal_bind_set fun d tokens => { d with tokens })

theorem atomic_accrueFees {gauge : Address} {side : FeeSide} {amount : UInt64} :
    Atomic (accrueFees gauge side amount) d :=
  atomic_get_bind (atomic_lift_bind fun _ _ => atomic_accruePool)

/-- After any run from a new deployment, whatever the accounts are, the balances of a mint add up
to what was brought into being in it, and the supply that is told is that sum or the greatest
amount.  A transfer, an issue of tokens or an accrual that fails leaves everything as it was, and
an accrual that succeeds raises the pool's counter and its balance alike. -/
theorem tokens_conserved {foreman : Address} {params : FactoryParams} {maxLockSecs : UInt64}
    (hcreate : create foreman params maxLockSecs = .ok d) (run : List Operation) :
    (∀ mint, (d.afterAll run).tokens.supply mint = d.issuedIn mint run ∧
      ((d.afterAll run).tokens.totalSupply mint).toNat =
        min (d.issuedIn mint run) (2 ^ 64 - 1)) ∧
    (∀ x : Deployment,
      (∀ mint source target amount, Atomic (transfer mint source target amount) x) ∧
      (∀ mint account amount, Atomic (fund mint account amount) x) ∧
      (∀ target side mint amount, Atomic (accruePool target side mint amount) x) ∧
      ∀ gauge side amount, Atomic (accrueFees gauge side amount) x) ∧
    ∀ gauge side amount reply,
      (d.afterAll run).answer (.accrueFees gauge side amount) = .ok reply →
      ∃ g, (d.afterAll run).engine.registry.gauges.find? gauge = some g ∧
        ((d.afterAll (run ++ [.accrueFees gauge side amount])).pool.total gauge side).toNat =
          ((d.afterAll run).pool.total gauge side).toNat + amount.toNat ∧
        ((d.afterAll (run ++ [.accrueFees gauge side amount])).tokens.balance (g.fee side).mint
            (Account.poolFees gauge side)).toNat =
          ((d.afterAll run).tokens.balance (g.fee side).mint
            (Account.poolFees gauge side)).toNat + amount.toNat := by
  refine ⟨fun mint => ?_, fun x => ⟨fun _ _ _ _ => atomic_transfer .., fun _ _ _ => atomic_fund,
    fun _ _ _ _ => atomic_accruePool, fun _ _ _ => atomic_accrueFees⟩,
    fun gauge side amount reply hearned => ?_⟩
  · have hsupply : (d.afterAll run).tokens.supply mint = d.issuedIn mint run := by
      rw [supply_afterAll, supply_create hcreate, Nat.zero_add]
    refine ⟨hsupply, ?_⟩
    rw [TokenLedger.toNat_totalSupply, hsupply, Amount.toNat_greatest]
    rfl
  · rw [afterAll_append]
    exact accrued hearned

/-- A fee vault that holds the greatest amount cannot be funded further and takes no captured fees;
what is earned stays with the pool. -/
theorem tokens_conserved_with_full_vault :
    let vault := Account.feeVault (Sample.account 1) .a
    let run : List Operation := [
      .addGauge (Sample.account 1) ⟨Sample.account 2, Sample.account 3⟩,
      .fund (Sample.account 2) vault Amount.greatest, .fund (Sample.account 2) vault 1,
      .accrueFees (Sample.account 1) .a 30, .ensureEpochGauge (Sample.account 1) none]
    (Sample.deployment.afterAll run).tokens.supply (Sample.account 2) = 2 ^ 64 + 29 ∧
      ((Sample.deployment.afterAll run).tokens.totalSupply (Sample.account 2)).toNat =
        2 ^ 64 - 1 := by
  intro vault run
  have hissued : Sample.deployment.issuedIn (Sample.account 2) run = 2 ^ 64 + 29 := by
    decide +kernel
  obtain ⟨hsupply, htold⟩ :=
    (tokens_conserved Sample.create_deployment run).1 (Sample.account 2)
  rw [hissued] at hsupply htold
  exact ⟨hsupply, htold⟩

end Deployment
end EpochVoting
