import EpochVoting.Proofs.Authority
import EpochVoting.Proofs.Supply

/-!
# Who can hold tokens

Tokens are paid into the vaults and the pools, to owners of locks and to bribers, and to the
accounts that an operation names (`Step.gain`).  The owners and the bribers are such accounts
themselves.  So after any run everything is held by the accounts that were named, by the vaults
and by the pools, and in the mints that were named (`Confined.afterAll`).
-/

namespace EpochVoting

/-! ## What operations name -/

namespace Operation

/-- The accounts that may hold tokens because of an operation. -/
def payees : Operation → List Address
  | .accruePool target side _ _ => [Account.poolFees target side]
  | operation => operation.outsiders

/-- The mints that an operation names. -/
def mints : Operation → List Address
  | .createGauge _ mints | .addGauge _ mints => mints.toList
  | .createBribe _ _ mint _ _ | .fund mint _ _ | .accruePool _ _ mint _
  | .transfer mint _ _ _ => [mint]
  | _ => []

/-- An operation names no other accounts and mints. -/
structure Within (accounts mints : List Address) (operation : Operation) : Prop where
  payees : operation.payees ⊆ accounts
  mints : operation.mints ⊆ mints

variable {part operation : Operation} {accounts mints : List Address}

theorem outsiders_subset_payees (operation : Operation) :
    operation.outsiders ⊆ operation.payees := by
  cases operation with
  | accruePool => exact List.nil_subset _
  | _ => exact List.Subset.refl _

/-- The calls of an operation name nothing more. -/
theorem Makes.within (h : operation.Makes part) (hwithin : operation.Within accounts mints) :
    part.Within accounts mints := by
  have hnothing {call : Operation} (hpayees : call.payees = []) (hmints : call.mints = []) :
      call.Within accounts mints := by
    constructor
    · rw [hpayees]
      exact List.nil_subset _
    · rw [hmints]
      exact List.nil_subset _
  cases h with
  | create => exact ⟨hwithin.payees, hwithin.mints⟩
  | commit hpart => cases hpart <;> exact hnothing rfl rfl
  | _ => exact hnothing rfl rfl

end Operation

/-! ## Mints of fees -/

namespace Registry

variable {r : Registry} {g : Gauge} {target : Address}

theorem feeMint?_of_find? (hgauge : r.gauges.find? target = some g) (side : FeeSide) :
    r.feeMint? target side = some (g.fee side).mint := by
  rw [feeMint?, hgauge, Option.map_some]

/-- A gauge put in the place of one with the same mints. -/
theorem feeMint?_put_same (g' : Gauge) (hgauge : r.gauges.find? target = some g)
    (hname : g'.target = g.target) (hmint : ∀ side, (g'.fee side).mint = (g.fee side).mint)
    (other : Address) (side : FeeSide) :
    (r.put g').feeMint? other side = r.feeMint? other side := by
  obtain rfl := target_of_find? hgauge
  unfold feeMint? put
  rw [Table.find?_insert_ite]
  by_cases hother : g.target = other
  · subst hother
    simp [Keyed.key, hname, hgauge, hmint]
  · simp [Keyed.key, hname, hother]

end Registry

namespace Engine

/-- The engine deals in a mint: a gauge earns fees in it, or a bribe is made in it. -/
inductive Trades (e : Engine) : Address → Prop
  | fees {target : Address} {side : FeeSide} {mint : Address}
      (hmint : e.registry.feeMint? target side = some mint) : Trades e mint
  | reward {id : UInt64} {b : Bribe} (hbribe : e.bribes.bribes.find? id = some b) :
      Trades e b.mint

/-- What holds tokens for a gauge or a bribe keeps doing so while both are kept. -/
theorem Custodian.mono {e e' : Engine} {account : Address} (h : e.Custodian account)
    (hmints : ∀ target side mint, e.registry.feeMint? target side = some mint →
      e'.registry.feeMint? target side = some mint)
    (hbribes : e.bribes.KeepsTerms e'.bribes) : e'.Custodian account := by
  have hkept {target : Address} {g : Gauge} (hgauge : e.registry.gauges.find? target = some g) :
      ∃ g', e'.registry.gauges.find? target = some g' ∧ g'.target = g.target := by
    obtain ⟨g', hgauge', -⟩ :=
      Option.map_eq_some_iff.mp (hmints _ .a _ (Registry.feeMint?_of_find? hgauge .a))
    exact ⟨g', hgauge', (Registry.target_of_find? hgauge').trans
      (Registry.target_of_find? hgauge).symm⟩
  cases h with
  | feeVault hgauge side =>
    obtain ⟨g', hgauge', htarget⟩ := hkept hgauge
    rw [Gauge.feeVault, ← htarget]
    exact .feeVault hgauge' side
  | poolFees hgauge side =>
    obtain ⟨g', hgauge', htarget⟩ := hkept hgauge
    rw [← htarget]
    exact .poolFees hgauge' side
  | @bribeVault id b hbribe =>
    obtain ⟨claimed, clawedBack, hbribe'⟩ := hbribes id b hbribe
    have hvault : (b.withTotals claimed clawedBack).vault = b.vault := rfl
    rw [← hvault]
    exact .bribeVault hbribe'

end Engine

namespace TokenLedger

/-- An account that holds more after payments has received one of them. -/
theorem payment_of_gain {t t' : TokenLedger} {payments : List Payment} {mint account : Address}
    (h : t.settle payments = .ok t')
    (hgain : (t.balance mint account).toNat < (t'.balance mint account).toNat) :
    ∃ p ∈ payments, p.mint = mint ∧ p.target = account := by
  by_contra hnone
  have hzero : Payment.inflow payments mint account = 0 := by
    refine List.sum_eq_zero_iff.mpr fun n hn => ?_
    obtain ⟨p, hp, rfl⟩ := List.mem_map.mp hn
    exact if_neg fun hkey => hnone ⟨p, hp, hkey⟩
  have hmoved := balance_settle h mint account
  omega

/-- An account that holds more after an issue is the one it was made to. -/
theorem issued_of_gain {t t' : TokenLedger} {issued receiver mint account : Address}
    {amount : UInt64} (h : t.issue issued receiver amount = .ok t')
    (hgain : (t.balance mint account).toNat < (t'.balance mint account).toNat) :
    issued = mint ∧ receiver = account := by
  by_contra hother
  rw [balance_issue h, if_neg hother, Nat.add_zero] at hgain
  exact Nat.lt_irrefl _ hgain

end TokenLedger

namespace Deployment

open Engine EpochVoting.Action

/-- The account may be paid by the engine, as the owner of a lock or as a briber. -/
inductive Payee (d : Deployment) : Address → Prop
  | owner {voter : Address} {lock : Lock} (hlock : d.escrow.lock? voter = some lock) :
      Payee d lock.owner
  | briber {id : UInt64} {b : Bribe} (hbribe : d.engine.bribes.bribes.find? id = some b) :
      Payee d b.briber

variable {d d' : Deployment} {operation : Operation} {reply : Reply} {mint account : Address}

/-! ## Steps -/

/-- The mints of a gauge's fees are those it was registered with. -/
theorem Step.feeMint?_cases (h : Step d operation reply d') (target : Address) (side : FeeSide) :
    d'.engine.registry.feeMint? target side = d.engine.registry.feeMint? target side ∨
      d.engine.registry.feeMint? target side = none ∧ ∃ mints,
        operation = .createGauge target mints ∧
          d'.engine.registry.feeMint? target side = some (mints.get side) := by
  by_cases hwrites : Book.registry ∈ operation.writes
  case neg =>
    have hsame : d'.engine.registry = d.engine.registry := h.keeps .registry hwrites
    exact Or.inl (by rw [hsame])
  case pos =>
    -- Only the registration chooses mints; the other calls put back a gauge with the same ones.
    cases h with
    | @createGauge new mints engine hcall =>
      obtain ⟨hnone, rfl⟩ := createGauge_eq_ok_iff.mp hcall
      by_cases hnew : new = target
      · subst hnew
        refine Or.inr ⟨by rw [Registry.feeMint?, hnone, Option.map_none], mints, rfl, ?_⟩
        have hstarts := Registry.feeMint?_of_find?
          (r := d.engine.registry.put (.starting new mints (d.pool.totals new)))
          (Table.find?_insert_self ..) side
        rw [Gauge.fee_starting] at hstarts
        exact hstarts
      · left
        simp only [Registry.feeMint?, Registry.put, Table.find?_insert_ite]
        simp [Keyed.key, Gauge.starting, hnew]
    | @setGaugeEnabled authority other enabled changed engine hcall =>
      obtain ⟨g, hgauge, rfl⟩ := setGaugeEnabled_eq_ok hcall
      exact Or.inl (Registry.feeMint?_put_same { g with enabled } hgauge rfl
        (fun _ => rfl) target side)
    | @captured other epoch g capture _ _ hgauge =>
      exact Or.inl (Registry.feeMint?_put_same (capture.apply g) hgauge FeeCapture.apply_target
        (fun s => by rw [FeeCapture.fee_apply]) target side)
    | @cleaned _ _ g _ pruned _ _ _ hgauge =>
      exact Or.inl (Registry.feeMint?_put_same (g.setPruned pruned) hgauge rfl
        (fun s => by simp) target side)
    | @feePaid _ _ _ _ _ _ g _ _ claim _ _ _ _ hgauge =>
      refine Or.inl (Registry.feeMint?_put_same (claim.applyToGauge g) hgauge rfl
        (fun s => ?_) target side)
      by_cases hside : claim.side = s
      · subst hside
        simp [FeeClaim.fee_applyToGauge_self]
      · simp [FeeClaim.fee_applyToGauge_of_ne hside]
    | foundEpochGauge | unvotedFee => exact Or.inl rfl
    | _ => simp [Operation.writes] at hwrites

/-- A bribe keeps its briber and its mint. -/
theorem Step.bribe_cases (h : Step d operation reply d') {id : UInt64} {b' : Bribe}
    (hbribe : d'.engine.bribes.bribes.find? id = some b') :
    (∃ b, d.engine.bribes.bribes.find? id = some b ∧ b'.briber = b.briber ∧ b'.mint = b.mint) ∨
      ∃ gauge reward epochEnd,
        operation = .createBribe b'.briber gauge b'.mint reward epochEnd := by
  by_cases hwrites : Book.bribes ∈ operation.writes
  case neg =>
    have hsame : d'.engine.bribes = d.engine.bribes := h.keeps .bribes hwrites
    rw [hsame] at hbribe
    exact Or.inl ⟨b', hbribe, rfl, rfl⟩
  case pos =>
    -- Claims and clawbacks write the totals of a bribe and nothing else.
    have hrewritten {b : Bribe} {claimed clawedBack : UInt64}
        (hold : d.engine.bribes.bribes.find? b.id = some b)
        (hnew : d'.engine.bribes.bribes =
          d.engine.bribes.bribes.insert (b.withTotals claimed clawedBack)) :
        ∃ b, d.engine.bribes.bribes.find? id = some b ∧ b'.briber = b.briber ∧
          b'.mint = b.mint := by
      rw [hnew, Table.find?_insert_ite] at hbribe
      by_cases hkey : b.id = id
      · cases (if_pos hkey).symm.trans hbribe
        exact ⟨b, hkey ▸ hold, rfl, rfl⟩
      · exact ⟨b', (if_neg hkey).symm.trans hbribe, rfl, rfl⟩
    cases h with
    | @bribeCreated briber target mint reward epochEnd g new b _ _ _ _ hprepared =>
      obtain ⟨rfl, -⟩ := Bribe.prepare_eq_ok_iff.mp hprepared
      replace hbribe := (Table.find?_insert_ite ..).symm.trans hbribe
      by_cases hkey : new = id
      · cases (if_pos hkey).symm.trans hbribe
        exact Or.inr ⟨target, reward, epochEnd, rfl⟩
      · exact Or.inl ⟨b', (if_neg hkey).symm.trans hbribe, rfl, rfl⟩
    | bribePaid _ _ _ hpaid hclaim _ hrecorded =>
      obtain rfl := BribeLedger.id_of_find? hpaid
      obtain ⟨-, hid, -⟩ := (BribeLedger.checkClaim_eq_ok_iff hpaid).mp hclaim
      obtain ⟨total, -, rfl⟩ := (BribeLedger.recordClaim_eq_ok_iff (hid ▸ hpaid)).mp hrecorded
      exact Or.inl (hrewritten hpaid rfl)
    | bribeReturned _ hpaid hclawback _ hrecorded =>
      obtain rfl := BribeLedger.id_of_find? hpaid
      obtain ⟨rfl, -⟩ := (BribeLedger.checkClawback_eq_ok_iff hpaid).mp hclawback
      obtain ⟨total, -, rfl⟩ := (BribeLedger.recordClawback_eq_ok_iff hpaid).mp hrecorded
      exact Or.inl (hrewritten hpaid rfl)
    | _ => simp [Operation.writes] at hwrites

/-- A lock keeps its owner, unless the operation names another one. -/
theorem Step.owner_cases (h : Step d operation reply d') {voter : Address} {lock' : Lock}
    (hlock : d'.escrow.lock? voter = some lock') :
    (∃ lock, d.escrow.lock? voter = some lock ∧ lock'.owner = lock.owner) ∨
      lock'.owner ∈ operation.outsiders := by
  -- A lock that is written keeps the owner it had, or has one that the operation names.
  have hput {written : Lock}
      (hwritten : (∃ old, d.escrow.lock? written.voter = some old ∧ written.owner = old.owner) ∨
        written.owner ∈ operation.outsiders)
      (hfound : (d.escrow.locks.insert written).find? voter = some lock') :
      (∃ lock, d.escrow.lock? voter = some lock ∧ lock'.owner = lock.owner) ∨
        lock'.owner ∈ operation.outsiders := by
    rw [Table.find?_insert_ite] at hfound
    by_cases hkey : written.voter = voter
    · cases (if_pos hkey).symm.trans hfound
      rwa [hkey] at hwritten
    · exact Or.inl ⟨lock', (if_neg hkey).symm.trans hfound, rfl⟩
  have hname {voter : Address} {old : Lock} (hold : d.escrow.lock? voter = some old) :
      old.voter = voter := Table.key_of_find? hold
  cases h with
  | @lock owner amount unlockAt =>
    refine hput ?_ hlock
    cases hold : d.escrow.lock? owner with
    | none => exact Or.inr List.mem_cons_self
    | some old =>
      have hfound : d.escrow.lock? old.voter = some old := (hname hold).symm ▸ hold
      exact Or.inl ⟨old, hfound, rfl⟩
  | @unlock owner =>
    unfold Escrow.unlock Escrow.lock? at hlock
    rw [Table.find?_erase_ite] at hlock
    split at hlock
    · cases hlock
    · exact Or.inl ⟨lock', hlock, rfl⟩
  | @setDelegate owner delegate =>
    unfold Escrow.setDelegate at hlock
    cases hold : d.escrow.lock? owner with
    | none =>
      simp only [hold] at hlock
      exact Or.inl ⟨lock', hlock, rfl⟩
    | some old =>
      simp only [hold] at hlock
      have hfound : d.escrow.lock? old.voter = some old := (hname hold).symm ▸ hold
      exact @hput { old with delegate } (Or.inl ⟨old, hfound, rfl⟩) hlock
  | @setOwner voter' owner =>
    unfold Escrow.setOwner at hlock
    cases hold : d.escrow.lock? voter' with
    | none =>
      simp only [hold] at hlock
      exact Or.inl ⟨lock', hlock, rfl⟩
    | some old =>
      simp only [hold] at hlock
      exact @hput { old with owner } (Or.inr List.mem_cons_self) hlock
  | _ => exact Or.inl ⟨lock', hlock, rfl⟩

theorem Step.payee_cases (h : Step d operation reply d') (hpayee : d'.Payee account) :
    d.Payee account ∨ account ∈ operation.outsiders := by
  cases hpayee with
  | owner hlock =>
    rcases h.owner_cases hlock with ⟨lock, hold, howner⟩ | hnamed
    · exact Or.inl (howner ▸ .owner hold)
    · exact Or.inr hnamed
  | briber hbribe =>
    rcases h.bribe_cases hbribe with ⟨b, hold, hbriber, -⟩ | ⟨_, _, _, rfl⟩
    · exact Or.inl (hbriber ▸ .briber hold)
    · exact Or.inr List.mem_cons_self

theorem Step.trades_cases (h : Step d operation reply d') (htrades : d'.engine.Trades mint) :
    d.engine.Trades mint ∨ mint ∈ operation.mints := by
  cases htrades with
  | @fees target side _ hmint =>
    rcases h.feeMint?_cases target side with hsame | ⟨-, mints, rfl, hnew⟩
    · exact Or.inl (.fees (hsame ▸ hmint))
    · rw [hnew] at hmint
      cases hmint
      refine Or.inr ?_
      cases side <;> simp [Operation.mints, PerSide.toList, PerSide.get]
  | reward hbribe =>
    rcases h.bribe_cases hbribe with ⟨b, hold, -, hmint⟩ | ⟨_, _, _, rfl⟩
    · exact Or.inl (hmint ▸ .reward hold)
    · exact Or.inr List.mem_cons_self

/-- Tokens come to an account as to a vault or a pool, as to an owner or a briber, or because the
operation names the account. -/
theorem Step.gain (h : Step d operation reply d')
    (hgain : (d.tokens.balance mint account).toNat < (d'.tokens.balance mint account).toNat) :
    (d.engine.Custodian account ∨ d'.engine.Custodian account ∨ d.Payee account ∨
        account ∈ operation.payees) ∧
      (d.engine.Trades mint ∨ mint ∈ operation.mints) := by
  cases h with
  | @captured target epoch g capture tokens _ hgauge _ _ _ hpaid =>
    obtain ⟨p, hp, hmint, rfl⟩ := TokenLedger.payment_of_gain hpaid hgain
    have hside : ∃ side, p = capture.payment g side := by
      rcases List.mem_append.mp hp with hp | hp
      · exact ⟨.a, Payment.mem_due hp⟩
      · exact ⟨.b, Payment.mem_due hp⟩
    obtain ⟨side, rfl⟩ := hside
    cases hmint
    exact ⟨Or.inl (.feeVault hgauge side), Or.inl (.fees (Registry.feeMint?_of_find? hgauge side))⟩
  | @feePaid _ _ target _ _ lock g _ _ claim _ hlock _ _ hgauge _ _ _ hpaid =>
    obtain ⟨p, hp, hmint, rfl⟩ := TokenLedger.payment_of_gain hpaid hgain
    rw [Payment.mem_due hp] at hmint ⊢
    cases hmint
    exact ⟨Or.inr (Or.inr (Or.inl (.owner hlock))),
      Or.inl (.fees (Registry.feeMint?_of_find? hgauge claim.side))⟩
  | @bribeCreated briber target mint' reward epochEnd g id b escrowed tokens _ _ hbribe _ hpaid =>
    obtain ⟨p, hp, hmint, rfl⟩ := TokenLedger.payment_of_gain hpaid hgain
    rw [List.mem_singleton.mp hp] at hmint ⊢
    -- The vault belongs to the bribe that this call creates.
    have hvault : (d.engine.recordBribe b).Custodian b.vault :=
      .bribeVault (Table.find?_insert_self ..)
    obtain ⟨rfl, -⟩ := Bribe.prepare_eq_ok_iff.mp hbribe
    cases hmint
    exact ⟨Or.inr (Or.inl hvault), Or.inr List.mem_cons_self⟩
  | @bribePaid _ _ id _ lock b _ _ _ hlock _ _ hbribe _ hpaid _ =>
    obtain ⟨p, hp, hmint, rfl⟩ := TokenLedger.payment_of_gain hpaid hgain
    rw [Payment.mem_due hp] at hmint ⊢
    cases hmint
    exact ⟨Or.inr (Or.inr (Or.inl (.owner hlock))), Or.inl (.reward hbribe)⟩
  | @bribeReturned _ id _ b _ _ _ _ hbribe _ hpaid _ =>
    obtain ⟨p, hp, hmint, rfl⟩ := TokenLedger.payment_of_gain hpaid hgain
    rw [List.mem_singleton.mp hp] at hmint ⊢
    cases hmint
    exact ⟨Or.inr (Or.inr (Or.inl (.briber hbribe))), Or.inl (.reward hbribe)⟩
  | @accrueFees target side _ g _ _ hgauge hearned =>
    obtain ⟨rfl, rfl⟩ := TokenLedger.issued_of_gain (FeePool.accrue_eq_ok hearned).1 hgain
    obtain rfl := Registry.target_of_find? hgauge
    exact ⟨Or.inl (.poolFees hgauge side), Or.inl (.fees (Registry.feeMint?_of_find? hgauge side))⟩
  | accruePool hearned =>
    obtain ⟨rfl, rfl⟩ := TokenLedger.issued_of_gain (FeePool.accrue_eq_ok hearned).1 hgain
    exact ⟨Or.inr (Or.inr (Or.inr List.mem_cons_self)), Or.inr List.mem_cons_self⟩
  | fund hissued =>
    obtain ⟨rfl, rfl⟩ := TokenLedger.issued_of_gain hissued hgain
    exact ⟨Or.inr (Or.inr (Or.inr List.mem_cons_self)), Or.inr List.mem_cons_self⟩
  | @transfer _ source _ _ _ hmoved =>
    obtain ⟨p, hp, hmint, rfl⟩ := TokenLedger.payment_of_gain
      (TokenLedger.settle_singleton (p := ⟨_, _, _, _⟩).mpr hmoved) hgain
    rw [List.mem_singleton.mp hp] at hmint ⊢
    cases hmint
    exact ⟨Or.inr (Or.inr (Or.inr (List.mem_cons_of_mem _ List.mem_cons_self))),
      Or.inr List.mem_cons_self⟩
  | _ => exact absurd hgain (Nat.lt_irrefl _)

/-! ## Runs -/

/-- The mint of a gauge's fees stays what it is. -/
theorem feeMint?_afterAll (run : List Operation) {target : Address} {side : FeeSide}
    (h : d.engine.registry.feeMint? target side = some mint) :
    (d.afterAll run).engine.registry.feeMint? target side = some mint := by
  refine afterAll_induction (P := fun x => x.engine.registry.feeMint? target side = some mint)
    (fun call hbasic x hx => ?_) run h
  rcases engine_after_cases (d := x) hbasic with hsame | ⟨_, hstep⟩
  · rwa [hsame]
  · rcases hstep.feeMint?_cases target side with hsame | ⟨hnone, -⟩
    · rwa [hsame]
    · rw [hnone] at hx
      cases hx

/-- What holds tokens for a gauge or a bribe holds them for good. -/
theorem custodian_afterAll (hsound : d.engine.Sound) (run : List Operation)
    (h : d.engine.Custodian account) : (d.afterAll run).engine.Custodian account :=
  h.mono (fun _ _ _ => feeMint?_afterAll run) (keepsTerms_afterAll hsound run)

/-- The accounts and the mints are all there are, but for the vaults and the pools. -/
structure Confined (accounts mints : List Address) (d : Deployment) : Prop where
  payees : ∀ account, d.Payee account → account ∈ accounts
  trades : ∀ mint, d.engine.Trades mint → mint ∈ mints
  balances : ∀ mint account, d.tokens.balance mint account ≠ 0 →
    mint ∈ mints ∧ (account ∈ accounts ∨ d.engine.Custodian account)

variable {accounts mints : List Address}

theorem confined_create {foreman : Address} {params : FactoryParams} {maxLockSecs : UInt64}
    (hcreate : create foreman params maxLockSecs = .ok d) : Confined accounts mints d := by
  obtain ⟨engine, hengine, heq⟩ := bind_eq_ok_iff.mp hcreate
  cases heq
  obtain ⟨factory, hfactory, heq⟩ := bind_eq_ok_iff.mp hengine
  cases heq
  refine ⟨fun _ h => ?_, fun _ h => ?_, fun _ _ h => absurd rfl h⟩
  · cases h with
    | owner hlock => cases hlock
    | briber hbribe => cases hbribe
  · cases h with
    | fees hmint => cases hmint
    | reward hbribe => cases hbribe

/-- Balances that rise only where they may. -/
theorem Confined.balances_of_gain (h : Confined accounts mints d)
    (hcustodian : ∀ account, d.engine.Custodian account → d'.engine.Custodian account)
    (hgain : ∀ mint account,
      (d.tokens.balance mint account).toNat < (d'.tokens.balance mint account).toNat →
      mint ∈ mints ∧ (account ∈ accounts ∨ d'.engine.Custodian account)) :
    ∀ mint account, d'.tokens.balance mint account ≠ 0 →
      mint ∈ mints ∧ (account ∈ accounts ∨ d'.engine.Custodian account) := by
  intro mint account hholds
  by_cases hheld : d.tokens.balance mint account = 0
  · refine hgain mint account ?_
    rw [Ne, ← UInt64.toNat_inj] at hholds
    rw [hheld]
    exact Nat.pos_of_ne_zero hholds
  · obtain ⟨hmint, haccount⟩ := h.balances mint account hheld
    exact ⟨hmint, haccount.imp_right (hcustodian account)⟩

/-- A basic operation keeps to the accounts and the mints that it names. -/
theorem Confined.after_basic (h : Confined accounts mints d) (hsound : d.engine.Sound)
    (hbasic : operation.isBasic = true) (hwithin : operation.Within accounts mints) :
    Confined accounts mints (d.after operation) := by
  have hcustodian (account : Address) (hheld : d.engine.Custodian account) :
      (d.after operation).engine.Custodian account :=
    custodian_afterAll hsound [operation] hheld
  rcases after_cases (d := d) hbasic with hsame | ⟨_, hstep⟩ | ⟨_, hhalf⟩
  · rwa [hsame]
  · refine ⟨fun account hpayee => ?_, fun mint htrades => ?_,
      h.balances_of_gain hcustodian fun mint account hgain => ?_⟩
    · rcases hstep.payee_cases hpayee with hold | hnamed
      · exact h.payees account hold
      · exact hwithin.payees (operation.outsiders_subset_payees hnamed)
    · rcases hstep.trades_cases htrades with hold | hnamed
      · exact h.trades mint hold
      · exact hwithin.mints hnamed
    · obtain ⟨haccount, hmint⟩ := hstep.gain hgain
      refine ⟨hmint.elim (h.trades mint) (hwithin.mints ·), ?_⟩
      rcases haccount with hheld | hheld | hpayee | hnamed
      · exact Or.inr (hcustodian account hheld)
      · exact Or.inr hheld
      · exact Or.inl (h.payees account hpayee)
      · exact Or.inl (hwithin.payees hnamed)
  · -- Half a capture pays into the fee vault of a gauge.
    generalize d.after operation = d' at hhalf hcustodian ⊢
    cases hhalf with
    | capture _ hgauge _ _ _ _ hpaid =>
      refine ⟨fun account hpayee => h.payees account ?_, h.trades,
        h.balances_of_gain hcustodian fun mint account hgain => ?_⟩
      · cases hpayee with
        | owner hlock => exact .owner hlock
        | briber hbribe => exact .briber hbribe
      obtain ⟨p, hp, hmint, rfl⟩ := TokenLedger.payment_of_gain hpaid hgain
      rw [Payment.mem_due hp] at hmint ⊢
      cases hmint
      exact ⟨h.trades _ (.fees (Registry.feeMint?_of_find? hgauge .a)),
        Or.inr (.feeVault hgauge .a)⟩

/-- A run keeps to the accounts and the mints that its operations name. -/
theorem Confined.afterAll (h : Confined accounts mints d) (hsound : d.engine.Sound)
    {run : List Operation} (hrun : ∀ operation ∈ run, operation.Within accounts mints) :
    Confined accounts mints (d.afterAll run) := by
  induction run generalizing d with
  | nil => exact h
  | cons operation rest ih =>
    obtain ⟨hfirst, hrest⟩ := List.forall_mem_cons.mp hrun
    refine ih ?_ (sound_after hsound operation) hrest
    by_cases hbasic : operation.isBasic = true
    · exact h.after_basic hsound hbasic hfirst
    · refine (after_induction (P := fun x => x.engine.Sound ∧ Confined accounts mints x)
        (Bool.not_eq_true _ ▸ hbasic) (fun part hmade x hx => ?_) ⟨hsound, h⟩).2
      exact ⟨sound_after hx.1 part, hx.2.after_basic hx.1 hmade.isPart.1 (hmade.within hfirst)⟩

end Deployment
end EpochVoting
