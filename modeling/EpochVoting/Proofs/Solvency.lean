import EpochVoting.Proofs.Vaults

/-!
# The vaults hold what the books say

What a vault has received and what it has paid out can be read off the books: a fee
vault by its gauge's counters, a bribe vault by the bribe's escrow and totals.  A step
moves the balance of a vault by exactly what it adds to these (`Step.conserves`).  So a
vault that once held what it received less what it paid always does, and then no capture
is ever interrupted: a fee vault can take what its counter can count.
-/

namespace EpochVoting

/-- A number of each side of a gauge, at the fee vault of that side and in its mint. -/
def Custody.ofGauge (c : Custody) (g : Gauge) (mint : Address) (amount : FeeSide → Nat) : Nat :=
  match c with
  | .feeVault target side =>
    if g.target = target ∧ (g.fee side).mint = mint then amount side else 0
  | _ => 0

theorem Custody.ofGauge_feeVault (g : Gauge) (mint target : Address) (side : FeeSide)
    (amount : FeeSide → Nat) :
    (feeVault target side).ofGauge g mint amount =
      if g.target = target ∧ (g.fee side).mint = mint then amount side else 0 :=
  rfl

theorem Custody.ofGauge_zero (c : Custody) (g : Gauge) (mint : Address) :
    (c.ofGauge g mint fun _ => 0) = 0 := by
  cases c with
  | feeVault target side => exact ite_self 0
  | poolFees target side => rfl
  | bribeVault id => rfl

/-- A number of one side only. -/
theorem Custody.ofGauge_side (c : Custody) (g : Gauge) (mint : Address) (side : FeeSide)
    (amount : Nat) :
    (c.ofGauge g mint fun s => if side = s then amount else 0) =
      if (g.fee side).mint = mint ∧ .feeVault g.target side = c then amount else 0 := by
  cases c with
  | poolFees target' side' =>
    rw [if_neg fun hkey => by cases hkey.2]
    rfl
  | bribeVault id =>
    rw [if_neg fun hkey => by cases hkey.2]
    rfl
  | feeVault target' side' =>
    rw [Custody.ofGauge_feeVault]
    by_cases hside : side = side'
    · subst hside
      simp only [Custody.feeVault.injEq, and_true, if_true]
      exact if_congr and_comm rfl rfl
    · simp only [Custody.feeVault.injEq, hside, and_false, if_false, ite_self]

/-- What is paid at the fee vault of one side. -/
theorem Custody.ofGauge_single {S : Set Custody} (hS : Set.InjOn Custody.address S)
    {c : Custody} (hc : c ∈ S) {g : Gauge} (hg : ∀ side, Custody.feeVault g.target side ∈ S)
    (mint : Address) (side : FeeSide) (amount : Nat) :
    (if (g.fee side).mint = mint ∧ g.feeVault side = c.address then amount else 0) =
      c.ofGauge g mint fun s => if side = s then amount else 0 := by
  -- Within `S` an account is known by its address.
  have haddress : g.feeVault side = c.address ↔ Custody.feeVault g.target side = c :=
    hS.eq_iff (hg side) hc
  rw [Custody.ofGauge_side]
  simp only [haddress]

theorem Custody.ofGauge_add (c : Custody) (g : Gauge) (mint : Address)
    (f h : FeeSide → Nat) :
    c.ofGauge g mint f + c.ofGauge g mint h = c.ofGauge g mint fun side => f side + h side := by
  cases c with
  | poolFees target side => rfl
  | bribeVault id => rfl
  | feeVault target side =>
    simp only [Custody.ofGauge_feeVault]
    split <;> rfl

namespace Engine

/-- What a vault has received of a mint. -/
def received (e : Engine) (mint : Address) : Custody → Nat
  | .feeVault target side => (e.registry.gauges.find? target).elim 0 fun g =>
    if (g.fee side).mint = mint then (g.fee side).cumulativeAccrued.toNat else 0
  | .poolFees _ _ => 0
  | .bribeVault id => (e.bribes.bribes.find? id).elim 0 fun b =>
    if b.mint = mint then b.rewardPerEpoch.toNat * b.numEpochs.toNat else 0

/-- What a vault has paid out of a mint. -/
def paidOut (e : Engine) (mint : Address) : Custody → Nat
  | .feeVault target side => (e.registry.gauges.find? target).elim 0 fun g =>
    if (g.fee side).mint = mint then (g.fee side).cumulativeClaimed.toNat else 0
  | .poolFees _ _ => 0
  | .bribeVault id => (e.bribes.bribes.find? id).elim 0 fun b =>
    if b.mint = mint then b.claimedAmount.toNat + b.clawedBackAmount.toNat else 0

variable {e e' : Engine} {mint : Address} {c : Custody}

theorem received_feeVault (target : Address) (side : FeeSide) :
    e.received mint (.feeVault target side) = (e.registry.gauges.find? target).elim 0 fun g =>
      if (g.fee side).mint = mint then (g.fee side).cumulativeAccrued.toNat else 0 :=
  rfl

theorem paidOut_feeVault (target : Address) (side : FeeSide) :
    e.paidOut mint (.feeVault target side) = (e.registry.gauges.find? target).elim 0 fun g =>
      if (g.fee side).mint = mint then (g.fee side).cumulativeClaimed.toNat else 0 :=
  rfl

theorem received_bribeVault (id : UInt64) :
    e.received mint (.bribeVault id) = (e.bribes.bribes.find? id).elim 0 fun b =>
      if b.mint = mint then b.rewardPerEpoch.toNat * b.numEpochs.toNat else 0 :=
  rfl

theorem paidOut_bribeVault (id : UInt64) :
    e.paidOut mint (.bribeVault id) = (e.bribes.bribes.find? id).elim 0 fun b =>
      if b.mint = mint then b.claimedAmount.toNat + b.clawedBackAmount.toNat else 0 :=
  rfl

theorem SameBooks.received_eq (h : e.SameBooks e') : e'.received mint c = e.received mint c := by
  unfold received
  rw [h.registry, h.bribes]

theorem SameBooks.paidOut_eq (h : e.SameBooks e') : e'.paidOut mint c = e.paidOut mint c := by
  unfold paidOut
  rw [h.registry, h.bribes]

/-! ## What a write of a gauge or a bribe moves -/

/-- The numbers of the fee vaults when a gauge is put in place of another. -/
theorem books_of_putGauge (e e' : Engine) {g g' : Gauge} (incoming outgoing : FeeSide → Nat)
    (hbribes : e'.bribes = e.bribes) (hregistry : e'.registry = e.registry.put g')
    (hname : g'.target = g.target) (hg : e.registry.gauges.find? g.target = some g)
    (hmint : ∀ side, (g'.fee side).mint = (g.fee side).mint)
    (hin : ∀ side, (g'.fee side).cumulativeAccrued.toNat =
      (g.fee side).cumulativeAccrued.toNat + incoming side)
    (hout : ∀ side, (g'.fee side).cumulativeClaimed.toNat =
      (g.fee side).cumulativeClaimed.toNat + outgoing side) (mint : Address) (c : Custody) :
    e'.received mint c = e.received mint c + c.ofGauge g mint incoming ∧
      e'.paidOut mint c = e.paidOut mint c + c.ofGauge g mint outgoing := by
  cases c with
  | poolFees target side => exact ⟨rfl, rfl⟩
  | bribeVault id =>
    rw [received_bribeVault, paidOut_bribeVault, hbribes]
    exact ⟨rfl, rfl⟩
  | feeVault target side =>
    have hfind : e'.registry.gauges.find? target =
        if g.target = target then some g' else e.registry.gauges.find? target := by
      rw [hregistry, ← hname]
      exact Table.find?_insert_ite ..
    simp only [received_feeVault, paidOut_feeVault, Custody.ofGauge_feeVault, hfind]
    by_cases htarget : g.target = target
    · subst htarget
      simp only [hg, if_true, Option.elim_some, hmint, true_and]
      by_cases hpaid : (g.fee side).mint = mint
      · simp only [if_pos hpaid]
        exact ⟨hin side, hout side⟩
      · simp only [if_neg hpaid, and_self]
    · simp only [htarget, false_and, if_false, Nat.add_zero, and_self]

/-- The numbers of the fee vaults when a claim is recorded: the claim writes the counter of
its own side only. -/
theorem books_of_feeClaim (e : Engine) {g : Gauge} {s : Snapshot} {claim : FeeClaim}
    (hg : e.registry.gauges.find? g.target = some g)
    (htotal : claim.cumulativeClaimed.toNat =
      (g.fee claim.side).cumulativeClaimed.toNat + claim.share.toNat) (mint : Address)
    (c : Custody) :
    (e.recordFeeClaim g s claim).received mint c = e.received mint c ∧
      (e.recordFeeClaim g s claim).paidOut mint c = e.paidOut mint c +
        c.ofGauge g mint fun side => if claim.side = side then claim.share.toNat else 0 := by
  have hfee (side : FeeSide) : ((claim.applyToGauge g).fee side).mint = (g.fee side).mint ∧
      ((claim.applyToGauge g).fee side).cumulativeAccrued = (g.fee side).cumulativeAccrued ∧
      ((claim.applyToGauge g).fee side).cumulativeClaimed.toNat =
        (g.fee side).cumulativeClaimed.toNat +
          if claim.side = side then claim.share.toNat else 0 := by
    by_cases hside : claim.side = side
    · subst hside
      rw [FeeClaim.fee_applyToGauge_self, if_pos rfl]
      exact ⟨rfl, rfl, htotal⟩
    · rw [FeeClaim.fee_applyToGauge_of_ne hside, if_neg hside]
      exact ⟨rfl, rfl, rfl⟩
  have hbooks := books_of_putGauge e (e.recordFeeClaim g s claim) (fun _ => 0)
    (fun side => if claim.side = side then claim.share.toNat else 0) rfl rfl
    FeeClaim.applyToGauge_target hg (fun side => (hfee side).1)
    (fun side => by rw [(hfee side).2.1]; rfl) (fun side => (hfee side).2.2) mint c
  rw [Custody.ofGauge_zero] at hbooks
  exact hbooks

/-- The numbers of a bribe vault when the bribe's totals are written. -/
theorem books_of_putBribe (e e' : Engine) {b : Bribe} {claimed clawedBack : UInt64} {outgoing : Nat}
    (hregistry : e'.registry = e.registry)
    (hbribes : e'.bribes.bribes = e.bribes.bribes.insert (b.withTotals claimed clawedBack))
    (hb : e.bribes.bribes.find? b.id = some b)
    (hout : claimed.toNat + clawedBack.toNat =
      b.claimedAmount.toNat + b.clawedBackAmount.toNat + outgoing) (mint : Address)
    (c : Custody) :
    e'.received mint c = e.received mint c ∧
      e'.paidOut mint c = e.paidOut mint c +
        if b.mint = mint ∧ .bribeVault b.id = c then outgoing else 0 := by
  cases c with
  | poolFees target side =>
    rw [if_neg fun hkey => by cases hkey.2]
    exact ⟨rfl, rfl⟩
  | feeVault target side =>
    rw [received_feeVault, paidOut_feeVault, hregistry, if_neg fun hkey => by cases hkey.2]
    exact ⟨rfl, rfl⟩
  | bribeVault id =>
    have hfind : e'.bribes.bribes.find? id =
        if b.id = id then some (b.withTotals claimed clawedBack)
        else e.bribes.bribes.find? id := by
      rw [hbribes]
      exact Table.find?_insert_ite ..
    simp only [received_bribeVault, paidOut_bribeVault, hfind, Custody.bribeVault.injEq]
    by_cases hid : b.id = id
    · subst hid
      simp only [hb, if_true, Option.elim_some, and_true]
      refine ⟨rfl, ?_⟩
      show (if b.mint = mint then claimed.toNat + clawedBack.toNat else 0) = _
      by_cases hmint : b.mint = mint
      · simp only [if_pos hmint]
        exact hout
      · simp only [if_neg hmint]
    · simp only [hid, and_false, if_false, Nat.add_zero, and_self]

/-- The numbers of the vaults when a gauge is registered. -/
theorem books_of_newGauge (e e' : Engine) {target : Address} {mints : PerSide Address}
    {totals : PerSide UInt64} (hbribes : e'.bribes = e.bribes)
    (hregistry : e'.registry = e.registry.put (.starting target mints totals))
    (hnone : e.registry.gauges.find? target = none) (mint : Address) (c : Custody) :
    e'.received mint c = e.received mint c ∧ e'.paidOut mint c = e.paidOut mint c := by
  cases c with
  | poolFees target side => exact ⟨rfl, rfl⟩
  | bribeVault id =>
    rw [received_bribeVault, paidOut_bribeVault, hbribes]
    exact ⟨rfl, rfl⟩
  | feeVault target' side =>
    have hfind : e'.registry.gauges.find? target' =
        if target = target' then some (.starting target mints totals)
        else e.registry.gauges.find? target' := by
      rw [hregistry]
      exact Table.find?_insert_ite ..
    simp only [received_feeVault, paidOut_feeVault, hfind]
    by_cases htarget : target = target'
    · subst htarget
      simp only [hnone, if_true, Option.elim_some, Option.elim_none, Gauge.fee_starting]
      exact ⟨ite_self 0, ite_self 0⟩
    · simp only [htarget, if_false, and_self]

/-- The numbers of the vaults when a bribe is added. -/
theorem books_of_newBribe (e e' : Engine) {b : Bribe} (hregistry : e'.registry = e.registry)
    (hbribes : e'.bribes.bribes = e.bribes.bribes.insert b)
    (hnone : e.bribes.bribes.find? b.id = none) (hclaimed : b.claimedAmount = 0)
    (hclawedBack : b.clawedBackAmount = 0) (mint : Address) (c : Custody) :
    e'.received mint c = e.received mint c +
        (if b.mint = mint ∧ .bribeVault b.id = c then
          b.rewardPerEpoch.toNat * b.numEpochs.toNat else 0) ∧
      e'.paidOut mint c = e.paidOut mint c := by
  cases c with
  | poolFees target side =>
    rw [if_neg fun hkey => by cases hkey.2]
    exact ⟨rfl, rfl⟩
  | feeVault target side =>
    rw [received_feeVault, paidOut_feeVault, hregistry, if_neg fun hkey => by cases hkey.2]
    exact ⟨rfl, rfl⟩
  | bribeVault id =>
    have hfind : e'.bribes.bribes.find? id =
        if b.id = id then some b else e.bribes.bribes.find? id := by
      rw [hbribes]
      exact Table.find?_insert_ite ..
    simp only [received_bribeVault, paidOut_bribeVault, hfind, Custody.bribeVault.injEq]
    by_cases hid : b.id = id
    · subst hid
      simp only [hnone, if_true, Option.elim_some, Option.elim_none, and_true, Nat.zero_add,
        hclaimed, hclawedBack]
      exact ⟨trivial, ite_self 0⟩
    · simp only [hid, and_false, if_false, Nat.add_zero, and_self]

end Engine

namespace Deployment

open Engine

variable {S : Set Custody} {d d' : Deployment}

/-- Between two deployments the balance of every vault moves as the books do. -/
def Conserves (S : Set Custody) (d d' : Deployment) : Prop :=
  ∀ c ∈ S, c.isVault = true → ∀ mint,
    (d'.tokens.balance mint c.address).toNat + d'.engine.paidOut mint c +
        d.engine.received mint c =
      (d.tokens.balance mint c.address).toNat + d.engine.paidOut mint c +
        d'.engine.received mint c

theorem conserves_of_books (htokens : d'.tokens = d.tokens)
    (hbooks : ∀ mint c, d'.engine.received mint c = d.engine.received mint c ∧
      d'.engine.paidOut mint c = d.engine.paidOut mint c) : Conserves S d d' := by
  intro c _ _ mint
  obtain ⟨hreceived, hpaidOut⟩ := hbooks mint c
  rw [htokens, hreceived, hpaidOut]

theorem conserves_of_same (htokens : d'.tokens = d.tokens)
    (hbooks : d.engine.SameBooks d'.engine) : Conserves S d d' :=
  conserves_of_books htokens fun _ _ => ⟨hbooks.received_eq, hbooks.paidOut_eq⟩

/-- A gauge is put again with the same counters of fees. -/
theorem conserves_of_putGauge {g g' : Gauge} (htokens : d'.tokens = d.tokens)
    (hbribes : d'.engine.bribes = d.engine.bribes)
    (hregistry : d'.engine.registry = d.engine.registry.put g')
    (hname : g'.target = g.target)
    (hg : d.engine.registry.gauges.find? g.target = some g)
    (hfee : ∀ side, (g'.fee side).mint = (g.fee side).mint ∧
      (g'.fee side).cumulativeAccrued = (g.fee side).cumulativeAccrued ∧
      (g'.fee side).cumulativeClaimed = (g.fee side).cumulativeClaimed) :
    Conserves S d d' := by
  refine conserves_of_books htokens fun mint c => ?_
  have hbooks := books_of_putGauge d.engine d'.engine (fun _ => 0) (fun _ => 0) hbribes
    hregistry hname hg (fun side => (hfee side).1)
    (fun side => by rw [(hfee side).2.1]; rfl) (fun side => by rw [(hfee side).2.2]; rfl) mint c
  rw [Custody.ofGauge_zero] at hbooks
  exact hbooks

/-- Payments that match the books. -/
theorem conserves_of_settle {payments : List Payment}
    (hpaid : d.tokens.settle payments = .ok d'.tokens)
    (hflow : ∀ c ∈ S, c.isVault = true → ∀ mint,
      d'.engine.received mint c =
        d.engine.received mint c + Payment.inflow payments mint c.address ∧
      d'.engine.paidOut mint c =
        d.engine.paidOut mint c + Payment.outflow payments mint c.address) :
    Conserves S d d' := by
  intro c hc hvault mint
  obtain ⟨hreceived, hpaidOut⟩ := hflow c hc hvault mint
  have hbalance := TokenLedger.balance_settle hpaid mint c.address
  omega

/-- Tokens that come up outside of the vaults. -/
theorem conserves_of_issue {mint account : Address} {amount : UInt64}
    (hissued : d.tokens.issue mint account amount = .ok d'.tokens)
    (hbooks : d.engine.SameBooks d'.engine)
    (hother : ∀ c ∈ S, c.isVault = true → account ≠ c.address) : Conserves S d d' := by
  intro c hc hvault m
  have hbalance := TokenLedger.balance_issue hissued m c.address
  rw [if_neg fun hkey => hother c hc hvault hkey.2] at hbalance
  rw [hbooks.received_eq, hbooks.paidOut_eq, hbalance]
  rfl

/-! ## Steps -/

section

variable (hS : Set.InjOn Custody.address S) (hguarded : Guarded S d)

include hS hguarded

/-- A pool fee account is no vault. -/
theorem Guarded.poolFees_ne {target : Address} {g : Gauge}
    (hgauge : d.engine.registry.gauges.find? target = some g) (side : FeeSide) {c : Custody}
    (hc : c ∈ S) (hvault : c.isVault = true) : Account.poolFees target side ≠ c.address := by
  intro heq
  have hpool := hguarded.gauges target g hgauge _ (Custody.poolFees_mem_ofTarget target side)
  have hsame : Custody.poolFees target side = c := hS hpool hc heq
  subst hsame
  cases hvault

theorem conserves_captured {target : Address} {g : Gauge} {totals : PerSide UInt64}
    {capture : FeeCapture} {epoch : Epoch} {tokens : TokenLedger}
    (hgauge : d.engine.registry.gauges.find? target = some g)
    (hcapture : FeeCapture.compute g totals = .ok capture)
    (hpaid : d.tokens.settle (capture.payments g) = .ok tokens) :
    Conserves S d { d with tokens, engine := d.engine.recordCapture g epoch capture } := by
  obtain rfl := Registry.target_of_find? hgauge
  obtain ⟨-, hsides⟩ := FeeCapture.compute_eq_ok_iff.mp hcapture
  have hvaults (side : FeeSide) : Custody.feeVault g.target side ∈ S :=
    hguarded.gauges _ g hgauge _ (Custody.feeVault_mem_ofTarget g.target side)
  refine conserves_of_settle hpaid fun c hc hvault mint => ?_
  have hbooks := books_of_putGauge d.engine (d.engine.recordCapture g epoch capture)
      (fun side => (capture.accrued.get side).toNat) (fun _ => 0) rfl rfl
      FeeCapture.apply_target hgauge (fun side => by rw [FeeCapture.fee_apply])
      (fun side => by rw [FeeCapture.fee_apply]; exact (hsides side).2)
      (fun side => by rw [FeeCapture.fee_apply]; rfl) mint c
  have hin : Payment.inflow (capture.payments g) mint c.address =
      c.ofGauge g mint fun side => (capture.accrued.get side).toNat := by
    unfold FeeCapture.payments
    rw [Payment.inflow_append, Payment.inflow_due, Payment.inflow_due]
    have ha := Custody.ofGauge_single hS hc hvaults mint .a (capture.accrued.get .a).toNat
    have hb := Custody.ofGauge_single hS hc hvaults mint .b (capture.accrued.get .b).toNat
    refine (congrArg₂ (· + ·) ha hb).trans ((Custody.ofGauge_add ..).trans ?_)
    congr 1
    funext side
    cases side with
    | a => rfl
    | b => exact Nat.zero_add _
  have hout : Payment.outflow (capture.payments g) mint c.address = 0 := by
    unfold FeeCapture.payments
    rw [Payment.outflow_append, Payment.outflow_due, Payment.outflow_due,
      if_neg fun hkey => hguarded.poolFees_ne hS hgauge .a hc hvault hkey.2,
      if_neg fun hkey => hguarded.poolFees_ne hS hgauge .b hc hvault hkey.2]
  rw [Custody.ofGauge_zero] at hbooks
  rw [hin, hout]
  exact hbooks

theorem conserves_feePaid {target : Address} {g : Gauge} {s : Snapshot} {claim : FeeClaim}
    {owner : Address} {tokens : TokenLedger}
    (hgauge : d.engine.registry.gauges.find? target = some g) (howner : Outside S owner)
    (htotal : claim.cumulativeClaimed.toNat =
      (g.fee claim.side).cumulativeClaimed.toNat + claim.share.toNat)
    (hpaid : d.tokens.settle (claim.payment g owner).due = .ok tokens) :
    Conserves S d { d with tokens, engine := d.engine.recordFeeClaim g s claim } := by
  obtain rfl := Registry.target_of_find? hgauge
  have hvaults (side : FeeSide) : Custody.feeVault g.target side ∈ S :=
    hguarded.gauges _ g hgauge _ (Custody.feeVault_mem_ofTarget g.target side)
  refine conserves_of_settle hpaid fun c hc _ mint => ?_
  have hbooks := books_of_feeClaim d.engine (s := s) hgauge htotal mint c
  have hin : Payment.inflow (claim.payment g owner).due mint c.address = 0 := by
    rw [Payment.inflow_due, if_neg fun hkey => howner c hc hkey.2.symm]
  have hout : Payment.outflow (claim.payment g owner).due mint c.address =
      c.ofGauge g mint fun side => if claim.side = side then claim.share.toNat else 0 := by
    rw [Payment.outflow_due]
    exact Custody.ofGauge_single hS hc hvaults mint claim.side claim.share.toNat
  rw [hin, hout]
  exact hbooks

omit hguarded in
theorem conserves_bribeCreated {b : Bribe} {escrowed : UInt64} {tokens : TokenLedger}
    (hnone : d.engine.bribes.bribes.find? b.id = none) (hclaimed : b.claimedAmount = 0)
    (hclawedBack : b.clawedBackAmount = 0) (hescrow : b.totalEscrow = .ok escrowed)
    (hid : Custody.bribeVault b.id ∈ S) (hbriber : Outside S b.briber)
    (hpaid : d.tokens.settle [b.escrowPayment escrowed] = .ok tokens) :
    Conserves S d { d with tokens, engine := d.engine.recordBribe b } := by
  refine conserves_of_settle hpaid fun c hc _ mint => ?_
  have hbooks := books_of_newBribe d.engine (d.engine.recordBribe b) rfl rfl hnone hclaimed
    hclawedBack mint c
  have haddress : b.vault = c.address ↔ Custody.bribeVault b.id = c := hS.eq_iff hid hc
  have hin : Payment.inflow [b.escrowPayment escrowed] mint c.address =
      if b.mint = mint ∧ .bribeVault b.id = c then
        b.rewardPerEpoch.toNat * b.numEpochs.toNat else 0 := by
    rw [Payment.inflow_cons, Payment.inflow_nil, Nat.add_zero,
      ← Bribe.totalEscrow_eq_ok_iff.mp hescrow]
    exact if_congr (and_congr Iff.rfl haddress) rfl rfl
  have hout : Payment.outflow [b.escrowPayment escrowed] mint c.address = 0 := by
    rw [Payment.outflow_cons, Payment.outflow_nil, Nat.add_zero,
      if_neg fun hkey => hbriber c hc hkey.2.symm]
  rw [hin, hout]
  exact hbooks

theorem conserves_bribePayment {b : Bribe} {payee : Address} {amount claimed clawedBack : UInt64}
    {bribes : BribeLedger} {tokens : TokenLedger} {payments : List Payment}
    (hb : d.engine.bribes.bribes.find? b.id = some b) (hpayee : Outside S payee)
    (hbribes : bribes.bribes =
      d.engine.bribes.bribes.insert (b.withTotals claimed clawedBack))
    (hout : claimed.toNat + clawedBack.toNat =
      b.claimedAmount.toNat + b.clawedBackAmount.toNat + amount.toNat)
    (hpayments : payments = [b.payment payee amount] ∨ payments = (b.payment payee amount).due)
    (hpaid : d.tokens.settle payments = .ok tokens) :
    Conserves S d { d with tokens, engine := { d.engine with bribes } } := by
  refine conserves_of_settle hpaid fun c hc _ mint => ?_
  have hbooks := books_of_putBribe d.engine { d.engine with bribes } rfl hbribes hb hout mint c
  have hid := (hguarded.bribes b.id b hb).1
  have haddress : b.vault = c.address ↔ Custody.bribeVault b.id = c := hS.eq_iff hid hc
  have hin : Payment.inflow payments mint c.address = 0 := by
    rcases hpayments with rfl | rfl
    · rw [Payment.inflow_cons, Payment.inflow_nil, Nat.add_zero,
        if_neg fun hkey => hpayee c hc hkey.2.symm]
    · rw [Payment.inflow_due, if_neg fun hkey => hpayee c hc hkey.2.symm]
  have hpaidOut : Payment.outflow payments mint c.address =
      if b.mint = mint ∧ .bribeVault b.id = c then amount.toNat else 0 := by
    rcases hpayments with rfl | rfl
    · rw [Payment.outflow_cons, Payment.outflow_nil, Nat.add_zero]
      exact if_congr (and_congr Iff.rfl haddress) rfl rfl
    · rw [Payment.outflow_due]
      exact if_congr (and_congr Iff.rfl haddress) rfl rfl
  rw [hin, hpaidOut]
  exact hbooks

/-- A step moves the balance of every vault as it moves the books. -/
theorem Step.conserves {operation : Operation} {reply : Reply}
    (hbribes : d.engine.BribesSound) (hop : operation.Guarded S d)
    (hstep : Step d operation reply d') : Conserves S d d' := by
  by_cases hvoting : operation.isVoting = true
  · obtain ⟨hbooks, htokens, -⟩ := hstep.sameBooks hvoting
    exact conserves_of_same htokens hbooks
  cases hstep with
  | advanceEpoch | setForeman | setEpochDuration | setVote | takeSnapshot | resetSnapshot
  | commit | revert | close => exact absurd rfl hvoting
  | @createGauge target mints engine hcall =>
    obtain ⟨hnone, rfl⟩ := createGauge_eq_ok_iff.mp hcall
    exact conserves_of_books rfl (books_of_newGauge d.engine _ rfl rfl hnone)
  | @setGaugeEnabled authority target enabled changed engine hcall =>
    obtain ⟨g, hgauge, rfl⟩ := setGaugeEnabled_eq_ok hcall
    obtain rfl := Registry.target_of_find? hgauge
    exact conserves_of_putGauge (g := g) rfl rfl rfl rfl hgauge fun side => ⟨rfl, rfl, rfl⟩
  | captured _ hgauge _ _ hcapture hpaid =>
    exact conserves_captured hS hguarded hgauge hcapture hpaid
  | cleaned _ _ _ hgauge _ =>
    obtain rfl := Registry.target_of_find? hgauge
    refine conserves_of_putGauge rfl rfl rfl Gauge.setPruned_target hgauge fun side => ?_
    rw [Gauge.fee_setPruned]
    exact ⟨rfl, rfl, rfl⟩
  | feePaid hlock _ _ hgauge _ _ hclaim hpaid =>
    obtain ⟨-, -, a, -, rfl, -, htotal⟩ := FeeClaim.compute_eq_ok_some_iff.mp hclaim
    exact conserves_feePaid hS hguarded hgauge (hguarded.owners _ _ hlock) htotal hpaid
  | @bribeCreated briber target mint reward epochEnd g id b escrowed tokens hgauge hid hbribe
      hescrow hpaid =>
    obtain ⟨-, hcount⟩ := Factory.nextBribeId_eq_ok_iff.mp hid
    obtain ⟨rfl, -⟩ := Bribe.prepare_eq_ok_iff.mp hbribe
    have hnone := hbribes.next_id_free hid
    have hvault : Custody.bribeVault id ∈ S := by
      rw [hcount]
      exact hop.bribe (Nat.succ_ne_zero 0)
    exact conserves_bribeCreated hS hnone rfl rfl hescrow hvault
      (hop.outsiders briber (List.mem_singleton.mpr rfl)) hpaid
  | bribePaid hlock _ _ hbribe hclaim hpaid hrecorded =>
    obtain ⟨-, hid, -⟩ := (BribeLedger.checkClaim_eq_ok_iff hbribe).mp hclaim
    obtain ⟨total, htotal, rfl⟩ := (BribeLedger.recordClaim_eq_ok_iff (hid ▸ hbribe)).mp hrecorded
    obtain rfl := BribeLedger.id_of_find? hbribe
    refine conserves_bribePayment hS hguarded hbribe (hguarded.owners _ _ hlock) rfl ?_
      (Or.inr rfl) hpaid
    omega
  | bribeReturned _ hbribe hclawback hpaid hrecorded =>
    obtain ⟨rfl, -⟩ := (BribeLedger.checkClawback_eq_ok_iff hbribe).mp hclawback
    obtain ⟨total, htotal, rfl⟩ := (BribeLedger.recordClawback_eq_ok_iff hbribe).mp hrecorded
    obtain rfl := BribeLedger.id_of_find? hbribe
    refine conserves_bribePayment hS hguarded hbribe (hguarded.bribes _ _ hbribe).2 rfl ?_
      (Or.inl rfl) hpaid
    change total.toNat = _ + _ at htotal
    omega
  | accrueFees hgauge hearned =>
    obtain ⟨_, -, hrest⟩ := bind_eq_ok_iff.mp hearned
    obtain ⟨_, hissued, heq⟩ := bind_eq_ok_iff.mp hrest
    cases heq
    exact conserves_of_issue hissued (.refl _)
      fun c hc hvault => hguarded.poolFees_ne hS hgauge _ hc hvault
  | @accruePool target side mint amount pool tokens hearned =>
    obtain ⟨_, -, hrest⟩ := bind_eq_ok_iff.mp hearned
    obtain ⟨_, hissued, heq⟩ := bind_eq_ok_iff.mp hrest
    cases heq
    -- The pool pays into its own account, which is in `S` but no vault.
    refine conserves_of_issue hissued (.refl _) fun c hc hvault heq => ?_
    have hpool := hop.targets target (List.mem_singleton.mpr rfl) _
      (Custody.poolFees_mem_ofTarget target side)
    obtain rfl : Custody.poolFees target side = c := hS hpool hc heq
    cases hvault
  | fund hissued =>
    refine conserves_of_issue hissued (.refl _) fun c hc _ => ?_
    exact (hop.outsiders _ (List.mem_singleton.mpr rfl) c hc).symm
  | @transfer mint source target amount tokens hmoved =>
    have hsource := hop.outsiders source List.mem_cons_self
    have htarget := hop.outsiders target (List.mem_cons_of_mem _ List.mem_cons_self)
    have hpaid : d.tokens.settle [{ mint, source, target, amount }] = .ok tokens :=
      TokenLedger.settle_singleton.mpr hmoved
    refine conserves_of_settle hpaid fun c hc _ m => ?_
    rw [Payment.inflow_cons, Payment.outflow_cons, Payment.inflow_nil, Payment.outflow_nil,
      if_neg fun hkey => htarget c hc hkey.2.symm, if_neg fun hkey => hsource c hc hkey.2.symm]
    exact ⟨rfl, rfl⟩
  | _ => exact conserves_of_same rfl (.refl _)

end

/-! ## Solvency -/

/-- Every vault holds what it has received and not paid out. -/
def Solvent (S : Set Custody) (d : Deployment) : Prop :=
  ∀ c ∈ S, c.isVault = true → ∀ mint,
    (d.tokens.balance mint c.address).toNat + d.engine.paidOut mint c = d.engine.received mint c

theorem Conserves.solvent (h : Conserves S d d') (hsolvent : Solvent S d) : Solvent S d' := by
  intro c hc hvault mint
  have hmoved := h c hc hvault mint
  have hbefore := hsolvent c hc hvault mint
  omega

/-- What a fee vault holds and has paid is what its counter has counted. -/
theorem Solvent.feeVault_eq (h : Solvent S d) (hguarded : Guarded S d) {target : Address}
    {g : Gauge} (hgauge : d.engine.registry.gauges.find? target = some g) (side : FeeSide) :
    (d.tokens.balance (g.fee side).mint (g.feeVault side)).toNat +
        (g.fee side).cumulativeClaimed.toNat = (g.fee side).cumulativeAccrued.toNat := by
  obtain rfl := Registry.target_of_find? hgauge
  have hmember := hguarded.gauges _ g hgauge _ (Custody.feeVault_mem_ofTarget g.target side)
  have heq := h _ hmember rfl (g.fee side).mint
  rw [received_feeVault, paidOut_feeVault, hgauge] at heq
  simp only [Option.elim_some, if_true] at heq
  exact heq

/-- What a bribe vault holds and has paid is the bribe's escrow. -/
theorem Solvent.bribeVault_eq (h : Solvent S d) (hguarded : Guarded S d) {id : UInt64}
    {b : Bribe} (hbribe : d.engine.bribes.bribes.find? id = some b) :
    (d.tokens.balance b.mint b.vault).toNat + b.claimedAmount.toNat +
      b.clawedBackAmount.toNat = b.rewardPerEpoch.toNat * b.numEpochs.toNat := by
  obtain rfl := BribeLedger.id_of_find? hbribe
  have heq := h _ (hguarded.bribes b.id b hbribe).1 rfl b.mint
  rw [received_bribeVault, paidOut_bribeVault, hbribe] at heq
  simp only [Option.elim_some, if_true] at heq
  rw [Nat.add_assoc]
  exact heq

/-- While the vaults are solvent no capture stops between its payments: the fee vault of
the second side holds what its counter says, so there is room for what the counter can
take. -/
theorem Solvent.not_interrupted (h : Solvent S d) (hS : Set.InjOn Custody.address S)
    (hguarded : Guarded S d) {operation : Operation} {error : VotingError} :
    ¬ Interrupted d operation error d' := by
  intro hhalf
  obtain @⟨target, epoch, g, capture, tokens, refusal, -, hgauge, -, -, hcapture, hhas, hpaid, -,
    hrefused⟩ := hhalf
  obtain rfl := Registry.target_of_find? hgauge
  have hmember {c : Custody} (hc : c ∈ Custody.ofTarget g.target) : c ∈ S :=
    hguarded.gauges _ g hgauge c hc
  have hapart {c c' : Custody} (hc : c ∈ Custody.ofTarget g.target)
      (hc' : c' ∈ Custody.ofTarget g.target) (hne : c ≠ c') : c.address ≠ c'.address :=
    fun heq => hne (hS (hmember hc) (hmember hc') heq)
  have hpool (side : FeeSide) := Custody.poolFees_mem_ofTarget g.target side
  have hvault (side : FeeSide) := Custody.feeVault_mem_ofTarget g.target side
  -- The payment of side a moves nothing on side b.
  have hstill {c : Custody} (hc : c ∈ Custody.ofTarget g.target)
      (hsource : Custody.poolFees g.target .a ≠ c) (htarget : Custody.feeVault g.target .a ≠ c) :
      (tokens.balance (g.fee .b).mint c.address).toNat =
        (d.tokens.balance (g.fee .b).mint c.address).toNat := by
    have hmoved := TokenLedger.balance_settle hpaid (g.fee .b).mint c.address
    rw [Payment.outflow_due, Payment.inflow_due,
      if_neg fun hkey => hapart (hpool .a) hc hsource hkey.2,
      if_neg fun hkey => hapart (hvault .a) hc htarget hkey.2] at hmoved
    exact hmoved
  have hsource := hstill (hpool .b) (by simp) (by simp)
  have htarget := hstill (hvault .b) (by simp) (by simp)
  have hbalance := h.feeVault_eq hguarded hgauge .b
  obtain ⟨-, hsides⟩ := FeeCapture.compute_eq_ok_iff.mp hcapture
  have hfits := (capture.cumulativeAccrued.get .b).toNat_lt
  have henough : (capture.accrued.get .b).toNat ≤
      (tokens.balance (g.fee .b).mint (Account.poolFees g.target .b)).toNat := by
    rw [show Account.poolFees g.target .b = (Custody.poolFees g.target .b).address from rfl,
      hsource]
    exact UInt64.le_iff_toNat_le.mp (hhas .b)
  -- The vault holds no more than its counter, and the counter can take the fees.
  have hroom : (tokens.balance (g.fee .b).mint (g.feeVault .b)).toNat +
      (capture.accrued.get .b).toNat < 2 ^ 64 := by
    have hcounted := (hsides .b).2
    change (tokens.balance (g.fee .b).mint (g.feeVault .b)).toNat =
      (d.tokens.balance (g.fee .b).mint (g.feeVault .b)).toNat at htarget
    omega
  obtain ⟨_, hmoved⟩ := TokenLedger.transfer_succeeds henough fun _ => hroom
  rw [hmoved] at hrefused
  cases hrefused

/-- What a basic operation leaves is solvent and guarded again. -/
theorem Solvent.after (h : Solvent S d) (hS : Set.InjOn Custody.address S)
    (hguarded : Guarded S d) (hbribes : d.engine.BribesSound) {operation : Operation}
    (hbasic : operation.isBasic = true) (hop : operation.Guarded S d) :
    Solvent S (d.after operation) ∧ Guarded S (d.after operation) := by
  rcases after_cases (d := d) hbasic with hsame | ⟨_, hstep⟩ | ⟨_, hhalf⟩
  · rw [hsame]
    exact ⟨h, hguarded⟩
  · exact ⟨(hstep.conserves hS hguarded hbribes hop).solvent h, hstep.guarded hop hguarded⟩
  · exact absurd hhalf (h.not_interrupted hS hguarded)

end Deployment
end EpochVoting
