import EpochVoting.Proofs.CallPayments
import EpochVoting.Proofs.Commuting
import EpochVoting.Proofs.Settling

/-!
# What is due

What there is to settle in a deployment, and what settling it writes and pays, can be read
off the deployment (`Deployment.due?`).  A call to settle something either does just that or
changes nothing and pays nothing: as long as the vaults are in custody and the tokens of
every mint fit into one amount, nothing that is due is refused (`after_eq`, `payments_eq`).
-/

namespace EpochVoting

/-- The account that a pot is paid from. -/
def Pot.vault : Pot → Address
  | fees gauge _ side => Account.feeVault gauge side
  | reward bribe _ => Account.bribeVault bribe

/-- What can be claimed parts of: the voters of which gauge in which epoch share it out, the
tokens it is paid in, and how much there is. -/
structure Offer where
  gauge : Address
  epoch : Epoch
  mint : Address
  value : Nat

namespace Engine

variable {e : Engine} {pot : Pot} {offer : Offer}

/-- What a pot has for voters.  There is nothing before the epoch is over, and nothing if nobody
voted in it. -/
def offer? (e : Engine) : Pot → Option Offer
  | .fees gauge epoch side =>
    if epoch < e.currentEpoch ∧ e.commitments.power gauge epoch ≠ 0 then
      (e.mint? (.fees gauge epoch side)).map fun mint =>
        ⟨gauge, epoch, mint, e.commitments.feesAt gauge epoch side⟩
    else none
  | .reward id epoch => do
    let b ← e.bribes.bribes.find? id
    if epoch < e.currentEpoch ∧ b.covers epoch = true ∧
        e.commitments.power b.gauge epoch ≠ 0 then
      some ⟨b.gauge, epoch, b.mint, b.rewardPerEpoch.toNat⟩
    else none

theorem offers_of_offer? (h : e.offer? pot = some offer) :
    e.Offers offer.gauge offer.epoch pot offer.value ∧ e.mint? pot = some offer.mint ∧
      offer.epoch < e.currentEpoch ∧ e.commitments.power offer.gauge offer.epoch ≠ 0 := by
  cases pot with
  | fees gauge epoch side =>
    obtain ⟨hover, h⟩ := Option.ite_none_right_eq_some.mp h
    obtain ⟨mint, hmint, rfl⟩ := Option.map_eq_some_iff.mp h
    exact ⟨.fees side, hmint, hover⟩
  | reward id epoch =>
    obtain ⟨b, hb, h⟩ := Option.bind_eq_some_iff.mp h
    obtain ⟨⟨helapsed, hcovers, hpower⟩, h⟩ := Option.ite_none_right_eq_some.mp h
    cases h
    exact ⟨.reward hb rfl hcovers, mint?_reward hb epoch, helapsed, hpower⟩

theorem offer?_of_offers {gauge mint : Address} {epoch : Epoch} {value : Nat}
    (hoffers : e.Offers gauge epoch pot value) (hmint : e.mint? pot = some mint)
    (helapsed : epoch < e.currentEpoch) (hpower : e.commitments.power gauge epoch ≠ 0) :
    e.offer? pot = some ⟨gauge, epoch, mint, value⟩ := by
  cases hoffers with
  | fees side =>
    refine (if_pos ⟨helapsed, hpower⟩).trans ?_
    rw [hmint]
    rfl
  | @reward id b hb hgauge hcovers =>
    subst hgauge
    obtain rfl := Option.some.inj ((mint?_reward hb epoch).symm.trans hmint)
    exact Option.bind_eq_some_iff.mpr ⟨b, hb, if_pos ⟨helapsed, hcovers, hpower⟩⟩

end Engine

namespace Commitments

variable {c : Commitments} {now epoch : Epoch} {voter gauge : Address} {x : EpochVote}

/-- What is live counts in the totals, so they have room for it among the closed power. -/
theorem Consistent.room_to_close (h : c.Consistent now) (hx : c.vote? voter gauge epoch = some x) :
    ∃ r s, c.epochGauge? gauge epoch = some r ∧ c.snapshot? voter epoch = some s ∧
      r.closedPower.toNat + x.allocatedPower.toNat < 2 ^ 64 ∧
      s.closedPower.toNat + x.allocatedPower.toNat < 2 ^ 64 := by
  have hmem := Table.mem_of_find? hx
  have hpos := h.vote_toNat_pos hmem
  obtain ⟨rfl, rfl, rfl⟩ := key_of_vote? hx
  have hliveOn := Table.le_total_of_mem hmem (f := fun y : EpochVote =>
    if y.gauge = x.gauge ∧ y.epoch = x.epoch then y.allocatedPower.toNat else 0)
  have hliveOf := Table.le_total_of_mem hmem (f := fun y : EpochVote =>
    if y.voter = x.voter ∧ y.epoch = x.epoch then y.allocatedPower.toNat else 0)
  change _ ≤ c.liveOn x.gauge x.epoch at hliveOn
  change _ ≤ c.liveOf x.voter x.epoch at hliveOf
  rw [if_pos ⟨rfl, rfl⟩] at hliveOn hliveOf
  have hpower := h.power_eq x.gauge x.epoch
  have hallocated := h.allocated_eq x.voter x.epoch
  obtain ⟨r, hr⟩ := epochGauge?_of_power_ne_zero (show c.power x.gauge x.epoch ≠ 0 by omega)
  cases hs : c.snapshot? x.voter x.epoch with
  | none =>
    unfold allocated at hallocated
    rw [hs, Option.elim_none] at hallocated
    omega
  | some s =>
    have hclosedOn := h.closedPower_eq x.gauge x.epoch
    rw [closedPower_of_epochGauge? hr] at hclosedOn
    have hclosedOf := (h.snapshot_sound hs).closed_eq
    rw [← closedOf_of_snapshot? hs] at hclosedOf
    have hfits := c.power_lt x.gauge x.epoch
    have hfits' := c.allocated_lt x.voter x.epoch
    exact ⟨r, s, hr, rfl, by omega, by omega⟩

end Commitments

namespace Settlement

variable {voter : Address} {paid : Payment} {pot : Pot}

/-- What a claim on a pot writes. -/
def claim (voter : Address) (paid : Payment) : Pot → Settlement
  | .fees gauge epoch side => fee voter gauge epoch side paid
  | .reward bribe epoch => reward voter bribe epoch paid

theorem item_claim : (claim voter paid pot).item = .claim voter pot := by
  cases pot <;> rfl

end Settlement

/-- What an operation is to settle, if that is what it is for. -/
def Operation.item? : Operation → Option Item
  | claimFee _ voter gauge epoch side => some (.claim voter (.fees gauge epoch side))
  | claimBribe _ voter bribe epoch => some (.claim voter (.reward bribe epoch))
  | clawBackBribe _ bribe epoch => some (.clawback bribe epoch)
  | close _ voter gauge epoch => some (.vote voter gauge epoch)
  | cleanEpochGauge gauge epoch => some (.record gauge epoch)
  | _ => none

namespace Deployment

open Engine EpochVoting.Action Commitments

variable {S : Set Custody} {d d' : Deployment} {operation : Operation} {reply : Reply}
  {item : Item} {w : Settlement}

/-- How an item is settled, if that is due. -/
def due? (d : Deployment) : Item → Option Settlement
  | .claim voter pot => do
    let lock ← d.escrow.lock? voter
    let offer ← d.engine.offer? pot
    let _ ← d.engine.commitments.allocation? voter offer.gauge offer.epoch
    if d.engine.hasClaimed voter pot = false then
      some (.claim voter ⟨offer.mint, pot.vault, lock.owner,
        UInt64.ofNat (d.engine.commitments.part offer.value offer.gauge offer.epoch voter)⟩ pot)
    else none
  | .clawback id epoch => do
    let b ← d.engine.bribes.bribes.find? id
    if epoch < d.engine.currentEpoch ∧ b.covers epoch = true ∧
        d.engine.commitments.power b.gauge epoch = 0 ∧
        d.engine.bribes.isClawedBack id epoch = false then
      some (.clawback id epoch (b.payment b.briber b.rewardPerEpoch))
    else none
  | .vote voter gauge epoch => do
    let x ← d.engine.commitments.vote? voter gauge epoch
    if epoch < d.engine.currentEpoch then some (.close voter gauge epoch x.allocatedPower)
    else none
  | .record gauge epoch => do
    let r ← d.engine.commitments.epochGauge? gauge epoch
    if epoch < d.engine.currentEpoch ∧ r.totalPower = 0 then
      some (.clean gauge epoch r.accruedFees)
    else none

theorem due?_claim_eq_some_iff {voter : Address} {pot : Pot} :
    d.due? (.claim voter pot) = some w ↔ ∃ lock offer a, d.escrow.lock? voter = some lock ∧
      d.engine.offer? pot = some offer ∧
      d.engine.commitments.allocation? voter offer.gauge offer.epoch = some a ∧
      d.engine.hasClaimed voter pot = false ∧
      .claim voter ⟨offer.mint, pot.vault, lock.owner,
        UInt64.ofNat (d.engine.commitments.part offer.value offer.gauge offer.epoch voter)⟩ pot =
          w := by
  simp only [due?, Option.bind_eq_bind, Option.bind_eq_some_iff, Option.ite_none_right_eq_some,
    Option.some.injEq]
  exact ⟨fun ⟨lock, hlock, offer, hoffer, a, ha, hdue, hw⟩ =>
      ⟨lock, offer, a, hlock, hoffer, ha, hdue, hw⟩,
    fun ⟨lock, offer, a, hlock, hoffer, ha, hdue, hw⟩ =>
      ⟨lock, hlock, offer, hoffer, a, ha, hdue, hw⟩⟩

theorem due?_clawback_eq_some_iff {id : UInt64} {epoch : Epoch} :
    d.due? (.clawback id epoch) = some w ↔ ∃ b, d.engine.bribes.bribes.find? id = some b ∧
      (epoch < d.engine.currentEpoch ∧ b.covers epoch = true ∧
        d.engine.commitments.power b.gauge epoch = 0 ∧
        d.engine.bribes.isClawedBack id epoch = false) ∧
      .clawback id epoch (b.payment b.briber b.rewardPerEpoch) = w := by
  simp only [due?, Option.bind_eq_bind, Option.bind_eq_some_iff, Option.ite_none_right_eq_some,
    Option.some.injEq]

theorem due?_vote_eq_some_iff {voter gauge : Address} {epoch : Epoch} :
    d.due? (.vote voter gauge epoch) = some w ↔
      ∃ x, d.engine.commitments.vote? voter gauge epoch = some x ∧
        epoch < d.engine.currentEpoch ∧ .close voter gauge epoch x.allocatedPower = w := by
  simp only [due?, Option.bind_eq_bind, Option.bind_eq_some_iff, Option.ite_none_right_eq_some,
    Option.some.injEq]

theorem due?_record_eq_some_iff {gauge : Address} {epoch : Epoch} :
    d.due? (.record gauge epoch) = some w ↔
      ∃ r, d.engine.commitments.epochGauge? gauge epoch = some r ∧
        (epoch < d.engine.currentEpoch ∧ r.totalPower = 0) ∧
        .clean gauge epoch r.accruedFees = w := by
  simp only [due?, Option.bind_eq_bind, Option.bind_eq_some_iff, Option.ite_none_right_eq_some,
    Option.some.injEq]

theorem item_of_due? (h : d.due? item = some w) : w.item = item := by
  cases item with
  | claim voter pot =>
    obtain ⟨lock, offer, a, -, -, -, -, rfl⟩ := due?_claim_eq_some_iff.mp h
    exact Settlement.item_claim
  | clawback id epoch =>
    obtain ⟨b, -, -, rfl⟩ := due?_clawback_eq_some_iff.mp h
    rfl
  | vote voter gauge epoch =>
    obtain ⟨x, -, -, rfl⟩ := due?_vote_eq_some_iff.mp h
    rfl
  | record gauge epoch =>
    obtain ⟨r, -, -, rfl⟩ := due?_record_eq_some_iff.mp h
    rfl

/-- A pot without power has nothing for anybody. -/
theorem due?_claim_of_none {voter : Address} {pot : Pot} (h : d.engine.offer? pot = none) :
    d.due? (.claim voter pot) = none := by
  refine Option.eq_none_iff_forall_ne_some.mpr fun w hdue => ?_
  obtain ⟨lock, offer, a, -, hoffer, -⟩ := due?_claim_eq_some_iff.mp hdue
  rw [h] at hoffer
  cases hoffer

/-- Whether an account, by default the delegate, is the delegate of a voter's lock. -/
def actsFor (d : Deployment) (authority : Option Address) (voter : Address) : Bool :=
  (d.escrow.lock? voter).any fun lock =>
    authority.getD (d.escrow.delegateOf voter) == lock.delegate

/-- Whether an account has offered a bribe. -/
def isBriber (d : Deployment) (account : Address) (id : UInt64) : Bool :=
  (d.engine.bribes.bribes.find? id).any fun b => account == b.briber

/-- Whether the caller may settle what the operation is to settle. -/
def permits (d : Deployment) : Operation → Bool
  | .claimFee authority voter _ _ _ | .claimBribe authority voter _ _
  | .close authority voter _ _ => d.actsFor authority voter
  | .clawBackBribe briber id _ => d.isBriber briber id
  | _ => true

/-- What an operation settles, if anything. -/
def settlement? (d : Deployment) (operation : Operation) : Option Settlement :=
  if d.permits operation then operation.item?.bind d.due? else none

theorem settlement?_eq (hitem : operation.item? = some item)
    (hpermits : d.permits operation = true) : d.settlement? operation = d.due? item := by
  unfold settlement?
  rw [if_pos hpermits, hitem]
  rfl

theorem actsFor_eq_true_iff {authority : Option Address} {voter : Address} :
    d.actsFor authority voter = true ↔ ∃ lock, d.escrow.lock? voter = some lock ∧
      authority.getD (d.escrow.delegateOf voter) = lock.delegate := by
  unfold actsFor
  rw [Option.any_eq_true]
  exact exists_congr fun lock => and_congr_right fun _ => beq_iff_eq

theorem isBriber_eq_true_iff {account : Address} {id : UInt64} :
    d.isBriber account id = true ↔
      ∃ b, d.engine.bribes.bribes.find? id = some b ∧ account = b.briber := by
  unfold isBriber
  rw [Option.any_eq_true]
  exact exists_congr fun b => and_congr_right fun _ => beq_iff_eq

/-- The first claim of a voter's part of a pot. -/
theorem settlement?_claim {voter gauge mint : Address} {pot : Pot} {epoch : Epoch} {value : Nat}
    {lock : Lock} {share : UInt64} {a : UInt64}
    (hitem : operation.item? = some (.claim voter pot)) (hpermits : d.permits operation = true)
    (hlock : d.escrow.lock? voter = some lock) (hoffers : d.engine.Offers gauge epoch pot value)
    (hmint : d.engine.mint? pot = some mint) (hpower : d.engine.commitments.power gauge epoch ≠ 0)
    (ha : d.engine.commitments.allocation? voter gauge epoch = some a)
    (helapsed : epoch < d.engine.currentEpoch) (hnew : d.engine.hasClaimed voter pot = false)
    (hshare : share.toNat = d.engine.commitments.part value gauge epoch voter) :
    d.settlement? operation = some (.claim voter ⟨mint, pot.vault, lock.owner, share⟩ pot) := by
  rw [settlement?_eq hitem hpermits, due?_claim_eq_some_iff]
  refine ⟨lock, _, a, hlock, offer?_of_offers hoffers hmint helapsed hpower, ha, hnew, ?_⟩
  rw [← hshare, UInt64.ofNat_toNat]

/-! ## Settlements and their calls -/

variable {voter gauge : Address} {epoch : Epoch} {paid : Payment}

theorem apply_fee {g : Gauge} {s : Snapshot} {claim : FeeClaim}
    (hgauge : d.engine.registry.gauges.find? gauge = some g)
    (hs : d.engine.commitments.snapshot? voter epoch = some s) (hamount : paid.amount = claim.share)
    (htotal : claim.cumulativeClaimed.toNat =
      (g.fee claim.side).cumulativeClaimed.toNat + claim.share.toNat) :
    (Settlement.fee voter gauge epoch claim.side paid).apply d =
      { d with
        tokens := d.tokens.moveAll paid.due
        engine := d.engine.recordFeeClaim g s claim } := by
  obtain rfl := Registry.target_of_find? hgauge
  have hcounted : g.addClaimed claim.side claim.share = claim.applyToGauge g := by
    unfold Gauge.addClaimed
    rw [← Amount.eq_add htotal]
  unfold Settlement.apply Settlement.onGauges Settlement.onSnapshots
  dsimp only
  rw [Table.modify_of_find? hgauge, Table.modify_of_find? hs, hamount, hcounted]
  rfl

theorem apply_reward {b : Bribe} {claim : BribeClaim} {bribes : BribeLedger}
    (hrecorded : d.engine.bribes.recordClaim claim = .ok bribes)
    (hbribe : d.engine.bribes.bribes.find? claim.bribe = some b)
    (hamount : paid.amount = claim.amount) :
    (Settlement.reward claim.voter claim.bribe claim.epoch paid).apply d =
      { d with
        tokens := d.tokens.moveAll paid.due
        engine := { d.engine with bribes } } := by
  obtain ⟨total, htotal, rfl⟩ := (BribeLedger.recordClaim_eq_ok_iff hbribe).mp hrecorded
  have hcounted : b.addTotals claim.amount 0 = { b with claimedAmount := total } := by
    unfold Bribe.addTotals Bribe.withTotals
    rw [← Amount.eq_add htotal, UInt64.add_zero]
  unfold Settlement.apply Settlement.onBribes
  dsimp only
  rw [Table.modify_of_find? hbribe, hamount, hcounted]
  rfl

theorem apply_clawback {b : Bribe} {clawback : BribeClawback} {bribes : BribeLedger}
    (hrecorded : d.engine.bribes.recordClawback clawback = .ok bribes)
    (hbribe : d.engine.bribes.bribes.find? clawback.bribe = some b)
    (hamount : paid.amount = clawback.amount) :
    (Settlement.clawback clawback.bribe clawback.epoch paid).apply d =
      { d with
        tokens := d.tokens.move paid
        engine := { d.engine with bribes } } := by
  obtain ⟨total, htotal, rfl⟩ := (BribeLedger.recordClawback_eq_ok_iff hbribe).mp hrecorded
  have hcounted : b.addTotals 0 clawback.amount = { b with clawedBackAmount := total } := by
    unfold Bribe.addTotals Bribe.withTotals
    rw [← Amount.eq_add htotal, UInt64.add_zero]
  unfold Settlement.apply Settlement.onBribes
  dsimp only
  rw [Table.modify_of_find? hbribe, hamount, hcounted]
  rfl

theorem apply_close {r : EpochGauge} {s : Snapshot} {x : EpochVote}
    {gaugeClosed voterClosed : UInt64}
    (hr : d.engine.commitments.epochGauge? x.gauge x.epoch = some r)
    (hs : d.engine.commitments.snapshot? x.voter x.epoch = some s)
    (hgaugeClosed : gaugeClosed.toNat = r.closedPower.toNat + x.allocatedPower.toNat)
    (hvoterClosed : voterClosed.toNat = s.closedPower.toNat + x.allocatedPower.toNat) :
    (Settlement.close x.voter x.gauge x.epoch x.allocatedPower).apply d =
      { d with
        engine := { d.engine with
          commitments := d.engine.commitments.closeVote r s x gaugeClosed voterClosed } } := by
  obtain rfl := Amount.eq_add hgaugeClosed
  obtain rfl := Amount.eq_add hvoterClosed
  unfold Settlement.apply Settlement.onEpochGauges Settlement.onSnapshots
  dsimp only
  rw [Table.modify_of_find? hr, Table.modify_of_find? hs]
  rfl

theorem apply_clean {g : Gauge} {r : EpochGauge} {pruned : PerSide UInt64}
    (hgauge : d.engine.registry.gauges.find? gauge = some g)
    (hpruned : g.prunedTotals r = .ok pruned) :
    (Settlement.clean gauge epoch r.accruedFees).apply d =
      { d with engine := d.engine.recordClean g epoch pruned } := by
  obtain rfl := Registry.target_of_find? hgauge
  have hcounted : g.addPruned r.accruedFees = g.setPruned pruned := by
    refine congrArg g.setPruned (PerSide.ext_get fun side => ?_)
    rw [PerSide.get_ofFn, Amount.eq_add (Gauge.prunedTotals_eq_ok_iff.mp hpruned side)]
    rfl
  unfold Settlement.apply Settlement.onGauges
  dsimp only
  rw [Table.modify_of_find? hgauge, hcounted]
  rfl

/-! ## What a call does -/

theorem settle_due {p : Payment} {tokens : TokenLedger} {c : Custody} (hc : c ∈ S)
    (hsource : c.address = p.source) (htarget : Outside S p.target)
    {payments : List Payment} (hpayments : payments = [p] ∨ payments = p.due)
    (hpaid : d.tokens.settle payments = .ok tokens) : tokens = d.tokens.moveAll payments := by
  have hapart : p.source ≠ p.target := by
    rw [← hsource]
    exact htarget c hc
  refine TokenLedger.moveAll_of_settle (fun q hq => ?_) hpaid
  rcases hpayments with rfl | rfl
  · obtain rfl := List.mem_singleton.mp hq
    exact hapart
  · unfold Payment.due at hq
    split at hq
    · cases hq
    · obtain rfl := List.mem_singleton.mp hq
      exact hapart

/-- A call that succeeds does what is due: it leaves what the settlement writes, and it makes
the settlement's payments. -/
structure Discharges (d : Deployment) (operation : Operation) (reply : Reply) (d' : Deployment)
    (w : Settlement) : Prop where
  due : d.settlement? operation = some w
  leaves : d' = w.apply d
  pays : d.paymentsFor operation reply = .ok w.payments

/-- The claim of a part of the fees that finds power. -/
theorem discharges_fee {authority : Option Address} {side : FeeSide} {lock : Lock} {g : Gauge}
    {record : EpochGauge} {s : Snapshot} {claim : FeeClaim} {tokens : TokenLedger}
    (hguarded : Guarded S d) (hlock : d.escrow.lock? voter = some lock)
    (hdelegate : authority.getD (d.escrow.delegateOf voter) = lock.delegate)
    (helapsed : epoch < d.engine.currentEpoch)
    (hgauge : d.engine.registry.gauges.find? gauge = some g)
    (hrecord : d.engine.commitments.epochGauge? gauge epoch = some record)
    (hs : d.engine.commitments.snapshot? voter epoch = some s)
    (hclaim : FeeClaim.compute g record s (d.engine.commitments.allocation? voter gauge epoch)
      side = .ok (some claim))
    (hpaid : d.tokens.settle (claim.payment g lock.owner).due = .ok tokens) :
    Discharges d (.claimFee authority voter gauge epoch side) (.amount claim.share)
      { d with tokens, engine := d.engine.recordFeeClaim g s claim }
      (.fee voter gauge epoch side (claim.payment g lock.owner)) := by
  obtain ⟨hnew, hpower, a, ha, rfl, hshare, htotal⟩ := FeeClaim.compute_eq_ok_some_iff.mp hclaim
  obtain rfl := Registry.target_of_find? hgauge
  rw [← feesAt_of_epochGauge? hrecord] at hshare
  have hpermits : d.permits (.claimFee authority voter g.target epoch claim.side) = true :=
    actsFor_eq_true_iff.mpr ⟨lock, hlock, hdelegate⟩
  have hvoted : d.engine.commitments.power g.target epoch ≠ 0 := by
    rw [power_of_epochGauge? hrecord]
    exact fun hzero => hpower (UInt64.toNat_inj.mp hzero)
  have hunclaimed : d.engine.hasClaimed voter (.fees g.target epoch claim.side) = false := by
    rw [hasClaimed_fees, hs]
    exact hnew
  have hpart : claim.share.toNat = d.engine.commitments.part
      (d.engine.commitments.feesAt g.target epoch claim.side) g.target epoch voter := by
    rw [hshare, part, allocationOf, ha, power_of_epochGauge? hrecord]
    rfl
  have hvault := hguarded.gauges g.target g hgauge _
    (Custody.feeVault_mem_ofTarget g.target claim.side)
  obtain rfl := settle_due hvault rfl (hguarded.owners voter lock hlock) (Or.inr rfl) hpaid
  refine ⟨?_, (apply_fee hgauge hs rfl htotal).symm, ?_⟩
  · exact settlement?_claim rfl hpermits hlock (.fees claim.side)
      (mint?_fees hgauge epoch claim.side) hvoted ha helapsed hunclaimed hpart
  · exact bind_eq_ok_iff.mpr ⟨g, Registry.get_eq_ok_iff.mpr hgauge,
      bind_eq_ok_iff.mpr ⟨lock, Escrow.lock_eq_ok_iff.mpr hlock, rfl⟩⟩

/-- The claim of a part of a bribe's reward. -/
theorem discharges_reward {authority : Option Address} {id : UInt64} {lock : Lock} {b : Bribe}
    {claim : BribeClaim} {bribes : BribeLedger} {tokens : TokenLedger}
    (hguarded : Guarded S d) (hlock : d.escrow.lock? voter = some lock)
    (hdelegate : authority.getD (d.escrow.delegateOf voter) = lock.delegate)
    (helapsed : epoch < d.engine.currentEpoch)
    (hbribe : d.engine.bribes.bribes.find? id = some b)
    (hclaim : d.engine.bribes.checkClaim voter id epoch (d.engine.totalPower b.gauge epoch)
      (d.engine.commitments.allocation? voter b.gauge epoch) = .ok claim)
    (hpaid : d.tokens.settle (b.payment lock.owner claim.amount).due = .ok tokens)
    (hrecorded : d.engine.bribes.recordClaim claim = .ok bribes) :
    Discharges d (.claimBribe authority voter id epoch) (.amount claim.amount)
      { d with tokens, engine := { d.engine with bribes } }
      (.reward voter id epoch (b.payment lock.owner claim.amount)) := by
  obtain ⟨rfl, rfl, rfl, hcovers, hnew, hpower, a, ha, hshare, -⟩ :=
    (BribeLedger.checkClaim_eq_ok_iff hbribe).mp hclaim
  have hpermits : d.permits (.claimBribe authority claim.voter claim.bribe claim.epoch) = true :=
    actsFor_eq_true_iff.mpr ⟨lock, hlock, hdelegate⟩
  have hvoted : d.engine.commitments.power b.gauge claim.epoch ≠ 0 := by
    rw [← totalPower_toNat]
    exact fun hzero => hpower (UInt64.toNat_inj.mp hzero)
  have hpart : claim.amount.toNat = d.engine.commitments.part b.rewardPerEpoch.toNat b.gauge
      claim.epoch claim.voter := by
    rw [hshare, part, allocationOf, ha, totalPower_toNat]
    rfl
  have hvault := (hguarded.bribes claim.bribe b hbribe).1
  obtain rfl := settle_due hvault (address_bribeVault hbribe)
    (hguarded.owners claim.voter lock hlock) (Or.inr rfl) hpaid
  have hpayment : b.payment lock.owner claim.amount =
      ⟨b.mint, (Pot.reward claim.bribe claim.epoch).vault, lock.owner, claim.amount⟩ := by
    rw [← BribeLedger.id_of_find? hbribe]
    rfl
  refine ⟨?_, (apply_reward hrecorded hbribe rfl).symm, ?_⟩
  · rw [hpayment]
    exact settlement?_claim rfl hpermits hlock (.reward hbribe rfl hcovers)
      (mint?_reward hbribe claim.epoch) hvoted ha helapsed hnew hpart
  · exact bind_eq_ok_iff.mpr ⟨b, BribeLedger.get_eq_ok_iff.mpr hbribe,
      bind_eq_ok_iff.mpr ⟨lock, Escrow.lock_eq_ok_iff.mpr hlock, rfl⟩⟩

/-- The return of an unvoted epoch's reward. -/
theorem discharges_clawback {briber : Address} {id : UInt64} {b : Bribe}
    {clawback : BribeClawback} {bribes : BribeLedger} {tokens : TokenLedger}
    (hguarded : Guarded S d) (helapsed : epoch < d.engine.currentEpoch)
    (hbribe : d.engine.bribes.bribes.find? id = some b)
    (hclawback : d.engine.bribes.checkClawback briber id epoch
      (d.engine.totalPower b.gauge epoch) = .ok clawback)
    (hpaid : d.tokens.settle [b.payment b.briber clawback.amount] = .ok tokens)
    (hrecorded : d.engine.bribes.recordClawback clawback = .ok bribes) :
    Discharges d (.clawBackBribe briber id epoch) (.amount clawback.amount)
      { d with tokens, engine := { d.engine with bribes } }
      (.clawback id epoch (b.payment b.briber clawback.amount)) := by
  obtain ⟨rfl, rfl, hcovers, hzero, hnew, -⟩ :=
    (BribeLedger.checkClawback_eq_ok_iff hbribe).mp hclawback
  have hpermits : d.permits (.clawBackBribe b.briber id epoch) = true :=
    isBriber_eq_true_iff.mpr ⟨b, hbribe, rfl⟩
  have hunvoted : d.engine.commitments.power b.gauge epoch = 0 := by
    rw [← totalPower_toNat, hzero]
    rfl
  obtain ⟨hvault, hbriber⟩ := hguarded.bribes id b hbribe
  obtain rfl := settle_due hvault (address_bribeVault hbribe) hbriber (Or.inl rfl) hpaid
  refine ⟨?_, (apply_clawback hrecorded hbribe rfl).symm, ?_⟩
  · exact (settlement?_eq rfl hpermits).trans
      (due?_clawback_eq_some_iff.mpr ⟨b, hbribe, ⟨helapsed, hcovers, hunvoted, hnew⟩, rfl⟩)
  · exact bind_eq_ok_iff.mpr ⟨b, BribeLedger.get_eq_ok_iff.mpr hbribe, rfl⟩

/-- The closing of a vote. -/
theorem discharges_close {authority : Option Address} {allocated : UInt64} {engine : Engine}
    (hcall : d.engine.close d.escrow (authority.getD (d.escrow.delegateOf voter)) voter gauge
      epoch = .ok (allocated, engine)) :
    Discharges d (.close authority voter gauge epoch) (.amount allocated) { d with engine }
      (.close voter gauge epoch allocated) := by
  obtain ⟨lock, hlock, hcall⟩ := bind_eq_ok_iff.mp hcall
  obtain ⟨_, helapsed, hcall⟩ := bind_eq_ok_iff.mp hcall
  obtain ⟨⟨x, commitments⟩, hclose, heq⟩ := bind_eq_ok_iff.mp hcall
  cases heq
  rw [Escrow.requireDelegate_eq_ok_iff] at hlock
  rw [Factory.requireElapsed_eq_ok_iff] at helapsed
  obtain ⟨hx, r, s, hr, hs, gaugeClosed, voterClosed, hgaugeClosed, hvoterClosed, rfl⟩ :=
    Commitments.close_eq_ok_iff.mp hclose
  have hpermits : d.permits (.close authority voter gauge epoch) = true :=
    actsFor_eq_true_iff.mpr ⟨lock, hlock⟩
  obtain ⟨rfl, rfl, rfl⟩ := key_of_vote? hx
  refine ⟨?_, (apply_close hr hs hgaugeClosed hvoterClosed).symm, rfl⟩
  exact (settlement?_eq rfl hpermits).trans (due?_vote_eq_some_iff.mpr ⟨x, hx, helapsed, rfl⟩)

/-- The cleaning of an unvoted record. -/
theorem discharges_clean {g : Gauge} {r : EpochGauge} {pruned : PerSide UInt64}
    (helapsed : epoch < d.engine.currentEpoch)
    (hrecord : d.engine.commitments.epochGauge? gauge epoch = some r) (hempty : r.totalPower = 0)
    (hgauge : d.engine.registry.gauges.find? gauge = some g)
    (hpruned : g.prunedTotals r = .ok pruned) :
    Discharges d (.cleanEpochGauge gauge epoch) .done
      { d with engine := d.engine.recordClean g epoch pruned }
      (.clean gauge epoch r.accruedFees) := by
  refine ⟨?_, (apply_clean hgauge hpruned).symm, rfl⟩
  exact (settlement?_eq rfl rfl).trans
    (due?_record_eq_some_iff.mpr ⟨r, hrecord, ⟨helapsed, hempty⟩, rfl⟩)

/-- The claim of a part of the fees that finds no power. -/
theorem settlement?_unvoted {authority : Option Address} {side : FeeSide} {record : EpochGauge}
    (hacts : d.actsFor authority voter = true)
    (hrecord : d.engine.commitments.epochGauge? gauge epoch = some record)
    (hzero : record.totalPower = 0) :
    d.settlement? (.claimFee authority voter gauge epoch side) = none := by
  have hpermits : d.permits (.claimFee authority voter gauge epoch side) = true := hacts
  have hunvoted : d.engine.commitments.power gauge epoch = 0 := by
    rw [power_of_epochGauge? hrecord, hzero]
    rfl
  have hnone : d.engine.offer? (.fees gauge epoch side) = none :=
    if_neg fun hvoted => hvoted.2 hunvoted
  exact (settlement?_eq rfl hpermits).trans (due?_claim_of_none hnone)

/-- A call to settle something that succeeds does what is due, or nothing. -/
theorem Step.settles (h : Step d operation reply d') (hitem : operation.item? = some item)
    (hguarded : Guarded S d) :
    (d.settlement? operation = none ∧ d' = d ∧ d.paymentsFor operation reply = .ok []) ∨
      ∃ w, Discharges d operation reply d' w := by
  cases h with
  | unvotedFee hlock hdelegate helapsed hgauge hrecord hs hclaim =>
    obtain ⟨-, hzero⟩ := FeeClaim.compute_eq_ok_none_iff.mp hclaim
    have hacts := actsFor_eq_true_iff.mpr ⟨_, hlock, hdelegate⟩
    refine Or.inl ⟨settlement?_unvoted hacts hrecord hzero, rfl, ?_⟩
    exact bind_eq_ok_iff.mpr ⟨_, Registry.get_eq_ok_iff.mpr hgauge,
      bind_eq_ok_iff.mpr ⟨_, Escrow.lock_eq_ok_iff.mpr hlock, rfl⟩⟩
  | feePaid hlock hdelegate helapsed hgauge hrecord hs hclaim hpaid =>
    exact Or.inr ⟨_, discharges_fee hguarded hlock hdelegate helapsed hgauge hrecord hs hclaim
      hpaid⟩
  | bribePaid hlock hdelegate helapsed hbribe hclaim hpaid hrecorded =>
    exact Or.inr ⟨_, discharges_reward hguarded hlock hdelegate helapsed hbribe hclaim hpaid
      hrecorded⟩
  | bribeReturned helapsed hbribe hclawback hpaid hrecorded =>
    exact Or.inr ⟨_, discharges_clawback hguarded helapsed hbribe hclawback hpaid hrecorded⟩
  | close hcall => exact Or.inr ⟨_, discharges_close hcall⟩
  | cleaned helapsed hrecord hempty hgauge hpruned =>
    exact Or.inr ⟨_, discharges_clean helapsed hrecord hempty hgauge hpruned⟩
  | _ => cases hitem

/-! ## Nothing that is due is refused -/

theorem succeeds_close {authority : Option Address} {x : EpochVote}
    (hsound : d.engine.Sound) (hacts : d.actsFor authority voter = true)
    (hx : d.engine.commitments.vote? voter gauge epoch = some x)
    (helapsed : epoch < d.engine.currentEpoch) :
    Succeeds (perform (.close authority voter gauge epoch)) d := by
  obtain ⟨lock, hlock, hdelegate⟩ := actsFor_eq_true_iff.mp hacts
  obtain ⟨r, s, hr, hs, hfits, hfits'⟩ := hsound.power.consistent.room_to_close hx
  obtain ⟨c, hclosed⟩ : ∃ c, d.engine.commitments.close voter gauge epoch = .ok (x, c) :=
    ⟨_, Commitments.close_eq_ok_iff.mpr ⟨hx, r, s, hr, hs, _, _, Amount.toNat_ofNat hfits,
      Amount.toNat_ofNat hfits', rfl⟩⟩
  have hcall : d.engine.close d.escrow (authority.getD (d.escrow.delegateOf voter)) voter gauge
      epoch = .ok (x.allocatedPower, { d.engine with commitments := c }) :=
    bind_eq_ok_iff.mpr ⟨lock, Escrow.requireDelegate_eq_ok_iff.mpr ⟨hlock, hdelegate⟩,
      bind_eq_ok_iff.mpr ⟨(), Factory.requireElapsed_eq_ok_iff.mpr helapsed,
        bind_eq_ok_iff.mpr ⟨_, hclosed, rfl⟩⟩⟩
  exact ⟨_, _, run_map_eq_ok_iff.mpr ⟨_, run_onEngine_eq_ok_iff.mpr ⟨_, hcall, rfl⟩, rfl⟩⟩

/-- A record's fees are among those that its gauge has accrued. -/
theorem exists_prunedTotals {g : Gauge} {r : EpochGauge} (hsound : d.engine.Sound)
    (hgauge : d.engine.registry.gauges.find? gauge = some g)
    (hr : d.engine.commitments.epochGauge? gauge epoch = some r) :
    ∃ pruned, g.prunedTotals r = .ok pruned := by
  have hfits (side : FeeSide) :
      (g.fee side).prunedAccrued.toNat + (r.accruedFee side).toNat < 2 ^ 64 := by
    have haccrued := hsound.fees.accrued_eq gauge g hgauge side
    have hle := Table.le_total_of_mem (Table.mem_of_find? hr) (f := fun r : EpochGauge =>
      if r.gauge = gauge then (r.accruedFee side).toNat else 0)
    change _ ≤ d.engine.commitments.feesOn gauge side at hle
    rw [if_pos (key_of_epochGauge? hr).1] at hle
    have hlt := (g.fee side).cumulativeAccrued.toNat_lt
    omega
  refine ⟨PerSide.ofFn fun side =>
    UInt64.ofNat ((g.fee side).prunedAccrued.toNat + (r.accruedFee side).toNat),
    Gauge.prunedTotals_eq_ok_iff.mpr fun side => ?_⟩
  rw [PerSide.get_ofFn, Amount.toNat_ofNat (hfits side)]

theorem succeeds_clean {r : EpochGauge} (hsound : d.engine.Sound)
    (hr : d.engine.commitments.epochGauge? gauge epoch = some r)
    (helapsed : epoch < d.engine.currentEpoch) (hzero : r.totalPower = 0) :
    Succeeds (perform (.cleanEpochGauge gauge epoch)) d := by
  obtain ⟨g, hgauge⟩ := hsound.power.registered r (Table.mem_of_find? hr)
  rw [(key_of_epochGauge? hr).1] at hgauge
  obtain ⟨pruned, hpruned⟩ := exists_prunedTotals hsound hgauge hr
  obtain rfl := Registry.target_of_find? hgauge
  refine succeeds_bind (x := cleanEpochGauge g.target epoch)
    ⟨(), { d with engine := d.engine.recordClean g epoch pruned }, ?_⟩ fun _ _ _ => succeeds_pure _
  unfold cleanEpochGauge
  simp only [run_get_bind, run_bind_eq_ok_iff, run_lift_eq_ok_iff,
    Factory.requireElapsed_eq_ok_iff, Commitments.epochGauge_eq_ok_iff, require_passes_iff,
    beq_iff_eq, Registry.get_eq_ok_iff, run_changeEngine_eq_ok_iff]
  refine ⟨(), d, ⟨helapsed, rfl⟩, r, d, ⟨hr, rfl⟩, (), d, ⟨hzero, rfl⟩, g, d, ⟨hgauge, rfl⟩,
    pruned, d, ⟨hpruned, rfl⟩, (), _, ⟨{ d.engine with commitments := {
      d.engine.commitments with
        epochGauges := d.engine.commitments.epochGauges.erase (g.target, epoch) } }, ?_, rfl⟩,
    d.engine.recordClean g epoch pruned, ?_, rfl⟩
  · rw [removeEmptyEpochGauge_of_empty hr hzero]
    rfl
  · simp only [Registry.update_of_find? hgauge]
    rfl

/-- Claims of the delegate are the same whether or not the caller is named. -/
theorem run_claim_of_authority {authority : Option Address} {lock : Lock} {pot : Pot}
    (hdelegate : authority.getD (d.escrow.delegateOf voter) = lock.delegate) :
    (perform (pot.claim authority voter)).run d =
      (perform (pot.claim (some lock.delegate) voter)).run d := by
  cases pot with
  | fees gauge epoch side =>
    show (Reply.amount <$> claimFee (authority.getD (d.escrow.delegateOf voter)) voter gauge epoch
      side).run d = (Reply.amount <$> claimFee lock.delegate voter gauge epoch side).run d
    rw [hdelegate]
  | reward bribe epoch =>
    show (Reply.amount <$> claimBribe (authority.getD (d.escrow.delegateOf voter)) voter bribe
      epoch).run d = (Reply.amount <$> claimBribe lock.delegate voter bribe epoch).run d
    rw [hdelegate]

theorem succeeds_claim {authority : Option Address} {pot : Pot} (h : InCustody S d)
    (hsupply : ∀ mint, d.tokens.supply mint < 2 ^ 64) (hacts : d.actsFor authority voter = true)
    (hdue : d.due? (.claim voter pot) = some w) :
    Succeeds (perform (pot.claim authority voter)) d := by
  obtain ⟨lock, hlock, hdelegate⟩ := actsFor_eq_true_iff.mp hacts
  obtain ⟨_, offer, a, -, hoffer, ha, hnew, -⟩ := due?_claim_eq_some_iff.mp hdue
  obtain ⟨hoffers, -, helapsed, hpower⟩ := offers_of_offer? hoffer
  obtain ⟨_, -, paid, d', hrun, -⟩ :=
    claim_pays h hsupply helapsed hpower hoffers ha hnew hlock
  exact ⟨_, d', (run_claim_of_authority hdelegate).trans hrun⟩

/-- What is due is not refused to those who may have it settled. -/
theorem succeeds_of_settlement? (h : InCustody S d)
    (hsupply : ∀ mint, d.tokens.supply mint < 2 ^ 64) (hdue : d.settlement? operation = some w) :
    Succeeds (perform operation) d := by
  obtain ⟨hpermits, hdue⟩ := Option.ite_none_right_eq_some.mp hdue
  cases operation with
  | claimFee authority voter gauge epoch side => exact succeeds_claim h hsupply hpermits hdue
  | claimBribe authority voter bribe epoch => exact succeeds_claim h hsupply hpermits hdue
  | clawBackBribe briber id epoch =>
    obtain ⟨b, hbribe, rfl⟩ := isBriber_eq_true_iff.mp hpermits
    obtain ⟨_, hbribe', ⟨helapsed, hcovers, hzero, hnew⟩, -⟩ := due?_clawback_eq_some_iff.mp hdue
    cases hbribe.symm.trans hbribe'
    rw [← totalPower_toNat] at hzero
    obtain ⟨paid, d', hrun, -⟩ := clawBack_pays h hsupply helapsed hbribe hcovers
      (UInt64.toNat_inj.mp hzero) hnew
    exact ⟨_, d', hrun⟩
  | close authority voter gauge epoch =>
    obtain ⟨x, hx, helapsed, -⟩ := due?_vote_eq_some_iff.mp hdue
    exact succeeds_close h.sound hpermits hx helapsed
  | cleanEpochGauge gauge epoch =>
    obtain ⟨r, hr, ⟨helapsed, hzero⟩, -⟩ := due?_record_eq_some_iff.mp hdue
    exact succeeds_clean h.sound hr helapsed hzero
  | _ => cases hdue

theorem basic_of_item? (hitem : operation.item? = some item) : operation.isBasic = true ∧
    operation.issues = false ∧ operation.targets = [] ∧ operation.outsiders = [] ∧
      operation.newBribes = 0 := by
  cases operation with
  | claimFee | claimBribe | clawBackBribe | close | cleanEpochGauge =>
    exact ⟨rfl, rfl, rfl, rfl, rfl⟩
  | _ => cases hitem

/-- A call to settle something does what is due, if it is due and the caller may have it
settled, and otherwise nothing. -/
theorem after_and_payments (hitem : operation.item? = some item) (h : InCustody S d)
    (hsupply : ∀ mint, d.tokens.supply mint < 2 ^ 64) :
    d.after operation = (d.settlement? operation).elim d (fun w => w.apply d) ∧
      d.payments operation = (d.settlement? operation).elim [] Settlement.payments := by
  obtain ⟨hbasic, -⟩ := basic_of_item? hitem
  cases hrun : (perform operation).run d with
  | ok reply d' =>
    rw [after_eq_leaves, leaves_of_ok hrun]
    rcases (step_of_perform hbasic hrun).settles hitem h.guarded with
      ⟨hnone, hsame, hpayments⟩ | ⟨w, hsome, hwritten, hpayments⟩
    · rw [hnone]
      exact ⟨hsame, payments_of_run hrun hpayments⟩
    · rw [hsome]
      exact ⟨hwritten, payments_of_run hrun hpayments⟩
  | error error d' =>
    have hcapture : ∀ target wanted, operation ≠ .ensureEpochGauge target wanted := by
      rintro target wanted rfl
      cases hitem
    -- What is due would not have been refused.
    have hnone : d.settlement? operation = none := by
      refine Option.eq_none_iff_forall_ne_some.mpr fun w hsome => ?_
      obtain ⟨reply, d', hok⟩ := succeeds_of_settlement? h hsupply hsome
      cases hrun.symm.trans hok
    rw [hnone, after_eq_leaves, leaves_of_error (atomic_perform hbasic hcapture) hrun]
    exact ⟨rfl, payments_of_refused (answer_of_refused hrun)⟩

end Deployment
end EpochVoting
