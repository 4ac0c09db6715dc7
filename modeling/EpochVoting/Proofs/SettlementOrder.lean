import EpochVoting.Proofs.Due

/-!
# The order of settlements

Settling one thing leaves what is due of all others as it is (`due?_after`), and nothing is
due twice (`due?_apply_self`).  With `Settlement.apply_comm` any two calls can be exchanged,
whether they succeed or not, so a list of them has the same effect and pays the same for
each item in every order (`settlement_order`).
-/

namespace EpochVoting

/-! ## Supply -/

namespace TokenLedger

variable {t t' : TokenLedger} {mint account source target : Address} {amount : UInt64}

theorem supply_le_total (t : TokenLedger) (mint : Address) :
    t.supply mint ≤ t.balances.total fun b => b.amount.toNat := by
  refine Table.total_mono fun b _ => ?_
  split
  · exact Nat.le_refl _
  · exact Nat.zero_le _

theorem supply_setBalance (t : TokenLedger) (mint account : Address) (amount : UInt64)
    (m : Address) : (t.setBalance mint account amount).supply m +
      (if mint = m then (t.balance mint account).toNat else 0) =
        t.supply m + if mint = m then amount.toNat else 0 := by
  refine Eq.trans ?_ (Table.total_insert t.balances ⟨mint, account, amount⟩
    fun b => if b.mint = m then b.amount.toNat else 0)
  refine congrArg (_ + ·) ?_
  change _ = (t.balances.find? (mint, account)).elim 0 _
  unfold balance
  cases hfound : t.balances.find? (mint, account) with
  | none => exact ite_self 0
  | some b =>
    have hmint : b.mint = mint := (Prod.mk.inj (Table.key_of_find? hfound)).1
    rw [Option.elim_some, hmint]
    rfl

/-- Transfers bring no tokens into being and destroy none. -/
theorem supply_transfer (h : t.transfer mint source target amount = .ok t') (m : Address) :
    t'.supply m = t.supply m := by
  obtain ⟨left, hleft, hrest⟩ := bind_eq_ok_iff.mp h
  rw [demand_eq_ok_iff, Amount.sub?_eq_some_iff] at hleft
  by_cases hself : source = target
  · rw [if_pos hself] at hrest
    cases hrest
    rfl
  · rw [if_neg hself] at hrest
    obtain ⟨credited, hcredited, hset⟩ := bind_eq_ok_iff.mp hrest
    cases hset
    rw [demand_eq_ok_iff, Amount.add?_eq_some_iff] at hcredited
    have hother : (t.setBalance mint source left).balance mint target = t.balance mint target := by
      rw [balance_setBalance, if_neg fun hkey => hself hkey.2]
    have hdebit := t.supply_setBalance mint source left m
    have hcredit := (t.setBalance mint source left).supply_setBalance mint target credited m
    rw [hother] at hcredit
    change ((t.setBalance mint source left).setBalance mint target credited).supply m = _
    by_cases hmint : mint = m
    · rw [if_pos hmint, if_pos hmint] at hdebit hcredit
      omega
    · rw [if_neg hmint, if_neg hmint] at hdebit hcredit
      omega

theorem supply_settle {payments : List Payment} (h : t.settle payments = .ok t') (m : Address) :
    t'.supply m = t.supply m := by
  induction payments generalizing t with
  | nil => rw [settle_nil h]
  | cons p rest ih =>
    obtain ⟨t₁, hp, hrest⟩ := bind_eq_ok_iff.mp h
    exact (ih hrest).trans (supply_transfer hp m)

end TokenLedger

/-! ## What a settlement leaves to others -/

/-- What is computed from a part of a record is the same for records that agree in it. -/
theorem bind_of_map_eq {α β γ : Type} {read : α → γ} {a? a'? : Option α}
    (h : a'?.map read = a?.map read) (f : γ → Option β) :
    a'?.bind (fun a => f (read a)) = a?.bind fun a => f (read a) := by
  have hread (a? : Option α) : a?.bind (fun a => f (read a)) = (a?.map read).bind f :=
    (Option.bind_map ..).symm
  rw [hread, hread, h]

open Commitments in
theorem Engine.offer?_congr {e e' : Engine} (hmint : ∀ pot, e'.mint? pot = e.mint? pot)
    (hterms : ∀ id, (e'.bribes.bribes.find? id).map (Bribe.withTotals · 0 0) =
      (e.bribes.bribes.find? id).map (Bribe.withTotals · 0 0))
    (hepoch : e'.currentEpoch = e.currentEpoch)
    (hagree : AgreeBefore e.currentEpoch e.commitments e'.commitments) (pot : Pot) :
    e'.offer? pot = e.offer? pot := by
  cases pot with
  | fees gauge epoch side =>
    rw [offer?, offer?, hepoch, hmint]
    by_cases helapsed : epoch < e.currentEpoch
    · rw [hagree.power gauge epoch helapsed]
      by_cases hpower : e.commitments.power gauge epoch ≠ 0
      · rw [hagree.fees gauge epoch side helapsed hpower]
      · rw [if_neg fun hover => hpower hover.2, if_neg fun hover => hpower hover.2]
    · rw [if_neg fun hover => helapsed hover.1, if_neg fun hover => helapsed hover.1]
  | reward id epoch =>
    have hoffered (b : Bribe) : (epoch < e'.currentEpoch ∧ b.covers epoch = true ∧
          e'.commitments.power b.gauge epoch ≠ 0) =
        (epoch < e.currentEpoch ∧ b.covers epoch = true ∧
          e.commitments.power b.gauge epoch ≠ 0) := by
      rw [hepoch]
      exact propext (and_congr_right fun helapsed => by
        rw [hagree.power b.gauge epoch helapsed])
    rw [offer?, offer?]
    simp only [hoffered]
    exact bind_of_map_eq (hterms id) fun b =>
      if epoch < e.currentEpoch ∧ b.covers epoch = true ∧
          e.commitments.power b.gauge epoch ≠ 0 then
        some (Offer.mk b.gauge epoch b.mint b.rewardPerEpoch.toNat)
      else none

namespace Settlement

variable {w : Settlement} {d : Deployment}

/-- The terms of a bribe are all but its running totals. -/
theorem terms_apply (w : Settlement) (d : Deployment) (id : UInt64) :
    ((w.apply d).engine.bribes.bribes.find? id).map (Bribe.withTotals · 0 0) =
      (d.engine.bribes.bribes.find? id).map (Bribe.withTotals · 0 0) := by
  cases w with
  | reward voter bribe epoch paid =>
    refine Table.find?_modify_map (fun b : Bribe => b.key_addTotals paid.amount 0) (fun b => ?_) ..
    rfl
  | clawback bribe epoch paid =>
    refine Table.find?_modify_map (fun b : Bribe => b.key_addTotals 0 paid.amount) (fun b => ?_) ..
    rfl
  | _ => rfl

theorem mint?_apply (w : Settlement) (d : Deployment) (pot : Pot) :
    (w.apply d).engine.mint? pot = d.engine.mint? pot := by
  cases pot with
  | fees gauge epoch side =>
    cases w with
    | fee voter gauge' epoch' side' paid =>
      refine Table.find?_modify_map (fun g : Gauge => g.key_addClaimed side' paid.amount)
        (fun g => ?_) ..
      rw [Gauge.fee_addClaimed]
    | clean gauge' epoch' fees =>
      refine Table.find?_modify_map (fun g : Gauge => g.key_addPruned fees) (fun g => ?_) ..
      rw [Gauge.fee_addPruned]
    | _ => rfl
  | reward id epoch =>
    have hmints := congrArg (Option.map Bribe.mint) (w.terms_apply d id)
    rw [Option.map_map, Option.map_map] at hmints
    exact hmints

theorem vote?_apply {voter gauge : Address} {epoch : Epoch} (h : w.item ≠ .vote voter gauge epoch) :
    (w.apply d).engine.commitments.vote? voter gauge epoch =
      d.engine.commitments.vote? voter gauge epoch := by
  cases w with
  | close voter' gauge' epoch' allocated =>
    refine (Commitments.vote?_erase rfl voter gauge epoch).trans (if_neg ?_)
    rintro ⟨rfl, rfl, rfl⟩
    exact h rfl
  | _ => rfl

/-- The power and the fees of a record stay until it is removed. -/
theorem record_apply {gauge : Address} {epoch : Epoch} (h : w.item ≠ .record gauge epoch) :
    ((w.apply d).engine.commitments.epochGauge? gauge epoch).map
        (fun r => (r.totalPower, r.accruedFees)) =
      (d.engine.commitments.epochGauge? gauge epoch).map
        fun r => (r.totalPower, r.accruedFees) := by
  cases w with
  | close voter gauge' epoch' allocated =>
    refine Table.find?_modify_map (fun r : EpochGauge => r.key_addClosed allocated)
      (fun r => ?_) ..
    rfl
  | clean gauge' epoch' fees =>
    refine congrArg (Option.map _) ((Commitments.epochGauge?_erase rfl gauge epoch).trans
      (if_neg ?_))
    rintro ⟨rfl, rfl⟩
    exact h rfl
  | _ => rfl

theorem hasClaimed_fee {voter gauge : Address} {epoch : Epoch} {side : FeeSide} {paid : Payment}
    {s : Snapshot} (hs : d.engine.commitments.snapshot? voter epoch = some s) :
    ((fee voter gauge epoch side paid).apply d).engine.hasClaimed voter
      (.fees gauge epoch side) = true := by
  have hwritten : ((fee voter gauge epoch side paid).apply d).engine.commitments.snapshot? voter
      epoch = some (s.markFeeClaimed gauge side) := by
    refine (Table.find?_modify (fun s : Snapshot => s.key_markFeeClaimed gauge side) _ _ _).trans
      ((if_pos rfl).trans ?_)
    exact congrArg (Option.map _) hs
  rw [Engine.hasClaimed_fees, hwritten]
  exact (Snapshot.feeClaimed_markFeeClaimed ..).trans (if_pos ⟨rfl, rfl⟩)

end Settlement

namespace Operation

variable {operation : Operation}

theorem item?_of_claim? {voter : Address} {pot : Pot} (h : operation.claim? = some (voter, pot)) :
    operation.item? = some (.claim voter pot) := by
  cases operation with
  | claimFee | claimBribe =>
    cases h
    rfl
  | _ => cases h

theorem item?_of_clawback? {id : UInt64} {epoch : Epoch}
    (h : operation.clawback? = some (id, epoch)) :
    operation.item? = some (.clawback id epoch) := by
  cases operation with
  | clawBackBribe =>
    cases h
    rfl
  | _ => cases h

end Operation

namespace Deployment

open Engine EpochVoting.Action Commitments

variable {S : Set Custody} {d : Deployment} {a b : Operation} {i j : Item}

theorem due?_of_settlement? {w : Settlement} (ha : a.item? = some i)
    (h : d.settlement? a = some w) : d.due? i = some w := by
  obtain ⟨-, hdue⟩ := Option.ite_none_right_eq_some.mp h
  rw [ha] at hdue
  exact hdue

/-- A deployment in custody that can pay what is due. -/
structure CanPay (S : Set Custody) (d : Deployment) : Prop where
  custody : InCustody S d
  supply : ∀ mint, d.tokens.supply mint < 2 ^ 64

theorem CanPay.after_eq (h : CanPay S d) (ha : a.item? = some i) :
    d.after a = (d.settlement? a).elim d fun w => w.apply d :=
  (after_and_payments ha h.custody h.supply).1

theorem CanPay.payments_eq (h : CanPay S d) (ha : a.item? = some i) :
    d.payments a = (d.settlement? a).elim [] Settlement.payments :=
  (after_and_payments ha h.custody h.supply).2

/-- Settling keeps the custody and the supply. -/
theorem CanPay.after (h : CanPay S d) (hS : Set.InjOn Custody.address S)
    (ha : a.item? = some i) : CanPay S (d.after a) := by
  obtain ⟨hbasic, hissues, htargets, houtsiders, hbribes⟩ := basic_of_item? ha
  have hguarded : a.Guarded S d := by
    constructor
    · rw [htargets]
      exact fun target htarget => absurd htarget List.not_mem_nil
    · rw [houtsiders]
      exact fun account haccount => absurd haccount List.not_mem_nil
    · exact fun hcreates => absurd hbribes hcreates
  refine ⟨h.custody.after hS hbasic hguarded, fun mint => ?_⟩
  have hsame : (d.after a).tokens.supply mint = d.tokens.supply mint := by
    cases hrun : (perform a).run d with
    | ok reply d' =>
      rw [after_eq_leaves, leaves_of_ok hrun]
      exact TokenLedger.supply_settle (settle_payments hbasic hissues hrun) mint
    | error error d' =>
      have hcapture : ∀ target wanted, a ≠ .ensureEpochGauge target wanted := by
        rintro target wanted rfl
        cases ha
      rw [after_eq_leaves, leaves_of_error (atomic_perform hbasic hcapture) hrun]
  rw [hsame]
  exact h.supply mint

/-- What is due of a claim depends on the lock, the pot and the claimed mark, and on the
commitments of elapsed epochs. -/
theorem due?_claim_congr {d d' : Deployment} {voter : Address} {pot : Pot}
    (hescrow : d'.escrow = d.escrow) (hoffer : d'.engine.offer? pot = d.engine.offer? pot)
    (hclaimed : d'.engine.hasClaimed voter pot = d.engine.hasClaimed voter pot)
    (hagree : AgreeBefore d.engine.currentEpoch d.engine.commitments d'.engine.commitments) :
    d'.due? (.claim voter pot) = d.due? (.claim voter pot) := by
  refine Option.ext fun w => ?_
  rw [due?_claim_eq_some_iff, due?_claim_eq_some_iff, hescrow, hoffer, hclaimed]
  refine exists_congr fun lock => exists_congr fun offer => exists_congr fun amount =>
    and_congr_right fun _ => and_congr_right fun hoffers => ?_
  obtain ⟨-, -, helapsed, -⟩ := offers_of_offer? hoffers
  rw [hagree.allocation voter offer.gauge offer.epoch helapsed, part, part,
    hagree.allocationOf helapsed, hagree.power offer.gauge offer.epoch helapsed]

/-- What is due of a clawback depends on the bribe's terms and the clawed back mark, and on the
power in elapsed epochs. -/
theorem due?_clawback_congr {d d' : Deployment} {id : UInt64} {epoch : Epoch}
    (hepoch : d'.engine.currentEpoch = d.engine.currentEpoch)
    (hterms : (d'.engine.bribes.bribes.find? id).map (Bribe.withTotals · 0 0) =
      (d.engine.bribes.bribes.find? id).map (Bribe.withTotals · 0 0))
    (hreturned : d'.engine.bribes.isClawedBack id epoch = d.engine.bribes.isClawedBack id epoch)
    (hagree : AgreeBefore d.engine.currentEpoch d.engine.commitments d'.engine.commitments) :
    d'.due? (.clawback id epoch) = d.due? (.clawback id epoch) := by
  have hunvoted (b : Bribe) : (epoch < d'.engine.currentEpoch ∧ b.covers epoch = true ∧
        d'.engine.commitments.power b.gauge epoch = 0 ∧
        d'.engine.bribes.isClawedBack id epoch = false) =
      (epoch < d.engine.currentEpoch ∧ b.covers epoch = true ∧
        d.engine.commitments.power b.gauge epoch = 0 ∧
        d.engine.bribes.isClawedBack id epoch = false) := by
    rw [hepoch, hreturned]
    exact propext (and_congr_right fun helapsed => by
      rw [hagree.power b.gauge epoch helapsed])
  rw [due?, due?]
  simp only [hunvoted]
  exact bind_of_map_eq hterms fun b =>
    if epoch < d.engine.currentEpoch ∧ b.covers epoch = true ∧
        d.engine.commitments.power b.gauge epoch = 0 ∧
        d.engine.bribes.isClawedBack id epoch = false then
      some (Settlement.clawback id epoch (b.payment b.briber b.rewardPerEpoch))
    else none

/-- Settling one item leaves what is due of the others. -/
theorem CanPay.due?_after (h : CanPay S d) (ha : a.item? = some i) (hne : i ≠ j) :
    (d.after a).due? j = d.due? j := by
  obtain ⟨hbasic, -⟩ := basic_of_item? ha
  have hafter := h.after_eq ha
  cases hsettled : d.settlement? a with
  | none =>
    rw [hafter, hsettled]
    rfl
  | some w =>
    have hsame : d.after a = w.apply d := by
      rw [hafter, hsettled]
      rfl
    have hagree : AgreeBefore d.engine.currentEpoch d.engine.commitments
        (w.apply d).engine.commitments := by
      rw [← hsame]
      rcases change_of_after (d := d) hbasic with hkept | hchange
      · rw [hkept]
        exact .refl _ _
      · exact hchange.final
    have hitem : w.item ≠ j := by
      rw [item_of_due? (due?_of_settlement? ha hsettled)]
      exact hne
    rw [hsame]
    cases j with
    | claim voter pot =>
      have hclaimed : (w.apply d).engine.hasClaimed voter pot = d.engine.hasClaimed voter pot := by
        rw [← hsame]
        refine hasClaimed_after_of_other fun hclaim => hne ?_
        exact Option.some.inj (ha.symm.trans (Operation.item?_of_claim? hclaim))
      exact due?_claim_congr rfl (offer?_congr (w.mint?_apply d) (w.terms_apply d) rfl hagree pot)
        hclaimed hagree
    | clawback id epoch =>
      have hreturned : (w.apply d).engine.bribes.isClawedBack id epoch =
          d.engine.bribes.isClawedBack id epoch := by
        rw [← hsame]
        refine isClawedBack_after fun hclaws => hne ?_
        exact Option.some.inj (ha.symm.trans (Operation.item?_of_clawback? hclaws.1))
      exact due?_clawback_congr rfl (w.terms_apply d id) hreturned hagree
    | vote voter gauge epoch =>
      rw [due?, due?, Settlement.vote?_apply hitem]
      rfl
    | record gauge epoch =>
      exact bind_of_map_eq (Settlement.record_apply hitem) fun powerAndFees =>
        if epoch < d.engine.currentEpoch ∧ powerAndFees.1 = 0 then
          some (Settlement.clean gauge epoch powerAndFees.2)
        else none

/-- What has been settled is not due any more. -/
theorem due?_apply_self {w : Settlement} (hsound : d.engine.Sound) (h : d.due? i = some w) :
    (w.apply d).due? i = none := by
  refine Option.eq_none_iff_forall_ne_some.mpr fun v hdue => ?_
  cases i with
  | claim voter pot =>
    obtain ⟨lock, offer, amount, -, hoffer, hallocation, -, rfl⟩ := due?_claim_eq_some_iff.mp h
    obtain ⟨_, _, _, -, -, -, hnew, -⟩ := due?_claim_eq_some_iff.mp hdue
    cases pot with
    | fees gauge epoch side =>
      obtain ⟨-, hoffer⟩ := Option.ite_none_right_eq_some.mp hoffer
      obtain ⟨mint, -, rfl⟩ := Option.map_eq_some_iff.mp hoffer
      obtain ⟨s, hs⟩ := hsound.power.consistent.snapshot?_of_allocation hallocation
      cases hnew.symm.trans (Settlement.hasClaimed_fee hs)
    | reward id epoch =>
      have hfiled := Table.find?_insert_self d.engine.bribes.claims ⟨voter, id, epoch, UInt64.ofNat
        (d.engine.commitments.part offer.value offer.gauge offer.epoch voter)⟩
      cases hnew.symm.trans (Option.isSome_iff_exists.mpr ⟨_, hfiled⟩)
  | clawback id epoch =>
    obtain ⟨b, -, -, rfl⟩ := due?_clawback_eq_some_iff.mp h
    obtain ⟨_, -, ⟨-, -, -, hnew⟩, -⟩ := due?_clawback_eq_some_iff.mp hdue
    have hfiled := Table.find?_insert_self d.engine.bribes.clawbacks ⟨id, epoch, b.rewardPerEpoch⟩
    cases hnew.symm.trans (Option.isSome_iff_exists.mpr ⟨_, hfiled⟩)
  | vote voter gauge epoch =>
    obtain ⟨x, hx, -, rfl⟩ := due?_vote_eq_some_iff.mp h
    obtain ⟨_, hfound, -⟩ := due?_vote_eq_some_iff.mp hdue
    cases (Table.find?_erase_self d.engine.commitments.votes _).symm.trans hfound
  | record gauge epoch =>
    obtain ⟨r, hr, -, rfl⟩ := due?_record_eq_some_iff.mp h
    obtain ⟨_, hfound, -⟩ := due?_record_eq_some_iff.mp hdue
    cases (Table.find?_erase_self d.engine.commitments.epochGauges _).symm.trans hfound

/-- Who may settle what stays the same. -/
theorem CanPay.permits_after (h : CanPay S d) (ha : a.item? = some i) (b : Operation) :
    (d.after a).permits b = d.permits b := by
  rw [h.after_eq ha]
  cases d.settlement? a with
  | none => rfl
  | some w =>
    show (w.apply d).permits b = d.permits b
    cases b with
    | clawBackBribe briber id epoch =>
      have hread (b? : Option Bribe) : b?.any (fun b => briber == b.briber) =
          (b?.map (Bribe.withTotals · 0 0)).any fun b => briber == b.briber := by
        cases b? <;> rfl
      exact ((hread _).trans (congrArg _ (w.terms_apply d id))).trans (hread _).symm
    | _ => rfl

/-- After a call, the same is to be settled as before, but for what the call has settled. -/
theorem CanPay.settlement?_after (h : CanPay S d) (ha : a.item? = some i) (hb : b.item? = some j) :
    (d.after a).settlement? b =
      if i = j ∧ (d.settlement? a).isSome = true then none else d.settlement? b := by
  cases hsettled : d.settlement? a with
  | none =>
    have hsame : d.after a = d := by
      rw [h.after_eq ha, hsettled]
      rfl
    rw [hsame, if_neg fun hboth => Bool.false_ne_true hboth.2]
  | some w =>
    unfold settlement?
    rw [h.permits_after ha, hb, Option.bind_some, Option.bind_some]
    by_cases hsame : i = j
    · subst hsame
      have hdue : (d.after a).due? i = none := by
        rw [h.after_eq ha, hsettled]
        exact due?_apply_self h.custody.sound (due?_of_settlement? ha hsettled)
      rw [hdue, ite_self, if_pos ⟨rfl, rfl⟩]
    · rw [h.due?_after ha hsame]
      exact (if_neg fun hboth => hsame hboth.1).symm

/-! ## Two calls -/

/-- Two calls have the same effect in either order. -/
theorem CanPay.after_comm (h : CanPay S d) (hS : Set.InjOn Custody.address S)
    (ha : a.item? = some i) (hb : b.item? = some j) :
    (d.after a).after b = (d.after b).after a := by
  rw [(h.after hS ha).after_eq hb, (h.after hS hb).after_eq ha, h.settlement?_after ha hb,
    h.settlement?_after hb ha, h.after_eq ha, h.after_eq hb]
  cases hw : d.settlement? a with
  | none =>
    cases hv : d.settlement? b with
    | none => simp
    | some v => simp
  | some w =>
    cases hv : d.settlement? b with
    | none => simp
    | some v =>
      by_cases hsame : i = j
      · -- The second of two calls for one item finds nothing due.
        subst hsame
        have hdue := (due?_of_settlement? ha hw).symm.trans (due?_of_settlement? hb hv)
        simpa using congrArg (Settlement.apply · d) (Option.some.inj hdue)
      · have hitems : v.item ≠ w.item := by
          rw [item_of_due? (due?_of_settlement? ha hw), item_of_due? (due?_of_settlement? hb hv)]
          exact Ne.symm hsame
        simpa [hsame, Ne.symm hsame] using Settlement.apply_comm hitems d

/-! ## What is paid for an item -/

/-- What an operation pays for an item. -/
def paidFor (item : Item) (d : Deployment) (operation : Operation) : Nat :=
  if operation.item? = some item then
    ((d.payments operation).map fun p => p.amount.toNat).sum
  else 0

/-- What the operations of a list, one after the other, pay for an item. -/
def paidOver (item : Item) (d : Deployment) : List Operation → Nat
  | [] => 0
  | operation :: rest => d.paidFor item operation + paidOver item (d.after operation) rest

/-- Two calls pay the same for each item in either order. -/
theorem CanPay.paidFor_comm (h : CanPay S d) (hS : Set.InjOn Custody.address S)
    (ha : a.item? = some i) (hb : b.item? = some j) (item : Item) :
    d.paidFor item a + (d.after a).paidFor item b =
      d.paidFor item b + (d.after b).paidFor item a := by
  unfold paidFor
  rw [ha, hb, (h.after hS ha).payments_eq hb, (h.after hS hb).payments_eq ha,
    h.settlement?_after ha hb, h.settlement?_after hb ha, h.payments_eq ha, h.payments_eq hb]
  by_cases hsame : i = j
  · subst hsame
    by_cases hitem : some i = some item
    · rw [if_pos hitem, if_pos hitem, if_pos hitem, if_pos hitem]
      cases hw : d.settlement? a with
      | none => cases d.settlement? b <;> simp
      | some w =>
        cases hv : d.settlement? b with
        | none => simp
        | some v =>
          have hdue := (due?_of_settlement? ha hw).symm.trans (due?_of_settlement? hb hv)
          simp [Option.some.inj hdue]
    · rw [if_neg hitem, if_neg hitem, if_neg hitem, if_neg hitem]
  · simp only [hsame, Ne.symm hsame, false_and, if_false]
    exact Nat.add_comm ..

/-! ## Any number of calls -/

/-- Calls to settle something have the same effect and pay the same for each item in every
order. -/
theorem CanPay.perm (hS : Set.InjOn Custody.address S) {calls calls' : List Operation}
    (hperm : calls.Perm calls') (h : CanPay S d)
    (hcalls : ∀ call ∈ calls, call.item?.isSome = true) :
    d.afterAll calls = d.afterAll calls' ∧
      ∀ item, d.paidOver item calls = d.paidOver item calls' := by
  induction hperm generalizing d with
  | nil => exact ⟨rfl, fun _ => rfl⟩
  | @cons call rest rest' _ ih =>
    obtain ⟨i, hi⟩ := Option.isSome_iff_exists.mp (hcalls call List.mem_cons_self)
    obtain ⟨hstate, hpaid⟩ := ih (h.after hS hi) fun c hc =>
      hcalls c (List.mem_cons_of_mem call hc)
    refine ⟨?_, fun item => ?_⟩
    · rw [afterAll_cons, afterAll_cons, hstate]
    · rw [paidOver, paidOver, hpaid item]
  | swap a b rest =>
    obtain ⟨i, ha⟩ := Option.isSome_iff_exists.mp (hcalls a (by simp))
    obtain ⟨j, hb⟩ := Option.isSome_iff_exists.mp (hcalls b (by simp))
    have hstate := h.after_comm hS hb ha
    refine ⟨?_, fun item => ?_⟩
    · rw [afterAll_cons, afterAll_cons, afterAll_cons, afterAll_cons, hstate]
    · rw [paidOver, paidOver, paidOver, paidOver, hstate, ← Nat.add_assoc, ← Nat.add_assoc,
        h.paidFor_comm hS hb ha item]
  | trans hfirst _ ih ih' =>
    obtain ⟨hstate, hpaid⟩ := ih h hcalls
    obtain ⟨hstate', hpaid'⟩ := ih' h fun call hcall => hcalls call (hfirst.mem_iff.mpr hcall)
    exact ⟨hstate.trans hstate', fun item => (hpaid item).trans (hpaid' item)⟩

/-- After a segregated run, as long as the tokens of every mint fit into one amount, any list of
claims, clawbacks, closings and cleanings, whoever calls and whether or not the calls succeed,
leads to the same deployment in every order, and pays the same for each item. -/
theorem settlement_order {foreman : Address} {params : FactoryParams} {maxLockSecs : UInt64}
    (hcreate : create foreman params maxLockSecs = .ok d) {run : List Operation}
    (hrun : Segregated run) (hsupply : ∀ mint, (d.afterAll run).tokens.supply mint < 2 ^ 64)
    {calls calls' : List Operation} (hcalls : ∀ call ∈ calls, call.item?.isSome = true)
    (hperm : calls.Perm calls') :
    (d.afterAll run).afterAll calls = (d.afterAll run).afterAll calls' ∧
      ∀ item, (d.afterAll run).paidOver item calls = (d.afterAll run).paidOver item calls' :=
  CanPay.perm (fun c hc c' hc' heq => hrun.distinct c hc c' hc' heq) hperm
    ⟨hrun.inCustody (List.prefix_refl run) hcreate, hsupply⟩ hcalls

end Deployment

namespace Sample

open Deployment

/-- One gauge is voted for in the first epoch and one is not, and nothing is settled before the
end of the second epoch. -/
def openRun : List Operation :=
  run.take 7 ++ [.addGauge (account 7) ⟨account 2, account 3⟩, .ensureEpochGauge (account 7) none,
    .nextEpoch, .nextEpoch]

/-- All there is to settle after it, and a claim that comes too late. -/
def settling : List Operation :=
  [.claimFee none (account 4) (account 1) 1 .a, .claimBribe none (account 4) 0 1,
    .close none (account 4) (account 1) 1,
    .claimFee (some (account 4)) (account 4) (account 1) 1 .a, .cleanEpochGauge (account 7) 1,
    .clawBackBribe (account 6) 0 2]

theorem state_openRun :
    ((deployment.afterAll openRun).tokens.balances.total fun b => b.amount.toNat) < 2 ^ 64 ∧
      (deployment.afterAll openRun).paidOver (.claim (account 4) (.fees (account 1) 1 .a))
        settling = 30 ∧
      (deployment.afterAll openRun).paidOver (.claim (account 4) (.reward 0 1)) settling = 20 ∧
      (deployment.afterAll openRun).paidOver (.clawback 0 2) settling = 20 ∧
      ((deployment.afterAll openRun).afterAll settling).engine.commitments.votes.size = 0 ∧
      ((deployment.afterAll openRun).afterAll settling).engine.commitments.epochGauges.size =
        1 := by
  decide +kernel

/-- Settled from the last call to the first, everything ends as from the first to the last: the
fees, the reward and the escrow are paid out once, and the vote and the unvoted record are gone. -/
theorem openRun_settles_backwards :
    Segregated openRun ∧
      (deployment.afterAll openRun).afterAll settling.reverse =
        (deployment.afterAll openRun).afterAll settling ∧
      (deployment.afterAll openRun).paidOver (.claim (account 4) (.fees (account 1) 1 .a))
        settling.reverse = 30 ∧
      (deployment.afterAll openRun).paidOver (.claim (account 4) (.reward 0 1))
        settling.reverse = 20 ∧
      (deployment.afterAll openRun).paidOver (.clawback 0 2) settling.reverse = 20 ∧
      ((deployment.afterAll openRun).afterAll settling.reverse).engine.commitments.votes.size =
        0 ∧
      ((deployment.afterAll openRun).afterAll
        settling.reverse).engine.commitments.epochGauges.size = 1 := by
  have hsegregated : Segregated openRun := by
    decide +kernel
  have hcalls : ∀ call ∈ settling.reverse, call.item?.isSome = true := by
    decide +kernel
  obtain ⟨htotal, hfees, hreward, hreturned, hvotes, hrecords⟩ := state_openRun
  have hsupply (mint : Address) : (deployment.afterAll openRun).tokens.supply mint < 2 ^ 64 :=
    Nat.lt_of_le_of_lt (TokenLedger.supply_le_total _ mint) htotal
  obtain ⟨hstate, hpaid⟩ :=
    settlement_order create_deployment hsegregated hsupply hcalls (List.reverse_perm settling)
  refine ⟨hsegregated, hstate, (hpaid _).trans hfees, (hpaid _).trans hreward,
    (hpaid _).trans hreturned, ?_, ?_⟩
  · rw [hstate]
    exact hvotes
  · rw [hstate]
    exact hrecords

end Sample

end EpochVoting
