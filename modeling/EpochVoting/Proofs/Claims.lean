import EpochVoting.Proofs.BribeEpochs
import EpochVoting.Proofs.ElapsedEpochs
import EpochVoting.Proofs.SnapshotHistory

/-!
# The history of claims

The voters of a gauge in an elapsed epoch share out pots: the fees of each side, and the
reward of every bribe that covers the epoch.  The books say of each voter whether the voter
has claimed a part (`Engine.hasClaimed`), and they say so exactly if a claim succeeded on
the way of the run.  What a pot has paid is thus the sum of the parts of the voters who have
claimed (`Deployment.claims_history`), each of them paid once and in the proportion that
holds at the end.
-/

namespace EpochVoting

/-- What voters claim parts of: a side's fees of a gauge in an epoch, or a bribe's reward
of an epoch. -/
inductive Pot where
  | fees (gauge : Address) (epoch : Epoch) (side : FeeSide)
  | reward (bribe : UInt64) (epoch : Epoch)
deriving DecidableEq

/-- The call by which an account claims a voter's part of a pot. -/
def Pot.claim (authority : Option Address) (voter : Address) : Pot → Operation
  | fees gauge epoch side => .claimFee authority voter gauge epoch side
  | reward bribe epoch => .claimBribe authority voter bribe epoch

namespace Operation

/-- Whose part of which pot an operation claims. -/
def claim? : Operation → Option (Address × Pot)
  | claimFee _ voter gauge epoch side => some (voter, .fees gauge epoch side)
  | claimBribe _ voter bribe epoch => some (voter, .reward bribe epoch)
  | _ => none

/-- Which bribe's reward of which epoch an operation claws back. -/
def clawback? : Operation → Option (UInt64 × Epoch)
  | clawBackBribe _ bribe epoch => some (bribe, epoch)
  | _ => none

variable {operation part : Operation}

/-- A claim is one call, and it captures nothing. -/
theorem basic_of_claim {voter : Address} {pot : Pot}
    (h : operation.claim? = some (voter, pot)) : operation.isBasic = true ∧
      ∀ target wanted, operation ≠ .ensureEpochGauge target wanted := by
  cases operation with
  | claimFee | claimBribe => exact ⟨rfl, by simp⟩
  | _ => cases h

theorem Makes.claim?_eq_none (h : operation.Makes part) : part.claim? = none := by
  cases h with
  | commit hpart => cases hpart <;> rfl
  | _ => rfl

end Operation

namespace Commitments

/-- A voter's part of a value that the voters of a gauge share out. -/
def part (c : Commitments) (value : Nat) (gauge : Address) (epoch : Epoch) (voter : Address) :
    Nat :=
  value * c.allocationOf voter gauge epoch / c.power gauge epoch

end Commitments

/-! ## Pots -/

namespace Engine

variable {e e' : Engine} {gauge gauge' : Address} {epoch epoch' : Epoch} {pot : Pot}
  {value value' : Nat}

/-- The pots of a gauge in an epoch and what is in them: the fees of both sides, and the
rewards of the bribes that cover the epoch. -/
inductive Offers (e : Engine) (gauge : Address) (epoch : Epoch) : Pot → Nat → Prop
  | fees (side : FeeSide) :
      Offers e gauge epoch (.fees gauge epoch side) (e.commitments.feesAt gauge epoch side)
  | reward {id : UInt64} {b : Bribe} (hb : e.bribes.bribes.find? id = some b)
      (hgauge : b.gauge = gauge) (hcovers : b.covers epoch = true) :
      Offers e gauge epoch (.reward id epoch) b.rewardPerEpoch.toNat

/-- The tokens that a pot pays in. -/
def mint? (e : Engine) : Pot → Option Address
  | .fees gauge _ side => (e.registry.gauges.find? gauge).map fun g => (g.fee side).mint
  | .reward bribe _ => (e.bribes.bribes.find? bribe).map Bribe.mint

/-- Whether a voter has claimed a part of a pot. -/
def hasClaimed (e : Engine) (voter : Address) : Pot → Bool
  | .fees gauge epoch side =>
    ((e.commitments.snapshot? voter epoch).map fun s => s.feeClaimed gauge side).getD false
  | .reward bribe epoch => e.bribes.isClaimed voter bribe epoch

theorem hasClaimed_fees (e : Engine) (voter gauge : Address) (epoch : Epoch) (side : FeeSide) :
    e.hasClaimed voter (.fees gauge epoch side) =
      ((e.commitments.snapshot? voter epoch).map fun s => s.feeClaimed gauge side).getD false :=
  rfl

theorem mint?_fees {g : Gauge} (hgauge : e.registry.gauges.find? gauge = some g) (epoch : Epoch)
    (side : FeeSide) : e.mint? (.fees gauge epoch side) = some (g.fee side).mint :=
  congrArg (Option.map fun g : Gauge => (g.fee side).mint) hgauge

theorem mint?_reward {id : UInt64} {b : Bribe} (hb : e.bribes.bribes.find? id = some b)
    (epoch : Epoch) : e.mint? (.reward id epoch) = some b.mint :=
  congrArg (Option.map Bribe.mint) hb

theorem FinalBefore.power (h : FinalBefore e.currentEpoch e e')
    (helapsed : epoch < e.currentEpoch) (gauge : Address) :
    e'.commitments.power gauge epoch = e.commitments.power gauge epoch := by
  rw [← totalPower_toNat, ← totalPower_toNat, h.totalPower gauge epoch helapsed]

theorem FinalBefore.part (h : FinalBefore e.currentEpoch e e')
    (helapsed : epoch < e.currentEpoch) (value : Nat) (gauge voter : Address) :
    e'.commitments.part value gauge epoch voter = e.commitments.part value gauge epoch voter := by
  unfold Commitments.part Commitments.allocationOf
  rw [h.power helapsed, h.allocation voter gauge epoch helapsed]

/-- A pot of an elapsed epoch with power stays what it is. -/
theorem Offers.final (h : e.Offers gauge epoch pot value) (helapsed : epoch < e.currentEpoch)
    (hfinal : FinalBefore e.currentEpoch e e') (hterms : e.bribes.KeepsTerms e'.bribes)
    (h' : e'.Offers gauge' epoch' pot value') (hpower : e'.commitments.power gauge' epoch' ≠ 0) :
    gauge = gauge' ∧ epoch = epoch' ∧ value = value' := by
  cases h with
  | fees side =>
    cases h' with
    | fees =>
      rw [hfinal.power helapsed] at hpower
      obtain ⟨r, hr⟩ := Commitments.epochGauge?_of_power_ne_zero hpower
      rw [Commitments.power_of_epochGauge? hr] at hpower
      obtain ⟨r', hr', hfees⟩ := hfinal.fees gauge epoch r helapsed hr
        fun hzero => hpower (UInt64.toNat_inj.mpr hzero)
      refine ⟨rfl, rfl, ?_⟩
      rw [Commitments.feesAt_of_epochGauge? hr, Commitments.feesAt_of_epochGauge? hr']
      unfold EpochGauge.accruedFee
      rw [hfees]
  | @reward id b hb hgauge =>
    cases h' with
    | reward hb' hgauge' =>
      obtain ⟨_, _, hkept⟩ := hterms id b hb
      cases hb'.symm.trans hkept
      exact ⟨hgauge.symm.trans hgauge', rfl, rfl⟩

end Engine

namespace Deployment

open Engine EpochVoting.Action

variable {d d' : Deployment} {operation : Operation} {reply : Reply} {gauge voter : Address}
  {epoch : Epoch} {pot : Pot} {value : Nat}

/-! ## What a claim does -/

/-- A claim is on a pot of an elapsed epoch.  If the gauge has power in that epoch, it is
the first of the voter and pays the voter's part. -/
theorem Step.claim (h : Step d operation reply d')
    (hclaim : operation.claim? = some (voter, pot)) :
    ∃ gauge epoch value paid, reply = .amount paid ∧ d.engine.Offers gauge epoch pot value ∧
      epoch < d.engine.currentEpoch ∧ (d.engine.commitments.power gauge epoch ≠ 0 →
        d.engine.hasClaimed voter pot = false ∧ d'.engine.hasClaimed voter pot = true ∧
        (∃ a, d.engine.commitments.allocation? voter gauge epoch = some a) ∧
        paid.toNat = d.engine.commitments.part value gauge epoch voter) := by
  cases h with
  | @unvotedFee _ _ target epoch side _ _ record _ _ _ helapsed _ hrecord _ hcompute =>
    cases hclaim
    refine ⟨target, epoch, _, 0, rfl, .fees side, helapsed, fun hpower => ?_⟩
    obtain ⟨-, hzero⟩ := FeeClaim.compute_eq_ok_none_iff.mp hcompute
    rw [Commitments.power_of_epochGauge? hrecord, hzero] at hpower
    exact absurd rfl hpower
  | @feePaid _ _ target epoch side _ g record s claim _ _ _ helapsed hgauge hrecord hs hcompute =>
    cases hclaim
    obtain rfl := Registry.target_of_find? hgauge
    obtain ⟨hnew, -, a, ha, rfl, hshare, -⟩ := FeeClaim.compute_eq_ok_some_iff.mp hcompute
    refine ⟨g.target, epoch, _, claim.share, rfl, .fees claim.side, helapsed,
      fun _ => ⟨?_, ?_, ⟨a, ha⟩, ?_⟩⟩
    · rw [hasClaimed_fees, hs]
      exact hnew
    · have hkey := Commitments.key_of_snapshot? hs
      have hmarked : (d.engine.recordFeeClaim g s claim).commitments.snapshot? voter epoch =
          some (claim.applyToSnapshot g.target s) := by
        refine (Commitments.snapshot?_insert rfl voter epoch).trans (if_pos ?_)
        exact hkey
      rw [hasClaimed_fees, hmarked]
      exact (Snapshot.feeClaimed_markFeeClaimed ..).trans (if_pos ⟨rfl, rfl⟩)
    · unfold Commitments.part Commitments.allocationOf
      rw [hshare, ha, Commitments.power_of_epochGauge? hrecord,
        Commitments.feesAt_of_epochGauge? hrecord]
      rfl
  | @bribePaid _ _ id epoch _ b claim bribes _ _ _ helapsed hbribe hcheck _ hrecorded =>
    cases hclaim
    obtain ⟨rfl, rfl, rfl, hcovers, hnew, -, a, ha, hshare, -⟩ :=
      (BribeLedger.checkClaim_eq_ok_iff hbribe).mp hcheck
    obtain ⟨total, -, rfl⟩ := (BribeLedger.recordClaim_eq_ok_iff hbribe).mp hrecorded
    refine ⟨b.gauge, claim.epoch, _, claim.amount, rfl, .reward hbribe rfl hcovers, helapsed,
      fun _ => ⟨hnew, ?_, ⟨a, ha⟩, ?_⟩⟩
    · have hfiled := Table.find?_insert_self d.engine.bribes.claims claim
      exact Option.isSome_iff_exists.mpr ⟨claim, hfiled⟩
    · unfold Commitments.part Commitments.allocationOf
      rw [hshare, ha, totalPower_toNat]
      rfl
  | _ => cases hclaim

/-- A reward is marked as claimed by its claim only. -/
theorem Step.hasClaimed_reward_of_other {id : UInt64} (h : Step d operation reply d')
    (hother : operation.claim? ≠ some (voter, .reward id epoch)) :
    d'.engine.hasClaimed voter (.reward id epoch) =
      d.engine.hasClaimed voter (.reward id epoch) := by
  by_cases hwrites : Book.bribes ∈ operation.writes
  case neg =>
    have hsame : d'.engine.bribes = d.engine.bribes := h.keeps .bribes hwrites
    unfold hasClaimed
    rw [hsame]
  case pos =>
    cases h with
    | bribeCreated => rfl
    | bribePaid _ _ _ hbribe hcheck _ hrecorded =>
      obtain ⟨rfl, rfl, rfl, -⟩ := (BribeLedger.checkClaim_eq_ok_iff hbribe).mp hcheck
      obtain ⟨total, -, rfl⟩ := (BribeLedger.recordClaim_eq_ok_iff hbribe).mp hrecorded
      refine congrArg Option.isSome (Table.find?_insert_of_ne fun hkey => hother ?_)
      obtain ⟨hvoter, hrest⟩ := Prod.mk.inj hkey
      obtain ⟨hid, hepoch⟩ := Prod.mk.inj hrest
      rw [Operation.claim?, hvoter, hid, hepoch]
    | bribeReturned _ hbribe hcheck _ hrecorded =>
      obtain ⟨rfl, -⟩ := (BribeLedger.checkClawback_eq_ok_iff hbribe).mp hcheck
      obtain ⟨total, -, rfl⟩ := (BribeLedger.recordClawback_eq_ok_iff hbribe).mp hrecorded
      rfl
    | _ => simp [Operation.writes] at hwrites

/-- Fees are marked as claimed by their claim only. -/
theorem Step.hasClaimed_fees_of_other {side : FeeSide} (h : Step d operation reply d')
    (hother : operation.claim? ≠ some (voter, .fees gauge epoch side)) :
    d'.engine.hasClaimed voter (.fees gauge epoch side) =
      d.engine.hasClaimed voter (.fees gauge epoch side) := by
  -- A snapshot is written that has the flag if the one before had it.
  have hput {c : Commitments} {s' : Snapshot} {old : Option Snapshot}
      (hwrite : c.snapshots = d.engine.commitments.snapshots.insert s')
      (hold : d.engine.commitments.snapshot? s'.voter s'.epoch = old)
      (hsame : s'.voter = voter → s'.epoch = epoch →
        s'.feeClaimed gauge side = (old.map fun s => s.feeClaimed gauge side).getD false) :
      ((c.snapshot? voter epoch).map fun s => s.feeClaimed gauge side).getD false =
        ((d.engine.commitments.snapshot? voter epoch).map fun s =>
          s.feeClaimed gauge side).getD false := by
    rw [Commitments.snapshot?_insert hwrite]
    by_cases hkey : s'.voter = voter ∧ s'.epoch = epoch
    · obtain ⟨rfl, rfl⟩ := hkey
      rw [if_pos ⟨rfl, rfl⟩, hold]
      exact hsame rfl rfl
    · rw [if_neg hkey]
  have hwritten := h.epochWrite
  rw [hasClaimed_fees, hasClaimed_fees]
  generalize d'.engine.commitments = c at hwritten ⊢
  cases hwritten with
  | nothing | captured | cleaned => rfl
  | taken hnone => exact hput rfl hnone fun _ _ => Snapshot.feeClaimed_of_empty rfl gauge side
  | reset hs | committed _ _ _ hs | reverted _ _ _ hs | closed _ _ _ hs =>
    have hold := Commitments.snapshot?_self hs
    exact hput rfl hold fun _ _ => rfl
  | claimed hs =>
    obtain ⟨rfl, rfl⟩ := Commitments.key_of_snapshot? hs
    refine hput rfl hs ?_
    rintro rfl rfl
    refine (Snapshot.feeClaimed_markFeeClaimed ..).trans (if_neg ?_)
    rintro ⟨rfl, rfl⟩
    exact hother rfl

/-- Only the voter's own claim marks a part as claimed. -/
theorem Step.hasClaimed_of_other (h : Step d operation reply d')
    (hother : operation.claim? ≠ some (voter, pot)) :
    d'.engine.hasClaimed voter pot = d.engine.hasClaimed voter pot := by
  cases pot with
  | reward => exact h.hasClaimed_reward_of_other hother
  | fees => exact h.hasClaimed_fees_of_other hother

/-- The operation is a claim of the voter's part of the pot, and it succeeds. -/
def Claims (pot : Pot) (voter : Address) (d : Deployment) (operation : Operation) : Prop :=
  operation.claim? = some (voter, pot) ∧ ∃ reply d', (perform operation).run d = .ok reply d'

theorem hasClaimed_after_of_other (hother : operation.claim? ≠ some (voter, pot)) :
    (d.after operation).engine.hasClaimed voter pot = d.engine.hasClaimed voter pot := by
  have hbasic_case {part : Operation} (hbasic : part.isBasic = true)
      (hother : part.claim? ≠ some (voter, pot)) (d : Deployment) :
      (d.after part).engine.hasClaimed voter pot = d.engine.hasClaimed voter pot := by
    rcases engine_after_cases (d := d) hbasic with hsame | ⟨_, hstep⟩
    · rw [hsame]
    · exact hstep.hasClaimed_of_other hother
  by_cases hbasic : operation.isBasic = true
  · exact hbasic_case hbasic hother d
  refine after_induction (P := fun d' =>
    d'.engine.hasClaimed voter pot = d.engine.hasClaimed voter pot)
    (Bool.not_eq_true _ ▸ hbasic) ?_ rfl
  intro part hmade d' hkept
  refine (hbasic_case hmade.isPart.1 ?_ d').trans hkept
  rw [hmade.claim?_eq_none]
  exact (Option.some_ne_none _).symm

/-- A part stays unclaimed unless a claim of it succeeds. -/
theorem hasClaimed_after (hnot : ¬ d.Claims pot voter operation) :
    (d.after operation).engine.hasClaimed voter pot = d.engine.hasClaimed voter pot := by
  by_cases hclaim : operation.claim? = some (voter, pot)
  · -- The claim has failed, and so it changed nothing.
    obtain ⟨hbasic, hcapture⟩ := Operation.basic_of_claim hclaim
    rw [after_eq_leaves]
    cases hrun : (perform operation).run d with
    | ok reply d' => exact absurd ⟨hclaim, reply, d', hrun⟩ hnot
    | error error d' => rw [leaves_of_error (atomic_perform hbasic hcapture) hrun]
  · exact hasClaimed_after_of_other hclaim

/-! ## What was paid -/

/-- What an operation pays out of a pot. -/
def paidBy (pot : Pot) (d : Deployment) (operation : Operation) : Nat :=
  match operation.claim?, (perform operation).run d with
  | some (_, claimed), .ok (.amount paid) _ => if claimed = pot then paid.toNat else 0
  | _, _ => 0

/-- What the operations of a run pay out of a pot. -/
def paidFrom (pot : Pot) (d : Deployment) : List Operation → Nat
  | [] => 0
  | operation :: rest => d.paidBy pot operation + paidFrom pot (d.after operation) rest

theorem paidFrom_append_singleton (done : List Operation) (operation : Operation)
    (d : Deployment) : d.paidFrom pot (done ++ [operation]) =
      d.paidFrom pot done + (d.afterAll done).paidBy pot operation := by
  induction done generalizing d with
  | nil =>
    rw [List.nil_append, paidFrom, paidFrom, paidFrom, Nat.add_zero, Nat.zero_add]
    rfl
  | cons first rest ih =>
    rw [List.cons_append, paidFrom, paidFrom, ih (d.after first), afterAll_cons, Nat.add_assoc]

/-- An operation that is no claim on the pot pays nothing out of it. -/
theorem paidBy_of_none (hnone : ∀ voter, ¬ d.Claims pot voter operation) :
    d.paidBy pot operation = 0 := by
  unfold paidBy
  split
  next v claimed paid d' hclaim hrun =>
    refine if_neg ?_
    rintro rfl
    exact hnone v ⟨hclaim, _, _, hrun⟩
  next => rfl

variable {e : Engine}

/-- A claim that succeeds is the first of its voter, and it pays the voter's part, whatever
happens between the claim and a later state. -/
theorem Claims.after (h : d.Claims pot voter operation) (hsound : d.engine.Sound)
    (hlater : Relation.ReflTransGen Change d.engine e) (hoffers : e.Offers gauge epoch pot value)
    (hpower : e.commitments.power gauge epoch ≠ 0) :
    d.engine.hasClaimed voter pot = false ∧
      (d.after operation).engine.hasClaimed voter pot = true ∧
      (∃ a, e.commitments.allocation? voter gauge epoch = some a) ∧
      d.paidBy pot operation = e.commitments.part value gauge epoch voter := by
  obtain ⟨hclaim, reply, d', hrun⟩ := h
  have hstep := step_of_perform (Operation.basic_of_claim hclaim).1 hrun
  obtain ⟨g, n, v, paid, rfl, hoffered, helapsed, hfirst⟩ := hstep.claim hclaim
  obtain ⟨-, hfinal⟩ := final_of_changes hlater
  obtain ⟨rfl, rfl, rfl⟩ := hoffered.final helapsed hfinal (keepsTerms_of_changes hlater hsound)
    hoffers hpower
  rw [hfinal.power helapsed] at hpower
  obtain ⟨hnew, hdone, hallocation, hpaid⟩ := hfirst hpower
  have hafter : d.after operation = d' := by
    rw [after_eq_leaves, leaves_of_ok hrun]
  refine ⟨hnew, hafter ▸ hdone, ?_, ?_⟩
  · rw [hfinal.allocation voter g n helapsed]
    exact hallocation
  · rw [hfinal.part helapsed, ← hpaid]
    unfold paidBy
    rw [hclaim, hrun]
    exact if_pos rfl

/-- A new deployment has nothing to claim. -/
theorem hasClaimed_of_create {foreman : Address} {params : FactoryParams}
    {maxLockSecs : UInt64} (hcreate : create foreman params maxLockSecs = .ok d)
    (pot : Pot) (voter : Address) : d.engine.hasClaimed voter pot = false := by
  obtain ⟨engine, hengine, heq⟩ := bind_eq_ok_iff.mp hcreate
  cases heq
  obtain ⟨factory, -, heq⟩ := bind_eq_ok_iff.mp hengine
  cases heq
  cases pot <;> rfl

/-- On the way to a state with the pot, the voters who have claimed are those of whom a
claim has succeeded, and what was paid are their parts. -/
theorem claims_history {foreman : Address} {params : FactoryParams} {maxLockSecs : UInt64}
    (hcreate : create foreman params maxLockSecs = .ok d) (done : List Operation)
    (hlater : Relation.ReflTransGen Change (d.afterAll done).engine e)
    (hoffers : e.Offers gauge epoch pot value) (hpower : e.commitments.power gauge epoch ≠ 0)
    {voters : List Address} (hnodup : voters.Nodup)
    (hall : ∀ v a, e.commitments.allocation? v gauge epoch = some a → v ∈ voters) :
    (∀ v, d.Occurs (Claims pot v) done ↔ (d.afterAll done).engine.hasClaimed v pot = true) ∧
      d.paidFrom pot done = (voters.map fun v =>
        if (d.afterAll done).engine.hasClaimed v pot = true then
          e.commitments.part value gauge epoch v else 0).sum := by
  induction done using List.reverseRecOn with
  | nil =>
    have hnone (v : Address) : (d.afterAll []).engine.hasClaimed v pot = false :=
      hasClaimed_of_create hcreate pot v
    simp [hnone, Occurs, paidFrom]
  | append_singleton done operation ih =>
    have hstep : d.afterAll (done ++ [operation]) = (d.afterAll done).after operation :=
      afterAll_append d done [operation]
    rw [hstep] at hlater ⊢
    have hbefore : Relation.ReflTransGen Change (d.afterAll done).engine e :=
      (changes_of_afterAll [operation] (d.afterAll done)).trans hlater
    obtain ⟨hoccurs, hpaid⟩ := ih hbefore
    have hsound := sound_afterAll hcreate done
    refine ⟨fun v => ?_, ?_⟩
    · rw [occurs_append_singleton, hoccurs v]
      by_cases hclaims : (d.afterAll done).Claims pot v operation
      · obtain ⟨-, hdone, -⟩ := hclaims.after hsound hbefore hoffers hpower
        exact iff_of_true (Or.inr hclaims) hdone
      · rw [hasClaimed_after hclaims]
        exact or_iff_left hclaims
    · rw [paidFrom_append_singleton, hpaid]
      by_cases hany : ∃ v, (d.afterAll done).Claims pot v operation
      · -- One voter more has claimed, and nobody else.
        obtain ⟨voter, hclaims⟩ := hany
        obtain ⟨hnew, hdone, ⟨a, ha⟩, hpays⟩ := hclaims.after hsound hbefore hoffers hpower
        rw [hpays, ← Table.sum_single hnodup (hall voter a ha)
          (e.commitments.part value gauge epoch voter), ← List.sum_map_add]
        refine congrArg List.sum (List.map_congr_left fun v _ => ?_)
        by_cases hsame : voter = v
        · subst hsame
          rw [hnew, hdone, if_neg Bool.false_ne_true, if_pos rfl, if_pos rfl, Nat.zero_add]
        · have hother : ¬ (d.afterAll done).Claims pot v operation := fun hclaims' => by
            have hboth := hclaims.1.symm.trans hclaims'.1
            exact hsame (Prod.mk.inj (Option.some.inj hboth)).1
          rw [hasClaimed_after hother, if_neg hsame, Nat.add_zero]
      · rw [paidBy_of_none fun v hclaims => hany ⟨v, hclaims⟩, Nat.add_zero]
        refine congrArg List.sum (List.map_congr_left fun v _ => ?_)
        rw [hasClaimed_after fun hclaims => hany ⟨v, hclaims⟩]

/-! ## Clawbacks -/

/-- The operation is a clawback of the bribe's reward of the epoch, and it succeeds. -/
def ClawsBack (id : UInt64) (epoch : Epoch) (d : Deployment) (operation : Operation) : Prop :=
  operation.clawback? = some (id, epoch) ∧
    ∃ reply d', (perform operation).run d = .ok reply d'

variable {id : UInt64}

/-- An epoch of a bribe is not marked as clawed back unless a clawback of it succeeds. -/
theorem isClawedBack_after (hnot : ¬ d.ClawsBack id epoch operation) :
    (d.after operation).engine.bribes.isClawedBack id epoch =
      d.engine.bribes.isClawedBack id epoch := by
  by_cases hwrites : Book.bribes ∈ operation.writes
  case neg =>
    have hsame : (d.after operation).engine.bribes = d.engine.bribes :=
      frame d operation .bribes hwrites
    rw [hsame]
  case pos =>
    have hbasic : operation.isBasic = true := by
      cases operation with
      | nextEpoch | addGauge | voteEpoch => simp [Operation.writes] at hwrites
      | _ => rfl
    unfold after
    cases hrun : (perform operation).run d with
    | error error d' =>
      have hcapture : ∀ target wanted, operation ≠ .ensureEpochGauge target wanted := by
        rintro target wanted rfl
        simp [Operation.writes] at hwrites
      rw [atomic_perform hbasic hcapture hrun]
    | ok reply d' =>
      cases step_of_perform hbasic hrun with
      | bribeCreated => rfl
      | bribePaid _ _ _ hbribe hcheck _ hrecorded =>
        obtain ⟨rfl, rfl, rfl, -⟩ := (BribeLedger.checkClaim_eq_ok_iff hbribe).mp hcheck
        obtain ⟨total, -, rfl⟩ := (BribeLedger.recordClaim_eq_ok_iff hbribe).mp hrecorded
        rfl
      | bribeReturned _ hbribe hcheck _ hrecorded =>
        obtain ⟨rfl, -⟩ := (BribeLedger.checkClawback_eq_ok_iff hbribe).mp hcheck
        obtain ⟨total, -, rfl⟩ := (BribeLedger.recordClawback_eq_ok_iff hbribe).mp hrecorded
        refine congrArg Option.isSome (Table.find?_insert_of_ne fun hkey => hnot ?_)
        exact ⟨congrArg some hkey, _, _, hrun⟩
      | _ => simp [Operation.writes] at hwrites

/-- What is marked as clawed back has been clawed back on the way. -/
theorem isClawedBack_afterAll {run : List Operation} (hnot : ¬ d.Occurs (ClawsBack id epoch) run) :
    (d.afterAll run).engine.bribes.isClawedBack id epoch =
      d.engine.bribes.isClawedBack id epoch := by
  induction run generalizing d with
  | nil => rfl
  | cons operation rest ih =>
    rw [Occurs, not_or] at hnot
    exact (ih hnot.2).trans (isClawedBack_after hnot.1)

theorem isClawedBack_of_create {foreman : Address} {params : FactoryParams}
    {maxLockSecs : UInt64} (hcreate : create foreman params maxLockSecs = .ok d) :
    d.engine.bribes.isClawedBack id epoch = false := by
  obtain ⟨engine, hengine, heq⟩ := bind_eq_ok_iff.mp hcreate
  cases heq
  obtain ⟨factory, -, heq⟩ := bind_eq_ok_iff.mp hengine
  cases heq
  rfl

end Deployment
end EpochVoting
