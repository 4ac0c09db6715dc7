import EpochVoting.Proofs.Counting
import EpochVoting.Proofs.Links

/-!
# The audit in any order

`Engine.audit` recomputes a sum wherever it compares one.  An audit in one pass counts
instead: it goes over the votes, the snapshots and the records of gauges once, adds each
amount to what it has counted for its key, and compares the counts in the end.  It may meet
the records in any order (`Engine.Reading`), and stops at the first sum that is no amount.

Counting in any order ends with the sums of the records, or is refused, and does so in every
order alike (`Engine.Reading.countPower_eq`).  So the audit passes in one order exactly if it
passes in all others, and that is exactly if the sums it counts are amounts and the books
balance (`Engine.audit_passes_iff_inBalance`).
-/

namespace EpochVoting

namespace Audit

/-! ## The loops of the audit -/

/-- What the power of votes and of closed allocations is counted for. -/
inductive PowerKey where
  | live (gauge : Address) (epoch : Epoch)
  | ofVoter (voter : Address) (epoch : Epoch)
  | closed (gauge : Address) (epoch : Epoch)
deriving DecidableEq

/-- Counts each vote for its gauge and for its voter. -/
def countVotes (votes : List EpochVote) (counts : PowerKey → UInt64) :
    Except Violation (PowerKey → UInt64) :=
  votes.foldlM (fun counts x =>
    addAt counts (.live x.gauge x.epoch) x.allocatedPower >>= fun counts =>
      addAt counts (.ofVoter x.voter x.epoch) x.allocatedPower) counts

/-- Counts the closed allocations of each snapshot for their gauges. -/
def countClosed (snapshots : List Snapshot) (counts : PowerKey → UInt64) :
    Except Violation (PowerKey → UInt64) :=
  snapshots.foldlM (fun counts s =>
    s.closedAllocations.records.foldlM (fun counts a =>
      addAt counts (.closed a.gauge s.epoch) a.amount) counts) counts

/-- Counts the fees of both sides of each record for its gauge. -/
def countFees (records : List EpochGauge) (counts : Address × FeeSide → UInt64) :
    Except Violation (Address × FeeSide → UInt64) :=
  records.foldlM (fun counts r =>
    addAt counts (r.gauge, .a) (r.accruedFee .a) >>= fun counts =>
      addAt counts (r.gauge, .b) (r.accruedFee .b)) counts

/-- A gauge's record agrees with the counts. -/
def compareEpochGauge (power : PowerKey → UInt64) (r : EpochGauge) : Except Violation Unit := do
  let closed := power (.closed r.gauge r.epoch)
  require (closed == r.closedPower) (.closedPowerMismatch r.gauge r.epoch r.closedPower closed)
  let summed ← add (power (.live r.gauge r.epoch)) closed
  require (summed == r.totalPower) (.gaugePowerMismatch r.gauge r.epoch r.totalPower summed)

/-- A snapshot agrees with its closed allocations and with the counts. -/
def compareSnapshot (power : PowerKey → UInt64) (s : Snapshot) : Except Violation Unit := do
  let closed ← s.closedAmounts.foldlM add 0
  require (closed == s.closedPower) (.closedPowerMismatch s.voter s.epoch s.closedPower closed)
  let summed ← add (power (.ofVoter s.voter s.epoch)) closed
  require (summed == s.allocatedPower)
    (.voterAllocationMismatch s.voter s.epoch s.allocatedPower summed)
  require (s.allocatedPower ≤ s.votingPower)
    (.overAllocated s.voter s.epoch s.allocatedPower s.votingPower)

/-- A voter's total is the sum of the weights. -/
def compareWeight (weights : List GaugeWeight) (book : VoterBook) : Except Violation Unit :=
  let summed := ((weights.filter fun w => w.voter == book.voter).map fun w => w.weight.toNat).sum
  require (summed == book.totalWeight.toNat) (.weightMismatch book.voter book.totalWeight summed)

/-- A side of a gauge agrees with its vault and with the counts. -/
def compareFeeSide (fees : Address × FeeSide → UInt64) (tokens : TokenLedger) (gauge : Gauge)
    (side : FeeSide) : Except Violation Unit := do
  let counter := gauge.fee side
  let vault := tokens.balance counter.mint (gauge.feeVault side)
  let held ← add vault counter.cumulativeClaimed
  require (held == counter.cumulativeAccrued)
    (.feeVaultMismatch gauge.target side counter.cumulativeAccrued vault
      counter.cumulativeClaimed)
  let summed ← add (fees (gauge.target, side)) counter.prunedAccrued
  require (summed == counter.cumulativeAccrued)
    (.feeAccrualMismatch gauge.target side counter.cumulativeAccrued summed)

/-! ## What the loops count -/

theorem adds_countVotes (votes : List EpochVote) :
    Adds (countVotes votes) fun k => (votes.map fun x =>
      (if .live x.gauge x.epoch = k then x.allocatedPower.toNat else 0) +
        if .ofVoter x.voter x.epoch = k then x.allocatedPower.toNat else 0).sum := by
  have hpass (x : EpochVote) := (adds_addAt (PowerKey.live x.gauge x.epoch) x.allocatedPower).bind
    (adds_addAt (.ofVoter x.voter x.epoch) x.allocatedPower)
  exact adds_foldlM hpass votes

theorem adds_countClosed (snapshots : List Snapshot) :
    Adds (countClosed snapshots) fun k => (snapshots.map fun s =>
      s.closedAllocations.total fun a =>
        if .closed a.gauge s.epoch = k then a.amount.toNat else 0).sum := by
  have hpass (s : Snapshot) := adds_foldlM
    (fun a : ClosedAllocation => adds_addAt (PowerKey.closed a.gauge s.epoch) a.amount)
    s.closedAllocations.records
  exact adds_foldlM hpass snapshots

theorem adds_countFees (records : List EpochGauge) :
    Adds (countFees records) fun k => (records.map fun r =>
      (if (r.gauge, .a) = k then (r.accruedFee .a).toNat else 0) +
        if (r.gauge, .b) = k then (r.accruedFee .b).toNat else 0).sum := by
  have hpass (r : EpochGauge) := (adds_addAt (r.gauge, FeeSide.a) (r.accruedFee .a)).bind
    (adds_addAt (r.gauge, .b) (r.accruedFee .b))
  exact adds_foldlM hpass records

end Audit

/-- The power that is counted for a key, as a sum over the records. -/
def Commitments.powerAt (c : Commitments) : Audit.PowerKey → Nat
  | .live gauge epoch => c.liveOn gauge epoch
  | .ofVoter voter epoch => c.liveOf voter epoch
  | .closed gauge epoch => c.closedOn gauge epoch

namespace Engine

/-- An order in which the records of an engine can be met. -/
structure Reading (e : Engine) where
  epochGauges : List EpochGauge
  snapshots : List Snapshot
  votes : List EpochVote
  books : List VoterBook
  weights : List GaugeWeight
  gauges : List Gauge
  bribes : List Bribe
  claims : List BribeClaim
  clawbacks : List BribeClawback
  epochGauges_perm : epochGauges.Perm e.commitments.epochGauges.records
  snapshots_perm : snapshots.Perm e.commitments.snapshots.records
  votes_perm : votes.Perm e.commitments.votes.records
  books_perm : books.Perm e.weights.books.records
  weights_perm : weights.Perm e.weights.weights.records
  gauges_perm : gauges.Perm e.registry.gauges.records
  bribes_perm : bribes.Perm e.bribes.bribes.records
  claims_perm : claims.Perm e.bribes.claims.records
  clawbacks_perm : clawbacks.Perm e.bribes.clawbacks.records

namespace Reading

open Audit

variable {e : Engine}

/-- The records in the order of their keys. -/
def byKey (e : Engine) : e.Reading where
  epochGauges := e.commitments.epochGauges.records
  snapshots := e.commitments.snapshots.records
  votes := e.commitments.votes.records
  books := e.weights.books.records
  weights := e.weights.weights.records
  gauges := e.registry.gauges.records
  bribes := e.bribes.bribes.records
  claims := e.bribes.claims.records
  clawbacks := e.bribes.clawbacks.records
  epochGauges_perm := .refl _
  snapshots_perm := .refl _
  votes_perm := .refl _
  books_perm := .refl _
  weights_perm := .refl _
  gauges_perm := .refl _
  bribes_perm := .refl _
  claims_perm := .refl _
  clawbacks_perm := .refl _

/-- Counts the power of all votes and closed allocations. -/
def countPower (o : e.Reading) : Except Violation (PowerKey → UInt64) :=
  countVotes o.votes (fun _ => 0) >>= countClosed o.snapshots

/-- The power of all epochs. -/
def checkPower (o : e.Reading) : Except Violation Unit := do
  let power ← o.countPower
  o.epochGauges.forM (compareEpochGauge power)
  o.snapshots.forM (compareSnapshot power)

/-- The weights of all voters. -/
def checkWeights (o : e.Reading) : Except Violation Unit :=
  o.books.forM (compareWeight o.weights)

/-- The fees of all gauges. -/
def checkFees (o : e.Reading) (tokens : TokenLedger) : Except Violation Unit := do
  let fees ← countFees o.epochGauges fun _ => 0
  o.gauges.forM fun gauge => do
    compareFeeSide fees tokens gauge .a
    compareFeeSide fees tokens gauge .b

/-- All bribes and their settlements. -/
def checkBribes (o : e.Reading) (tokens : TokenLedger) : Except Violation Unit := do
  o.bribes.forM (checkBribeVault tokens)
  o.clawbacks.forM fun k =>
    require (!o.claims.any fun c => c.bribe == k.bribe && c.epoch == k.epoch)
      (.bribeDoubleSettled k.bribe k.epoch)

/-- The first violation that is met. -/
def audit (o : e.Reading) (tokens : TokenLedger) : Except Violation Unit := do
  o.checkPower
  o.checkWeights
  o.checkFees tokens
  o.checkBribes tokens

/-! ## Counting in any order -/

/-- Whatever the order, the votes and closed allocations are counted to their sums. -/
theorem adds_countPower (o : e.Reading) :
    Adds (fun counts => countVotes o.votes counts >>= countClosed o.snapshots)
      e.commitments.powerAt := by
  refine ((adds_countVotes o.votes).bind (adds_countClosed o.snapshots)).congr fun k => ?_
  rw [(o.votes_perm.map _).sum_eq, (o.snapshots_perm.map _).sum_eq]
  cases k with
  | live gauge epoch =>
    simp [Commitments.powerAt, Commitments.liveOn, Table.total]
  | ofVoter voter epoch =>
    simp [Commitments.powerAt, Commitments.liveOf, Table.total]
  | closed gauge epoch =>
    have hvotes : (e.commitments.votes.records.map fun x : EpochVote =>
        (if PowerKey.live x.gauge x.epoch = .closed gauge epoch then x.allocatedPower.toNat
          else 0) +
        if PowerKey.ofVoter x.voter x.epoch = .closed gauge epoch then x.allocatedPower.toNat
          else 0).sum = 0 := by
      simp
    rw [hvotes, Nat.zero_add]
    refine Table.total_congr fun s _ => ?_
    by_cases hepoch : s.epoch = epoch
    · simp [hepoch, Snapshot.closedTo_eq_total, eq_comm]
    · simp [hepoch, Table.total]

theorem adds_countFees_of (o : e.Reading) :
    Adds (countFees o.epochGauges) fun k => e.commitments.feesOn k.1 k.2 := by
  refine (adds_countFees o.epochGauges).congr fun k => ?_
  rw [(o.epochGauges_perm.map _).sum_eq]
  obtain ⟨gauge, side⟩ := k
  cases side <;> simp [Commitments.feesOn, Table.total]

/-- The power is counted, or refused, alike in every order. -/
theorem countPower_eq (o o' : e.Reading) : o.countPower = o'.countPower :=
  congrFun (o.adds_countPower.unique o'.adds_countPower fun _ => rfl) fun _ => 0

theorem countFees_eq (o o' : e.Reading) : countFees o.epochGauges = countFees o'.epochGauges :=
  o.adds_countFees_of.unique o'.adds_countFees_of fun _ => rfl

theorem compareWeight_eq (o o' : e.Reading) :
    compareWeight o.weights = compareWeight o'.weights := by
  have hperm : o.weights.Perm o'.weights := o.weights_perm.trans o'.weights_perm.symm
  funext book
  unfold compareWeight
  rw [((hperm.filter _).map _).sum_eq]

/-- A loop over the same records passes in every order. -/
theorem forM_passes {ρ : Type} {l l' r : List ρ} {check : ρ → Except Violation Unit}
    (hl : l.Perm r) (hl' : l'.Perm r) : l.forM check = .ok () ↔ l'.forM check = .ok () := by
  simp only [forM_eq_ok_iff, hl.mem_iff, hl'.mem_iff]

/-- What passes in one order passes in every other: the loops are over the same records, and
compare them with the same counts. -/
theorem audit_passes (o o' : e.Reading) (tokens : TokenLedger) :
    o.audit tokens = .ok () ↔ o'.audit tokens = .ok () := by
  have hpower : o.checkPower = .ok () ↔ o'.checkPower = .ok () := by
    unfold checkPower
    rw [bind_eq_ok_iff, bind_eq_ok_iff]
    simp only [check_bind_eq_ok_iff, o.countPower_eq o',
      forM_passes o.epochGauges_perm o'.epochGauges_perm,
      forM_passes o.snapshots_perm o'.snapshots_perm]
  have hweights : o.checkWeights = .ok () ↔ o'.checkWeights = .ok () := by
    unfold checkWeights
    rw [o.compareWeight_eq o', forM_passes o.books_perm o'.books_perm]
  have hfees : o.checkFees tokens = .ok () ↔ o'.checkFees tokens = .ok () := by
    unfold checkFees
    simp only [bind_eq_ok_iff, o.countFees_eq o', forM_passes o.gauges_perm o'.gauges_perm]
  have hbribes : o.checkBribes tokens = .ok () ↔ o'.checkBribes tokens = .ok () := by
    have hany (k : BribeClawback) :
        (o.claims.any fun c => c.bribe == k.bribe && c.epoch == k.epoch) =
          o'.claims.any fun c => c.bribe == k.bribe && c.epoch == k.epoch :=
      (o.claims_perm.trans o'.claims_perm.symm).any_eq
    unfold checkBribes
    simp only [check_bind_eq_ok_iff, hany, forM_passes o.bribes_perm o'.bribes_perm,
      forM_passes o.clawbacks_perm o'.clawbacks_perm]
  unfold audit
  simp only [check_bind_eq_ok_iff, hpower, hweights, hfees, hbribes]

end Reading

/-! ## Counting and recomputing -/

open Audit

variable {e : Engine} {tokens : TokenLedger}

/-- No sum that is counted leaves the 64 bits of an amount. -/
structure SumsFit (e : Engine) : Prop where
  power : ∀ key, e.commitments.powerAt key < 2 ^ 64
  fees : ∀ gauge side, e.commitments.feesOn gauge side < 2 ^ 64

/-- Every stored total is the sum of its records, and every vault holds what is left. -/
structure InBalance (e : Engine) (tokens : TokenLedger) : Prop where
  gauge_closed : ∀ r ∈ e.commitments.epochGauges.records,
    e.commitments.closedOn r.gauge r.epoch = r.closedPower.toNat
  gauge_total : ∀ r ∈ e.commitments.epochGauges.records,
    e.commitments.liveOn r.gauge r.epoch + e.commitments.closedOn r.gauge r.epoch =
      r.totalPower.toNat
  voter_closed : ∀ s ∈ e.commitments.snapshots.records, s.closedSum = s.closedPower.toNat
  voter_allocated : ∀ s ∈ e.commitments.snapshots.records,
    e.commitments.liveOf s.voter s.epoch + s.closedSum = s.allocatedPower.toNat
  allocated_le : ∀ s ∈ e.commitments.snapshots.records, s.allocatedPower ≤ s.votingPower
  weights : ∀ w ∈ e.weights.books.records, e.weights.summedWeight w.voter = w.totalWeight.toNat
  fee_vault : ∀ g ∈ e.registry.gauges.records, ∀ side,
    (tokens.balance (g.fee side).mint (g.feeVault side)).toNat +
      (g.fee side).cumulativeClaimed.toNat = (g.fee side).cumulativeAccrued.toNat
  fees : ∀ g ∈ e.registry.gauges.records, ∀ side,
    e.commitments.feesOn g.target side + (g.fee side).prunedAccrued.toNat =
      (g.fee side).cumulativeAccrued.toNat
  escrow_lt : ∀ b ∈ e.bribes.bribes.records,
    b.rewardPerEpoch.toNat * b.numEpochs.toNat < 2 ^ 64
  paid_le : ∀ b ∈ e.bribes.bribes.records, b.claimedAmount.toNat + b.clawedBackAmount.toNat ≤
    b.rewardPerEpoch.toNat * b.numEpochs.toNat
  bribe_vault : ∀ b ∈ e.bribes.bribes.records, (tokens.balance b.mint b.vault).toNat =
    b.rewardPerEpoch.toNat * b.numEpochs.toNat -
      (b.claimedAmount.toNat + b.clawedBackAmount.toNat)
  settled_once : ∀ c ∈ e.bribes.claims.records, ∀ k ∈ e.bribes.clawbacks.records,
    ¬ (c.bribe = k.bribe ∧ c.epoch = k.epoch)

/-- The power audit forms its sums at the keys of the records, and those are all there are. -/
theorem checkPowerSums_passes_iff :
    checkPowerSums e.commitments = .ok () ↔ ∀ key, e.commitments.powerAt key < 2 ^ 64 := by
  rw [checkPowerSums_eq_ok_iff]
  constructor
  · rintro ⟨hlive, hclosed⟩ key
    cases key with
    | live gauge epoch =>
      refine Table.total_lt fun x hx hcounts => ?_
      obtain ⟨rfl, rfl⟩ := (ite_ne_right_iff.mp hcounts).1
      exact (hlive x hx).1
    | ofVoter voter epoch =>
      refine Table.total_lt fun x hx hcounts => ?_
      obtain ⟨rfl, rfl⟩ := (ite_ne_right_iff.mp hcounts).1
      exact (hlive x hx).2
    | closed gauge epoch =>
      refine Table.total_lt fun s hs hcounts => ?_
      obtain ⟨rfl, hcloses⟩ := ite_ne_right_iff.mp hcounts
      rw [Snapshot.closedTo_eq_total] at hcloses
      obtain ⟨a, ha, hcounts⟩ := Table.exists_of_total_ne_zero hcloses
      obtain rfl := (ite_ne_right_iff.mp hcounts).1
      exact hclosed s hs a ha
  · intro h
    exact ⟨fun x _ => ⟨h (.live x.gauge x.epoch), h (.ofVoter x.voter x.epoch)⟩,
      fun s _ a _ => h (.closed a.gauge s.epoch)⟩

/-- So does the fee audit. -/
theorem feeSums_pass_iff :
    (e.commitments.epochGauges.records.forM fun r => do
      let _ ← sum (e.commitments.feesOfGauge r.gauge .a)
      let _ ← sum (e.commitments.feesOfGauge r.gauge .b)) = .ok () ↔
      ∀ gauge side, e.commitments.feesOn gauge side < 2 ^ 64 := by
  simp only [forM_eq_ok_iff, bind_eq_ok_iff, pure_eq_ok_iff, exists_and_right, and_true,
    sum_fits_iff, Commitments.sum_feesOfGauge]
  constructor
  · intro h gauge side
    refine Table.total_lt fun r hr hcounts => ?_
    obtain rfl := (ite_ne_right_iff.mp hcounts).1
    cases side with
    | a => exact (h r hr).1
    | b => exact (h r hr).2
  · exact fun h r _ => ⟨h r.gauge .a, h r.gauge .b⟩

namespace Reading

/-- Recomputing the sums where they are compared is counting them in the order of the keys. -/
theorem checkPower_byKey : (byKey e).checkPower = Audit.checkPower e.commitments := by
  have hcounted : (∃ power, (byKey e).countPower = .ok power) ↔
      checkPowerSums e.commitments = .ok () :=
    (byKey e).adds_countPower.fits_iff.trans checkPowerSums_passes_iff.symm
  have hsums : OnlyOverflows (checkPowerSums e.commitments) := by
    refine (onlyOverflows_forM (fun x => ?_) _).bind fun _ =>
      onlyOverflows_forM (fun s => onlyOverflows_forM (fun a => ?_) _) _
    · exact (onlyOverflows_sum _).bind fun _ => (onlyOverflows_sum _).bind fun _ =>
        onlyOverflows_pure ()
    · exact (onlyOverflows_sum _).bind fun _ => onlyOverflows_pure ()
  unfold Reading.checkPower Audit.checkPower
  cases hpower : (byKey e).countPower with
  | error violation =>
    rw [((byKey e).adds_countPower.refused _).refused hsums hcounted hpower]
    rfl
  | ok power =>
    have hat (key : PowerKey) : (power key).toNat = e.commitments.powerAt key := by
      simpa using (byKey e).adds_countPower.ok_iff.mp hpower key
    have hlive (gauge : Address) (epoch : Epoch) :
        sum (e.commitments.liveOnGauge gauge epoch) = .ok (power (.live gauge epoch)) := by
      rw [sum_eq_ok_iff, Commitments.sum_liveOnGauge]
      exact hat (.live gauge epoch)
    have hofVoter (voter : Address) (epoch : Epoch) :
        sum (e.commitments.liveOfVoter voter epoch) = .ok (power (.ofVoter voter epoch)) := by
      rw [sum_eq_ok_iff, Commitments.sum_liveOfVoter]
      exact hat (.ofVoter voter epoch)
    have hclosed (gauge : Address) (epoch : Epoch) :
        sum (e.commitments.closedOnGauge gauge epoch) = .ok (power (.closed gauge epoch)) := by
      rw [sum_eq_ok_iff, Commitments.sum_closedOnGauge]
      exact hat (.closed gauge epoch)
    have hepochGauge : compareEpochGauge power = checkEpochGauge e.commitments := by
      funext r
      unfold checkEpochGauge
      simp only [hlive, hclosed]
      rfl
    have hsnapshot : compareSnapshot power = checkSnapshot e.commitments := by
      funext s
      unfold compareSnapshot checkSnapshot
      simp only [foldlM_add_eq_sum, hofVoter]
      rfl
    rw [hcounted.mp ⟨power, hpower⟩]
    show ((byKey e).epochGauges.forM (compareEpochGauge power) >>= fun _ =>
      (byKey e).snapshots.forM (compareSnapshot power)) = _
    rw [hepochGauge, hsnapshot]
    rfl

theorem checkWeights_byKey : (byKey e).checkWeights = Audit.checkWeights e.weights := by
  unfold Reading.checkWeights Audit.checkWeights compareWeight
  simp only [WeightBook.summedWeight, List.sum_eq_foldr]
  rfl

theorem checkFees_byKey : (byKey e).checkFees tokens = Audit.checkFees e tokens := by
  have hpass (r : EpochGauge) : OnlyOverflows (do
      let _ ← sum (e.commitments.feesOfGauge r.gauge .a)
      let _ ← sum (e.commitments.feesOfGauge r.gauge .b)) :=
    (onlyOverflows_sum _).bind fun _ => (onlyOverflows_sum _).bind fun _ => onlyOverflows_pure ()
  have hsums := onlyOverflows_forM hpass e.commitments.epochGauges.records
  have hcounted : (∃ fees, countFees (byKey e).epochGauges (fun _ => 0) = .ok fees) ↔
      (e.commitments.epochGauges.records.forM fun r => do
        let _ ← sum (e.commitments.feesOfGauge r.gauge .a)
        let _ ← sum (e.commitments.feesOfGauge r.gauge .b)) = .ok () := by
    rw [(byKey e).adds_countFees_of.fits_iff, feeSums_pass_iff]
    exact Prod.forall
  unfold Reading.checkFees Audit.checkFees
  cases hfees : countFees (byKey e).epochGauges fun _ => 0 with
  | error violation =>
    rw [((byKey e).adds_countFees_of.refused _).refused hsums hcounted hfees]
    rfl
  | ok fees =>
    rw [hcounted.mp ⟨fees, hfees⟩]
    have hat (gauge : Address) (side : FeeSide) :
        sum (e.commitments.feesOfGauge gauge side) = .ok (fees (gauge, side)) := by
      rw [sum_eq_ok_iff, Commitments.sum_feesOfGauge]
      simpa using (byKey e).adds_countFees_of.ok_iff.mp hfees (gauge, side)
    have hside : compareFeeSide fees tokens = checkFeeSide e tokens := by
      funext gauge side
      unfold checkFeeSide
      simp only [hat]
      rfl
    show ((byKey e).gauges.forM fun gauge => do
      compareFeeSide fees tokens gauge .a
      compareFeeSide fees tokens gauge .b) = _
    rw [hside]
    rfl

/-- The audit that recomputes is the one that counts in the order of the keys. -/
theorem audit_byKey : (byKey e).audit tokens = e.audit tokens := by
  unfold Reading.audit Engine.audit
  rw [checkPower_byKey, checkWeights_byKey, checkFees_byKey]
  rfl

end Reading

/-- There is nothing to say of books that balance, as far as their sums are amounts. -/
theorem audited_iff : e.Audited tokens ↔ e.SumsFit ∧ e.InBalance tokens := by
  constructor
  · intro h
    refine ⟨⟨checkPowerSums_passes_iff.mp
      (checkPowerSums_eq_ok_iff.mpr ⟨h.live_fits, h.closed_fits⟩), fun gauge side => ?_⟩, ?_⟩
    · refine Table.total_lt fun r hr hcounts => ?_
      obtain rfl := (ite_ne_right_iff.mp hcounts).1
      exact h.fees_fit r hr side
    · exact {
        gauge_closed := fun r hr => (h.epochGauges r hr).1.symm
        gauge_total := fun r hr => (h.epochGauges r hr).2.symm
        voter_closed := fun s hs => (h.snapshots s hs).1.symm
        voter_allocated := fun s hs => (h.snapshots s hs).2.1.symm
        allocated_le := fun s hs => UInt64.le_iff_toNat_le.mpr (h.snapshots s hs).2.2
        weights := h.weights
        fee_vault := fun g hg side => (h.fees g hg side).1
        fees := fun g hg side => (h.fees g hg side).2
        escrow_lt := fun b hb => (h.bribes b hb).1
        paid_le := fun b hb => by
          have hheld := (h.bribes b hb).2
          omega
        bribe_vault := fun b hb => by
          have hheld := (h.bribes b hb).2
          omega
        settled_once := fun c hc k hk => h.settled_once k hk c hc }
  · rintro ⟨hfits, h⟩
    obtain ⟨hlive, hclosed⟩ :=
      checkPowerSums_eq_ok_iff.mp (checkPowerSums_passes_iff.mpr hfits.power)
    exact {
      live_fits := hlive
      closed_fits := hclosed
      fees_fit := fun r _ side => hfits.fees r.gauge side
      epochGauges := fun r hr => ⟨(h.gauge_closed r hr).symm, (h.gauge_total r hr).symm⟩
      snapshots := fun s hs => ⟨(h.voter_closed s hs).symm, (h.voter_allocated s hs).symm,
        UInt64.le_iff_toNat_le.mp (h.allocated_le s hs)⟩
      weights := h.weights
      fees := fun g hg side => ⟨h.fee_vault g hg side, h.fees g hg side⟩
      bribes := fun b hb => by
        have hpaid := h.paid_le b hb
        have hheld := h.bribe_vault b hb
        exact ⟨h.escrow_lt b hb, by omega⟩
      settled_once := fun k hk c hc => h.settled_once c hc k hk }

/-- The audit passes, in the order of the keys or in any other, if and only if the sums that
it counts are amounts and the books balance. -/
theorem audit_passes_iff_inBalance (e : Engine) (tokens : TokenLedger) :
    (e.audit tokens = .ok () ↔ e.SumsFit ∧ e.InBalance tokens) ∧
      ∀ o : e.Reading, o.audit tokens = .ok () ↔ e.SumsFit ∧ e.InBalance tokens := by
  have hrecomputed : e.audit tokens = .ok () ↔ e.SumsFit ∧ e.InBalance tokens :=
    audit_eq_ok_iff.trans audited_iff
  refine ⟨hrecomputed, fun o => ?_⟩
  rw [o.audit_passes (Reading.byKey e) tokens, Reading.audit_byKey]
  exact hrecomputed

end Engine
end EpochVoting
