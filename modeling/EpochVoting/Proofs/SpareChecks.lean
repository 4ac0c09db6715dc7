import EpochVoting.Proofs.Due
import EpochVoting.Proofs.SameVoter

/-!
# Checks that never fail

Some checks of the calls are on running totals: that an addition fits, that a difference is
not negative, that a record to be updated is there.  In a reachable state most of them pass
whenever those before them do, because the totals are sums over the records
(`checks_spare_along_run`).  What is left are the totals that grow beyond any record: the
power of a gauge, the weights of a voter, and the number of weight changes.  A check that a
record can be taken out follows a lookup of the same record, and passes in every state
(`close_eq_alreadyClosed_iff`, `removeEmptyEpochGauge_eq_notFound_iff`).
-/

namespace EpochVoting

section

variable {α β : Type} {refusal error : VotingError} {kind : ErrorKind}

/-- A lookup whose refusal would be of another kind is not what has failed. -/
theorem demand_passes {o : Option α} {f : α → Except VotingError β}
    (h : (demand refusal o >>= f) = .error error) (hkind : error.kind = kind)
    (hother : refusal.kind ≠ kind) : ∃ a, o = some a ∧ f a = .error error := by
  obtain hnone | ⟨a, ha, hrest⟩ := bind_eq_error_iff.mp h
  · obtain ⟨-, rfl⟩ := demand_eq_error_iff.mp hnone
    exact absurd hkind hother
  · exact ⟨a, demand_eq_ok_iff.mp ha, hrest⟩

/-- A guard whose refusal would be of another kind is not what has failed. -/
theorem require_passes {condition : Bool} {f : Unit → Except VotingError β}
    (h : (require condition refusal >>= f) = .error error) (hkind : error.kind = kind)
    (hother : refusal.kind ≠ kind) : condition = true ∧ f () = .error error := by
  obtain hfalse | ⟨_, hpasses, hrest⟩ := bind_eq_error_iff.mp h
  · obtain ⟨-, rfl⟩ := require_eq_error_iff.mp hfalse
    exact absurd hkind hother
  · exact ⟨require_eq_ok_iff.mp hpasses, hrest⟩

end

/-! ## Weights -/

namespace WeightBook

variable {b : WeightBook} {voter gauge : Address}

/-- The sum of a voter's weights once the weight on a gauge is replaced. -/
def summedWith (b : WeightBook) (voter gauge : Address) (weight : UInt32) : Nat :=
  summedWeight { b with weights := b.weights.insert { voter, gauge, weight } } voter

theorem summedWith_add (b : WeightBook) (voter gauge : Address) (weight : UInt32) :
    b.summedWith voter gauge weight + (b.weight voter gauge).toNat =
      b.summedWeight voter + weight.toNat := by
  have hsum : (b.write voter gauge weight 0 0).summedWeight voter + _ = _ :=
    summedWeight_write voter gauge
  rw [if_pos rfl, if_pos rfl] at hsum
  exact hsum

/-- A weight is part of the voter's total, so it can be taken out. -/
theorem Balanced.weight_le (h : b.Balanced) (voter gauge : Address) :
    (b.weight voter gauge).toNat ≤ (b.totalWeight voter).toNat := by
  have hsum := b.summedWith_add voter gauge 0
  rw [← h voter]
  change _ = b.summedWeight voter + 0 at hsum
  omega

/-- A weight change that is not forbidden is refused exactly if it is one too many, or if
the sum of the weights would not be an amount. -/
theorem Balanced.setVote_eq_error_iff (h : b.Balanced) {g : Gauge} {weight : UInt32}
    (hallowed : g.enabled = true ∨ weight ≤ b.weight voter g.target) {error : VotingError} :
    b.setVote voter g weight = .error error ↔ error = .overflow ∧
      (b.seqno voter = Amount.greatest ∨ 2 ^ 64 ≤ b.summedWith voter g.target weight) := by
  have hcheck : (g.enabled || decide (weight ≤ b.weight voter g.target)) = true := by
    rw [Bool.or_eq_true, decide_eq_true_iff]
    exact hallowed
  obtain ⟨others, hothers⟩ :
      ∃ others, Amount.sub? (b.totalWeight voter) (b.weight voter g.target).toUInt64 =
        some others := by
    refine Amount.sub?_succeeds ?_
    rw [UInt32.toNat_toUInt64]
    exact h.weight_le voter g.target
  have hsum : others.toNat + weight.toNat = b.summedWith voter g.target weight := by
    have hold := Amount.sub?_eq_some_iff.mp hothers
    have hnew := b.summedWith_add voter g.target weight
    rw [UInt32.toNat_toUInt64] at hold
    rw [h voter] at hnew
    omega
  have hlast : Amount.add? (b.seqno voter) 1 = none ↔ b.seqno voter = Amount.greatest := by
    rw [Amount.add?_eq_none_iff, ← UInt64.toNat_inj, Amount.toNat_greatest]
    have hlt := (b.seqno voter).toNat_lt_size
    change _ ≤ _ + 1 ↔ _
    omega
  have hfull : Amount.add? others weight.toUInt64 = none ↔
      2 ^ 64 ≤ b.summedWith voter g.target weight := by
    rw [Amount.add?_eq_none_iff, UInt32.toNat_toUInt64, hsum]
    exact Iff.rfl
  unfold WeightBook.setVote
  simp only [bind_eq_error_iff, require_eq_error_iff, require_passes_iff, demand_eq_error_iff,
    demand_eq_ok_iff, hcheck, hothers, hfull, hlast, pure_ne_error, reduceCtorEq, false_and,
    and_false, false_or, or_false, true_and, exists_false, exists_const, exists_eq_left',
    Option.some.injEq, Bool.true_eq_false]
  constructor
  · rintro (⟨hlarge, rfl⟩ | ⟨_, -, hseqno, rfl⟩)
    · exact ⟨rfl, Or.inr hlarge⟩
    · exact ⟨rfl, Or.inl hseqno⟩
  · rintro ⟨rfl, hcause⟩
    by_cases hlarge : 2 ^ 64 ≤ b.summedWith voter g.target weight
    · exact Or.inl ⟨hlarge, rfl⟩
    · obtain ⟨total, htotal⟩ := Option.ne_none_iff_exists'.mp (mt hfull.mp hlarge)
      exact Or.inr ⟨total, htotal, hcause.resolve_right hlarge, rfl⟩

end WeightBook

/-! ## Commitments -/

namespace Commitments

variable {c : Commitments} {now epoch : Epoch} {voter gauge : Address} {x : EpochVote}

/-- Both totals cover a vote, so there is room to take it back. -/
theorem Consistent.revert_eq_ok (h : c.Consistent now)
    (hx : c.vote? voter gauge epoch = some x) :
    ∃ c', c.revert voter gauge epoch = .ok (x.allocatedPower, c') := by
  have hmem := Table.mem_of_find? hx
  obtain ⟨rfl, rfl, rfl⟩ := key_of_vote? hx
  obtain ⟨r, hr⟩ := h.epochGauge?_of_vote hmem
  obtain ⟨s, hs⟩ := h.snapshot?_of_vote hmem
  have hgauge := h.le_power hx
  rw [power_of_epochGauge? hr] at hgauge
  have hvoter := le_liveOf hmem
  have hallocated := h.allocated_eq x.voter x.epoch
  rw [allocated_of_snapshot? hs] at hallocated
  obtain ⟨gaugeTotal, hgaugeTotal⟩ := Amount.sub?_succeeds hgauge
  have hle : x.allocatedPower.toNat ≤ s.allocatedPower.toNat := by omega
  obtain ⟨voterTotal, hvoterTotal⟩ := Amount.sub?_succeeds hle
  exact ⟨_, revert_eq_ok_iff.mpr ⟨x, r, s, hx, hr, hs, rfl, gaugeTotal, voterTotal,
    Amount.sub?_eq_some_iff.mp hgaugeTotal, Amount.sub?_eq_some_iff.mp hvoterTotal, rfl⟩⟩

/-- A vote counts as closed already only if it is missing at the start: one that is there can
be taken out at the end. -/
theorem close_eq_alreadyClosed_iff :
    c.close voter gauge epoch = .error .alreadyClosed ↔ c.vote? voter gauge epoch = none := by
  unfold close Commitments.epochGauge Commitments.snapshot
  cases hx : c.vote? voter gauge epoch with
  | none => exact iff_of_true rfl rfl
  | some x =>
    have htaken := Table.take?_of_find? hx
    simp only [bind_eq_error_iff, demand_eq_error_iff, demand_eq_ok_iff, htaken, pure_ne_error,
      reduceCtorEq, false_and, and_false, or_false, exists_false]

/-- A gauge's record counts as missing only if it is missing at the start. -/
theorem removeEmptyEpochGauge_eq_notFound_iff :
    c.removeEmptyEpochGauge gauge epoch = .error (.epochGaugeNotFound gauge epoch) ↔
      c.epochGauge? gauge epoch = none := by
  unfold removeEmptyEpochGauge Commitments.epochGauge
  cases hr : c.epochGauge? gauge epoch with
  | none => exact iff_of_true rfl rfl
  | some r =>
    have htaken := Table.take?_of_find? hr
    simp only [bind_eq_error_iff, demand_eq_error_iff, demand_eq_ok_iff, require_eq_error_iff,
      htaken, pure_ne_error, reduceCtorEq, false_and, and_false, or_false, exists_false]

end Commitments

namespace Engine

variable {e : Engine} {voter gauge : Address} {error : VotingError}

/-- With the part that the weight on a gauge is worth, the voter's allocations stay within the
snapshot's power. -/
theorem PowerSound.allocated_add_share_le (h : e.PowerSound) {s : Snapshot}
    (hfree : e.commitments.vote? voter gauge e.currentEpoch = none)
    (hs : e.commitments.snapshot? voter e.currentEpoch = some s)
    (hseqno : s.weightChangeSeqno = e.weights.seqno voter) :
    s.allocatedPower.toNat + s.votingPower.toNat * (e.weights.weight voter gauge).toNat /
      (e.weights.totalWeight voter).toNat ≤ s.votingPower.toNat := by
  have hle := h.balanced.share_le voter gauge s.votingPower.toNat
  obtain ⟨share, hshare⟩ : ∃ share : UInt64, share.toNat = s.votingPower.toNat *
      (e.weights.weight voter gauge).toNat / (e.weights.totalWeight voter).toNat :=
    Amount.exists_toNat_eq (Nat.lt_of_le_of_lt hle s.votingPower.toNat_lt)
  have hpinned : (e.commitments.addVote (.fresh gauge e.currentEpoch (.both 0)) s
      ⟨voter, gauge, e.currentEpoch, share⟩ 0 0).Pinned e.weights := h.pinned.addVote hs hshare
  rw [← hshare]
  exact h.allocated_add_le hpinned rfl hfree hs hseqno

/-- The only number that a commitment can be too large for is the power of the gauge. -/
theorem PowerSound.commit_arithmetic (h : e.PowerSound)
    (hcall : e.commit voter gauge = .error error) (hkind : error.kind = .arithmetic) :
    error = .overflow ∧ ∃ r s, e.commitments.epochGauge? gauge e.currentEpoch = some r ∧
      e.commitments.snapshot? voter e.currentEpoch = some s ∧
      2 ^ 64 ≤ r.totalPower.toNat + s.votingPower.toNat *
        (e.weights.weight voter gauge).toNat / (e.weights.totalWeight voter).toNat := by
  obtain ⟨g, hgauge, hcall⟩ := demand_passes hcall hkind nofun
  have htarget := Registry.target_of_find? hgauge
  obtain hcall | ⟨_, -, hdone⟩ := bind_eq_error_iff.mp hcall
  swap
  · exact absurd hdone pure_ne_error
  unfold Commitments.commit at hcall
  rw [htarget] at hcall
  obtain ⟨hfree, hcall⟩ := require_passes hcall hkind nofun
  obtain ⟨-, hcall⟩ := require_passes hcall hkind nofun
  obtain ⟨s, hs, hcall⟩ := demand_passes hcall hkind nofun
  obtain ⟨hseqno, hcall⟩ := require_passes hcall hkind nofun
  obtain ⟨r, hr, hcall⟩ := demand_passes hcall hkind nofun
  rw [Option.isNone_iff_eq_none] at hfree
  rw [beq_iff_eq] at hseqno
  -- The share is at most the snapshot's power, so it is an amount.
  have hle := h.balanced.share_le voter gauge s.votingPower.toNat
  obtain ⟨share, hshare⟩ : ∃ share : UInt64, share.toNat = s.votingPower.toNat *
      (e.weights.weight voter gauge).toNat / (e.weights.totalWeight voter).toNat :=
    Amount.exists_toNat_eq (Nat.lt_of_le_of_lt hle s.votingPower.toNat_lt)
  have hallocated : Amount.share? s.votingPower (e.weights.weight voter gauge).toUInt64
      (e.weights.totalWeight voter) = some share := by
    rw [Amount.share?_eq_some_iff, UInt32.toNat_toUInt64]
    exact hshare
  have hfits : s.allocatedPower.toNat + share.toNat < 2 ^ 64 := by
    rw [hshare]
    exact Nat.lt_of_le_of_lt (h.allocated_add_share_le hfree hs hseqno) s.votingPower.toNat_lt
  obtain ⟨voterTotal, hvoterTotal⟩ := Amount.add?_succeeds hfits
  rw [hallocated] at hcall
  change (if share = 0 then _ else _) = _ at hcall
  split at hcall
  · exact absurd hcall pure_ne_error
  · obtain hgaugeTotal | ⟨_, -, hcall⟩ := bind_eq_error_iff.mp hcall
    · obtain ⟨hfull, rfl⟩ := demand_eq_error_iff.mp hgaugeTotal
      rw [Amount.add?_eq_none_iff, hshare] at hfull
      exact ⟨rfl, r, s, hr, hs, hfull⟩
    · rw [hvoterTotal] at hcall
      exact absurd hcall pure_ne_error

end Engine

/-! ## Calls -/

namespace Deployment

open EpochVoting.Action

variable {d : Deployment} {voter gauge : Address} {epoch : Epoch} {error : VotingError}

/-- A call of the engine alone answers what the engine answers. -/
theorem answer_of_call {α : Type} {operation : Operation} {reply : α → Reply}
    {call : Deployment → Except VotingError (α × Engine)} {a : α} {e : Engine}
    (h : perform operation = reply <$> onEngine call) (hcall : call d = .ok (a, e)) :
    d.answer operation = .ok (reply a) := by
  have hrun : (perform operation).run d = .ok (reply a) { d with engine := e } := by
    rw [h]
    exact run_map_eq_ok_iff.mpr ⟨a, run_onEngine_eq_ok_iff.mpr ⟨e, hcall, rfl⟩, rfl⟩
  exact answer_of_run hrun

/-- A call of the engine alone is refused as the engine refuses it. -/
theorem answer_eq_error_iff {α : Type} {operation : Operation} {reply : α → Reply}
    {call : Deployment → Except VotingError (α × Engine)}
    (h : perform operation = reply <$> onEngine call) :
    d.answer operation = .error error ↔ call d = .error error := by
  unfold answer
  rw [h, map_eq_pure_bind, EStateM.run_bind]
  cases hcall : call d with
  | ok result =>
    rw [run_onEngine_eq_ok_iff.mpr ⟨result.2, hcall, rfl⟩]
    exact iff_of_false nofun nofun
  | error refusal =>
    rw [run_onEngine_eq_error_iff.mpr ⟨hcall, rfl⟩]
    change Except.error refusal = Except.error error ↔ _
    rw [Except.error.injEq, Except.error.injEq]

theorem answer_commit_eq_error_iff :
    d.answer (.commit voter gauge) = .error error ↔
      d.engine.commit voter gauge = .error error :=
  answer_eq_error_iff (rfl : perform (.commit voter gauge) =
    Reply.outcome <$> onEngine fun d => d.engine.commit voter gauge)

/-- The delegate's call to take back a vote gets to the records. -/
theorem revert_of_actsFor {authority : Option Address} {wanted : Option Epoch} {released : UInt64}
    {c : Commitments} (hacts : d.actsFor authority voter = true)
    (hlive : wanted.getD d.engine.currentEpoch = d.engine.currentEpoch)
    (hreverted : d.engine.commitments.revert voter gauge d.engine.currentEpoch =
      .ok (released, c)) :
    d.engine.revert d.escrow (authority.getD (d.escrow.delegateOf voter)) voter gauge
      (wanted.getD d.engine.currentEpoch) = .ok (released, { d.engine with commitments := c }) := by
  obtain ⟨lock, hlock, hdelegate⟩ := actsFor_eq_true_iff.mp hacts
  rw [hlive]
  exact bind_eq_ok_iff.mpr ⟨lock, Escrow.requireDelegate_eq_ok_iff.mpr ⟨hlock, hdelegate⟩,
    bind_eq_ok_iff.mpr ⟨(), Factory.requireLive_eq_ok_iff.mpr rfl,
      bind_eq_ok_iff.mpr ⟨_, hreverted, rfl⟩⟩⟩

/-- The delegate can take back every live vote of the current epoch. -/
theorem succeeds_revert {authority : Option Address} {wanted : Option Epoch} {x : EpochVote}
    (hsound : d.engine.Sound) (hacts : d.actsFor authority voter = true)
    (hlive : wanted.getD d.engine.currentEpoch = d.engine.currentEpoch)
    (hx : d.engine.commitments.vote? voter gauge d.engine.currentEpoch = some x) :
    Succeeds (perform (.revert authority voter gauge wanted)) d := by
  obtain ⟨c, hreverted⟩ := hsound.power.consistent.revert_eq_ok hx
  exact ⟨_, _, run_map_eq_ok_iff.mpr ⟨_, run_onEngine_eq_ok_iff.mpr
    ⟨_, revert_of_actsFor hacts hlive hreverted, rfl⟩, rfl⟩⟩

/-- An allowed weight change is refused exactly if it is one too many or its sum is not an
amount. -/
theorem setVote_refused_iff {authority : Option Address} {weight : UInt32} {lock : Lock}
    {g : Gauge} (hsound : d.engine.Sound) (hlock : d.escrow.lock? voter = some lock)
    (hmay : lock.canSetVotes (authority.getD (d.escrow.delegateOf voter)) = true)
    (hgauge : d.engine.registry.gauges.find? gauge = some g)
    (hallowed : g.enabled = true ∨ weight ≤ d.engine.weights.weight voter gauge) :
    d.answer (.setVote authority voter gauge weight) = .error error ↔ error = .overflow ∧
      (d.engine.weights.seqno voter = Amount.greatest ∨
        2 ^ 64 ≤ d.engine.weights.summedWith voter gauge weight) := by
  obtain rfl := Registry.target_of_find? hgauge
  rw [← hsound.power.balanced.setVote_eq_error_iff hallowed]
  refine Iff.trans (answer_eq_error_iff (rfl : perform (.setVote authority voter g.target weight) =
    Reply.voteChange <$> onEngine fun d => d.engine.setVote d.escrow
      (authority.getD (d.escrow.delegateOf voter)) voter g.target weight)) ?_
  unfold Engine.setVote Escrow.lock Registry.get
  rw [hlock, hgauge]
  simp only [hmay, bind_eq_error_iff, demand_eq_error_iff, demand_eq_ok_iff, require_eq_error_iff,
    require_passes_iff, pure_ne_error, reduceCtorEq, false_and, and_false, false_or, or_false,
    true_and, exists_false, exists_const, exists_eq_left', Option.some.injEq, Bool.true_eq_false]

/-- The checks on running totals that are left: those that can fail, and what they fail
on. -/
structure ChecksSpare (d : Deployment) : Prop where
  /-- A commitment's share is always an amount. -/
  commit_castFailed : ∀ voter gauge, d.answer (.commit voter gauge) ≠ .error .castFailed
  /-- A commitment overflows the power of the gauge or nothing. -/
  commit_overflow : ∀ voter gauge, d.answer (.commit voter gauge) = .error .overflow →
    ∃ r s, d.engine.commitments.epochGauge? gauge d.engine.currentEpoch = some r ∧
      d.engine.commitments.snapshot? voter d.engine.currentEpoch = some s ∧
      2 ^ 64 ≤ r.totalPower.toNat + s.votingPower.toNat *
        (d.engine.weights.weight voter gauge).toNat / (d.engine.weights.totalWeight voter).toNat
  /-- The delegate can take back every live vote of the current epoch. -/
  revert : ∀ authority voter gauge wanted x, d.actsFor authority voter = true →
    wanted.getD d.engine.currentEpoch = d.engine.currentEpoch →
    d.engine.commitments.vote? voter gauge d.engine.currentEpoch = some x →
    Succeeds (perform (.revert authority voter gauge wanted)) d
  /-- The delegate can close every live vote of an elapsed epoch. -/
  close : ∀ authority voter gauge epoch x, d.actsFor authority voter = true →
    epoch < d.engine.currentEpoch →
    d.engine.commitments.vote? voter gauge epoch = some x →
    Succeeds (perform (.close authority voter gauge epoch)) d
  /-- Taking out a vote that was found never fails. -/
  close_alreadyClosed : ∀ voter gauge epoch,
    d.engine.commitments.close voter gauge epoch = .error .alreadyClosed ↔
      d.engine.commitments.vote? voter gauge epoch = none
  /-- Everyone can remove a gauge's record of an elapsed epoch that is without power. -/
  clean : ∀ gauge epoch r, epoch < d.engine.currentEpoch →
    d.engine.commitments.epochGauge? gauge epoch = some r → r.totalPower = 0 →
    Succeeds (perform (.cleanEpochGauge gauge epoch)) d
  /-- Taking out a gauge's record that was found never fails. -/
  clean_notFound : ∀ gauge epoch,
    d.engine.commitments.removeEmptyEpochGauge gauge epoch =
        .error (.epochGaugeNotFound gauge epoch) ↔
      d.engine.commitments.epochGauge? gauge epoch = none
  /-- An allowed weight change is refused if it is one too many or if the sum of the voter's
  weights would not be an amount, and otherwise not. -/
  setVote : ∀ authority voter gauge weight lock g, d.escrow.lock? voter = some lock →
    lock.canSetVotes (authority.getD (d.escrow.delegateOf voter)) = true →
    d.engine.registry.gauges.find? gauge = some g →
    (g.enabled = true ∨ weight ≤ d.engine.weights.weight voter gauge) →
    ∀ error, d.answer (.setVote authority voter gauge weight) = .error error ↔
      error = .overflow ∧ (d.engine.weights.seqno voter = Amount.greatest ∨
        2 ^ 64 ≤ d.engine.weights.summedWith voter gauge weight)

theorem checksSpare (hsound : d.engine.Sound) : d.ChecksSpare where
  commit_castFailed voter gauge hcall := by
    have hfails := (hsound.power.commit_arithmetic (answer_commit_eq_error_iff.mp hcall) rfl).1
    cases hfails
  commit_overflow voter gauge hcall :=
    (hsound.power.commit_arithmetic (answer_commit_eq_error_iff.mp hcall) rfl).2
  revert _ _ _ _ _ hacts hlive hx := succeeds_revert hsound hacts hlive hx
  close _ _ _ _ _ hacts helapsed hx := succeeds_close hsound hacts hx helapsed
  close_alreadyClosed _ _ _ := Commitments.close_eq_alreadyClosed_iff
  clean _ _ _ helapsed hr hzero := succeeds_clean hsound hr helapsed hzero
  clean_notFound _ _ := Commitments.removeEmptyEpochGauge_eq_notFound_iff
  setVote _ _ _ _ _ _ hlock hmay hgauge hallowed _ :=
    setVote_refused_iff hsound hlock hmay hgauge hallowed

/-- After every run from a new deployment, the checks on running totals fail for no other
reason than a gauge's power, a voter's weights or the number of weight changes being too
large. -/
theorem checks_spare_along_run {foreman : Address} {params : FactoryParams}
    {maxLockSecs : UInt64} (hcreate : create foreman params maxLockSecs = .ok d)
    (run : List Operation) : (d.afterAll run).ChecksSpare :=
  checksSpare (sound_afterAll hcreate run)

open Sample in
/-- In the sample the vote of the first epoch could be taken back during that epoch, and
closed at the end. -/
theorem checks_spare_along_sample :
    Succeeds (perform (.revert none (account 4) (account 1) none))
      (deployment.afterAll (run.take 7)) ∧
    Succeeds (perform (.close none (account 4) (account 1) 1)) (deployment.afterAll run) := by
  have hstate :
      ((deployment.afterAll (run.take 7)).actsFor none (account 4) = true ∧
        (deployment.afterAll (run.take 7)).engine.commitments.vote? (account 4) (account 1)
          (deployment.afterAll (run.take 7)).engine.currentEpoch =
            some ⟨account 4, account 1, 1, 100⟩) ∧
      (deployment.afterAll run).actsFor none (account 4) = true ∧
        1 < (deployment.afterAll run).engine.currentEpoch ∧
        (deployment.afterAll run).engine.commitments.vote? (account 4) (account 1) 1 =
          some ⟨account 4, account 1, 1, 100⟩ := by
    decide +kernel
  obtain ⟨⟨hacts, hx⟩, hacts', helapsed, hx'⟩ := hstate
  exact ⟨(checks_spare_along_run create_deployment (run.take 7)).revert none (account 4)
      (account 1) none _ hacts Option.getD_none hx,
    (checks_spare_along_run create_deployment run).close none (account 4) (account 1) 1 _ hacts'
      helapsed hx'⟩

end Deployment
end EpochVoting
