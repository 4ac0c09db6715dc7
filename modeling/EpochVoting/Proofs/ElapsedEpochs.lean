import EpochVoting.Proofs.Frame
import EpochVoting.Proofs.Segregation
import Mathlib.Data.List.Induction

/-!
# What an elapsed epoch resulted in

`Proofs.Finality` says that power, allocations and fees of elapsed epochs stay as they
are.  Here this is completed: in an elapsed epoch no record of a gauge, no snapshot and no
commitment is ever new, and the snapshots keep their power, their weights' number and what
is allocated from them (`Engine.FinalBefore`).

An operation either stays in the epoch or moves to the next one without touching a
commitment (`after_epoch_cases`).  So the share that the reward sink is told for a gauge is
the same all through an epoch: the power that the gauge had when the epoch before it ended.
-/

namespace EpochVoting

/-- The numbers of a snapshot that allocations depend on and that they change. -/
def Snapshot.stake (s : Snapshot) : UInt64 × UInt64 × UInt64 :=
  (s.votingPower, s.weightChangeSeqno, s.allocatedPower)

/-! ## Nothing new in elapsed epochs -/

namespace Commitments

variable {c c' c'' : Commitments} {n m : Epoch}

theorem AgreeBefore.mono (h : AgreeBefore m c c') (hle : n ≤ m) : AgreeBefore n c c' where
  power gauge epoch hlt := h.power gauge epoch (UInt32.lt_of_lt_of_le hlt hle)
  allocation voter gauge epoch hlt :=
    h.allocation voter gauge epoch (UInt32.lt_of_lt_of_le hlt hle)
  fees gauge epoch side hlt := h.fees gauge epoch side (UInt32.lt_of_lt_of_le hlt hle)

/-- In the epochs before `n` no record is new, and the snapshots keep their stakes. -/
structure NothingNewBefore (n : Epoch) (c c' : Commitments) : Prop where
  gauges : ∀ gauge epoch, epoch < n → c.epochGauge? gauge epoch = none →
    c'.epochGauge? gauge epoch = none
  stakes : ∀ voter epoch, epoch < n →
    (c'.snapshot? voter epoch).map Snapshot.stake = (c.snapshot? voter epoch).map Snapshot.stake
  votes : ∀ voter gauge epoch, epoch < n → c.vote? voter gauge epoch = none →
    c'.vote? voter gauge epoch = none

namespace NothingNewBefore

theorem refl (n : Epoch) (c : Commitments) : NothingNewBefore n c c :=
  ⟨fun _ _ _ h => h, fun _ _ _ => rfl, fun _ _ _ _ h => h⟩

theorem trans (h : NothingNewBefore n c c') (h' : NothingNewBefore n c' c'') :
    NothingNewBefore n c c'' where
  gauges gauge epoch hlt hnone := h'.gauges gauge epoch hlt (h.gauges gauge epoch hlt hnone)
  stakes voter epoch hlt := (h'.stakes voter epoch hlt).trans (h.stakes voter epoch hlt)
  votes voter gauge epoch hlt hnone :=
    h'.votes voter gauge epoch hlt (h.votes voter gauge epoch hlt hnone)

theorem mono (h : NothingNewBefore m c c') (hle : n ≤ m) : NothingNewBefore n c c' where
  gauges gauge epoch hlt := h.gauges gauge epoch (UInt32.lt_of_lt_of_le hlt hle)
  stakes voter epoch hlt := h.stakes voter epoch (UInt32.lt_of_lt_of_le hlt hle)
  votes voter gauge epoch hlt := h.votes voter gauge epoch (UInt32.lt_of_lt_of_le hlt hle)

end NothingNewBefore

/-- A record of the epoch `n` is none of an epoch before it. -/
theorem epochGauge?_insert_of_lt {r : EpochGauge} (h : c'.epochGauges = c.epochGauges.insert r)
    (hr : r.epoch = n) {epoch : Epoch} (hlt : epoch < n) (gauge : Address) :
    c'.epochGauge? gauge epoch = c.epochGauge? gauge epoch := by
  rw [epochGauge?_insert h, if_neg]
  rintro ⟨-, rfl⟩
  exact UInt32.lt_irrefl n (hr ▸ hlt)

theorem snapshot?_insert_of_lt {s : Snapshot} (h : c'.snapshots = c.snapshots.insert s)
    (hs : s.epoch = n) {epoch : Epoch} (hlt : epoch < n) (voter : Address) :
    c'.snapshot? voter epoch = c.snapshot? voter epoch := by
  rw [snapshot?_insert h, if_neg]
  rintro ⟨-, rfl⟩
  exact UInt32.lt_irrefl n (hs ▸ hlt)

/-- A record that was there is replaced, so none is new. -/
theorem epochGauge?_insert_eq_none {r r' : EpochGauge}
    (h : c'.epochGauges = c.epochGauges.insert r')
    (hr : c.epochGauge? r'.gauge r'.epoch = some r) {gauge : Address} {epoch : Epoch}
    (hnone : c.epochGauge? gauge epoch = none) : c'.epochGauge? gauge epoch = none := by
  rw [epochGauge?_insert h, if_neg]
  · exact hnone
  · rintro ⟨rfl, rfl⟩
    rw [hr] at hnone
    cases hnone

theorem vote?_erase_eq_none {v g : Address} {e : Epoch} (h : c'.votes = c.votes.erase (v, g, e))
    {voter gauge : Address} {epoch : Epoch} (hnone : c.vote? voter gauge epoch = none) :
    c'.vote? voter gauge epoch = none := by
  rw [vote?_erase h, hnone, ite_self]

end Commitments

namespace Engine

variable {e e' : Engine} {n : Epoch}

open Commitments in
/-- No change writes a new record into an elapsed epoch. -/
theorem Change.nothingNew (h : e.Change e') :
    NothingNewBefore e.currentEpoch e.commitments e'.commitments := by
  cases h with
  | @snapshotTaken voter power hnone =>
    refine ⟨fun _ _ _ h => h, fun v epoch hlt => ?_, fun _ _ _ _ h => h⟩
    exact congrArg (Option.map Snapshot.stake) (snapshot?_insert_of_lt rfl rfl hlt v)
  | @snapshotReset voter s power hs hzero =>
    have hepoch := (key_of_snapshot? hs).2
    refine ⟨fun _ _ _ h => h, fun v epoch hlt => ?_, fun _ _ _ _ h => h⟩
    refine congrArg (Option.map Snapshot.stake) (snapshot?_insert_of_lt rfl ?_ hlt v)
    exact hepoch
  | @captured target g totals capture hgauge henabled hnone hcapture =>
    refine ⟨fun gauge epoch hlt h => ?_, fun _ _ _ => rfl, fun _ _ _ _ h => h⟩
    exact (epochGauge?_insert_of_lt rfl rfl hlt gauge).trans h
  | @committed g r s x gaugeTotal voterTotal hepoch hgauge henabled hnone hs hseqno hr =>
    have hrold := epochGauge?_self hr
    have hsepoch := (key_of_snapshot? hs).2.trans hepoch
    refine ⟨fun gauge epoch _ h => ?_, fun v epoch hlt => ?_, fun v gauge epoch hlt h => ?_⟩
    · refine epochGauge?_insert_eq_none (r := r) rfl ?_ h
      exact hrold
    · refine congrArg (Option.map Snapshot.stake) (snapshot?_insert_of_lt rfl ?_ hlt v)
      exact hsepoch
    · refine ((vote?_insert rfl v gauge epoch).trans (if_neg ?_)).trans h
      rintro ⟨-, -, rfl⟩
      exact UInt32.lt_irrefl _ (hepoch ▸ hlt)
  | @reverted r s x gaugeTotal voterTotal hepoch hx hr hs =>
    have hrold := epochGauge?_self hr
    have hsepoch := (key_of_snapshot? hs).2.trans hepoch
    refine ⟨fun gauge epoch _ h => ?_, fun v epoch hlt => ?_, fun _ _ _ _ h => ?_⟩
    · refine epochGauge?_insert_eq_none (r := r) rfl ?_ h
      exact hrold
    · refine congrArg (Option.map Snapshot.stake) (snapshot?_insert_of_lt rfl ?_ hlt v)
      exact hsepoch
    · exact vote?_erase_eq_none rfl h
  | @closed r s x gaugeClosed voterClosed helapsed hx hr hs =>
    -- The snapshot is written, but only its closed allocations.
    have hrold := epochGauge?_self hr
    have hsold := snapshot?_self hs
    refine ⟨fun gauge epoch _ h => ?_, fun voter epoch _ => ?_, fun _ _ _ _ h => ?_⟩
    · refine epochGauge?_insert_eq_none (r := r) rfl ?_ h
      exact hrold
    · refine snapshot?_map_insert Snapshot.stake (s := s) rfl ?_ ?_ voter epoch
      · exact hsold
      · rfl
    · exact vote?_erase_eq_none rfl h
  | @cleaned target epoch g r pruned helapsed hr hzero hgauge hpruned =>
    refine ⟨fun gauge epoch' _ h => ?_, fun _ _ _ => rfl, fun _ _ _ _ h => h⟩
    refine (epochGauge?_erase rfl gauge epoch').trans ?_
    rw [h, ite_self]
  | @feeClaimed voter target epoch side g r s claim helapsed hgauge hr hs hclaim =>
    have hsold := snapshot?_self hs
    refine ⟨fun _ _ _ h => h, fun v epoch' _ => ?_, fun _ _ _ _ h => h⟩
    refine snapshot?_map_insert Snapshot.stake (s := s) rfl ?_ ?_ v epoch'
    · exact hsold
    · rfl
  | _ => exact .refl _ _

theorem Change.currentEpoch_le (h : e.Change e') : e.currentEpoch ≤ e'.currentEpoch := by
  cases h with
  | clock hepoch => exact hepoch
  | _ => exact UInt32.le_refl _

/-- A change stays in the epoch, or it moves the clock to the next one and nothing else. -/
theorem Change.epoch_cases (h : e.Change e') :
    e'.currentEpoch = e.currentEpoch ∨
      e'.currentEpoch.toNat = e.currentEpoch.toNat + 1 ∧ e'.commitments = e.commitments := by
  cases h with
  | @clock factory hepoch hnext =>
    rw [UInt32.le_iff_toNat_le] at hepoch
    by_cases hsame : factory.currentEpoch = e.factory.currentEpoch
    · exact Or.inl hsame
    · have hne : factory.currentEpoch.toNat ≠ e.factory.currentEpoch.toNat := by
        simpa [UInt32.toNat_inj] using hsame
      refine Or.inr ⟨?_, rfl⟩
      show factory.currentEpoch.toNat = e.factory.currentEpoch.toNat + 1
      omega
  | _ => exact Or.inl rfl

/-- The epochs before `n` have the same results in both: powers, allocations, fees where
there is power, and stakes.  None of their records is new. -/
structure FinalBefore (n : Epoch) (e e' : Engine) : Prop where
  totalPower : ∀ gauge epoch, epoch < n → e'.totalPower gauge epoch = e.totalPower gauge epoch
  allocation : ∀ voter gauge epoch, epoch < n →
    e'.commitments.allocation? voter gauge epoch = e.commitments.allocation? voter gauge epoch
  /-- A record with power stays, with its fees. -/
  fees : ∀ gauge epoch r, epoch < n → e.commitments.epochGauge? gauge epoch = some r →
    r.totalPower ≠ 0 → ∃ r', e'.commitments.epochGauge? gauge epoch = some r' ∧
      r'.accruedFees = r.accruedFees
  /-- A snapshot stays, with its stake; and where there was none there is none. -/
  stakes : ∀ voter epoch, epoch < n →
    (e'.commitments.snapshot? voter epoch).map Snapshot.stake =
      (e.commitments.snapshot? voter epoch).map Snapshot.stake
  noGauge : ∀ gauge epoch, epoch < n → e.commitments.epochGauge? gauge epoch = none →
    e'.commitments.epochGauge? gauge epoch = none
  noVote : ∀ voter gauge epoch, epoch < n → e.commitments.vote? voter gauge epoch = none →
    e'.commitments.vote? voter gauge epoch = none

open Commitments in
theorem FinalBefore.of_agree (hagree : AgreeBefore n e.commitments e'.commitments)
    (hnew : NothingNewBefore n e.commitments e'.commitments) : FinalBefore n e e' := by
  refine {
    totalPower := fun gauge epoch hlt => ?_
    allocation := hagree.allocation
    fees := fun gauge epoch r hlt hr hpower => ?_
    stakes := hnew.stakes
    noGauge := hnew.gauges
    noVote := hnew.votes }
  · rw [← UInt64.toNat_inj, totalPower_toNat, totalPower_toNat, hagree.power gauge epoch hlt]
  · have hne : e.commitments.power gauge epoch ≠ 0 := by
      rw [power_of_epochGauge? hr]
      exact fun hzero => hpower (UInt64.toNat_inj.mp hzero)
    -- Power without a record would be zero, so the record is still there.
    have hne' : e'.commitments.power gauge epoch ≠ 0 := by
      rw [hagree.power gauge epoch hlt]
      exact hne
    obtain ⟨r', hr'⟩ := epochGauge?_of_power_ne_zero hne'
    refine ⟨r', hr', PerSide.ext_get fun side => ?_⟩
    have hside := hagree.fees gauge epoch side hlt hne
    rw [feesAt_of_epochGauge? hr, feesAt_of_epochGauge? hr'] at hside
    exact UInt64.toNat_inj.mp hside

open Commitments in
/-- Changes keep the results of every epoch that was over before them. -/
theorem final_of_changes (h : Relation.ReflTransGen Change e e') :
    e.currentEpoch ≤ e'.currentEpoch ∧ FinalBefore e.currentEpoch e e' := by
  suffices hkept : e.currentEpoch ≤ e'.currentEpoch ∧
      AgreeBefore e.currentEpoch e.commitments e'.commitments ∧
      NothingNewBefore e.currentEpoch e.commitments e'.commitments by
    exact ⟨hkept.1, .of_agree hkept.2.1 hkept.2.2⟩
  induction h with
  | refl => exact ⟨UInt32.le_refl _, .refl _ _, .refl _ _⟩
  | tail _ hchange ih =>
    obtain ⟨hle, hagree, hnew⟩ := ih
    exact ⟨UInt32.le_trans hle hchange.currentEpoch_le,
      hagree.trans (hchange.final.mono hle), hnew.trans (hchange.nothingNew.mono hle)⟩

/-! ## Reward shares -/

/-- The share is the power of the epoch that has just ended. -/
theorem rewardShare_of_next {ended : Epoch} (hfirst : Epoch.first ≤ ended)
    (hnext : e.currentEpoch.toNat = ended.toNat + 1) (target : Address) :
    e.rewardShare target = e.totalPower target ended := by
  have hone : Epoch.first.toNat = 1 := rfl
  have hlater : Epoch.first < e.factory.currentEpoch := by
    rw [UInt32.lt_iff_toNat_lt]
    rw [UInt32.le_iff_toNat_le] at hfirst
    change e.factory.currentEpoch.toNat = _ at hnext
    omega
  have hprevious : e.factory.currentEpoch - 1 = ended := by
    have hle : (1 : UInt32) ≤ e.factory.currentEpoch := UInt32.le_of_lt hlater
    rw [← UInt32.toNat_inj, UInt32.toNat_sub_of_le _ _ hle]
    change e.factory.currentEpoch.toNat - 1 = ended.toNat
    change e.factory.currentEpoch.toNat = _ at hnext
    omega
  unfold Engine.rewardShare Factory.previousEpoch?
  rw [if_pos hlater, hprevious]

/-- Within an epoch the share of a gauge stays as it is. -/
theorem FinalBefore.rewardShare (h : FinalBefore e.currentEpoch e e')
    (hsame : e'.currentEpoch = e.currentEpoch) (target : Address) :
    e'.rewardShare target = e.rewardShare target := by
  unfold Engine.currentEpoch at h hsame
  unfold Engine.rewardShare Factory.previousEpoch?
  rw [hsame]
  by_cases hlater : Epoch.first < e.factory.currentEpoch
  · rw [if_pos hlater]
    refine h.totalPower target _ ?_
    have hone : Epoch.first.toNat = 1 := rfl
    rw [UInt32.lt_iff_toNat_lt] at hlater ⊢
    have hone' : (1 : UInt32) ≤ e.factory.currentEpoch := by
      rw [UInt32.le_iff_toNat_le]
      exact Nat.le_of_lt hlater
    rw [UInt32.toNat_sub_of_le _ _ hone']
    change e.factory.currentEpoch.toNat - 1 < _
    omega
  · rw [if_neg hlater]

end Engine

/-! ## The clock along a run -/

namespace Deployment

open EpochVoting.Action

variable {d d' : Deployment} {foreman : Address} {params : FactoryParams} {maxLockSecs : UInt64}

theorem currentEpoch_le_afterAll (run : List Operation) (d : Deployment) :
    d.engine.currentEpoch ≤ (d.afterAll run).engine.currentEpoch :=
  (Engine.final_of_changes (changes_of_afterAll run d)).1

/-- Waiting for the end of the epoch and advancing. -/
theorem after_nextEpoch (d : Deployment) :
    d.after .nextEpoch =
      (d.after (.passTimeUntil d.engine.factory.nextEpochStartsAt)).after (.advanceEpoch none) := by
  rw [after_eq_leaves, after_eq_leaves _ (.advanceEpoch none), perform, leaves_map,
    perform, leaves_map, nextEpoch, leaves_get_bind]
  rfl

/-- An operation stays in the epoch, or it moves to the next one and touches no record of
committed power. -/
theorem after_epoch_cases (d : Deployment) (operation : Operation) :
    (d.after operation).engine.currentEpoch = d.engine.currentEpoch ∨
      (d.after operation).engine.currentEpoch.toNat = d.engine.currentEpoch.toNat + 1 ∧
        (d.after operation).engine.commitments = d.engine.commitments := by
  have hbasic_cases (part : Operation) (hbasic : part.isBasic = true) (d : Deployment) :
      (d.after part).engine.currentEpoch = d.engine.currentEpoch ∨
        (d.after part).engine.currentEpoch.toNat = d.engine.currentEpoch.toNat + 1 ∧
          (d.after part).engine.commitments = d.engine.commitments := by
    rcases change_of_after (d := d) hbasic with hsame | hchange
    · exact Or.inl (congrArg Engine.currentEpoch hsame)
    · exact hchange.epoch_cases
  by_cases hbasic : operation.isBasic = true
  · exact hbasic_cases operation hbasic d
  by_cases hnext : operation = .nextEpoch
  · -- The time that passes first changes no record.
    subst hnext
    rw [after_nextEpoch]
    exact hbasic_cases (.advanceEpoch none) rfl
      (d.after (.passTimeUntil d.engine.factory.nextEpochStartsAt))
  · -- Creating gauges and voting leave the clock alone.
    refine Or.inl (congrArg Factory.currentEpoch (frame d operation .factory ?_))
    cases operation with
    | nextEpoch => exact absurd rfl hnext
    | addGauge => simp [Operation.writes]
    | voteEpoch => simp [Operation.writes]
    | _ => exact absurd rfl hbasic

/-! ## Shares that were told -/

/-- What a gauge is due after a run: nothing in the first epoch, and then the power that it
had in the epoch before the current one when an operation of the run ended that epoch. -/
def ShareDue (d : Deployment) (run : List Operation) (target : Address) (share : UInt64) :
    Prop :=
  (d.afterAll run).engine.currentEpoch = Epoch.first ∧ share = 0 ∨
    ∃ before operation after, run = before ++ operation :: after ∧
      (d.afterAll run).engine.currentEpoch.toNat =
        (d.afterAll before).engine.currentEpoch.toNat + 1 ∧
      (d.afterAll (before ++ [operation])).engine.currentEpoch =
        (d.afterAll run).engine.currentEpoch ∧
      share = (d.afterAll before).engine.totalPower target
        (d.afterAll before).engine.currentEpoch

theorem run_syncGauge {target : Address} {share : UInt64}
    (h : (syncGauge target).run d = .ok share d') :
    share = d.engine.rewardShare target ∧
      d'.sink.history = d.sink.history ++ [⟨target, share⟩] := by
  have hstep := step_of_syncGauge h
  generalize hreply : Reply.amount share = reply at hstep
  cases hstep with
  | syncGauge hgauge henabled hpush =>
    obtain ⟨_, -, hsink⟩ := bind_eq_ok_iff.mp hpush
    cases hsink
    cases hreply
    exact ⟨rfl, rfl⟩

theorem currentEpoch_of_create (h : create foreman params maxLockSecs = .ok d) :
    d.engine.currentEpoch = Epoch.first := by
  obtain ⟨engine, hengine, heq⟩ := bind_eq_ok_iff.mp h
  cases heq
  obtain ⟨factory, hfactory, heq⟩ := bind_eq_ok_iff.mp hengine
  cases heq
  obtain ⟨-, due, -, rfl⟩ := Factory.create_eq_ok_iff.mp hfactory
  rfl

/-- After every run a gauge's share is what it is due. -/
theorem shareDue_rewardShare (hcreate : create foreman params maxLockSecs = .ok d)
    (run : List Operation) (target : Address) :
    d.ShareDue run target ((d.afterAll run).engine.rewardShare target) := by
  have hfirst := currentEpoch_of_create hcreate
  induction run using List.reverseRecOn with
  | nil =>
    refine Or.inl ⟨hfirst, ?_⟩
    unfold Engine.rewardShare Factory.previousEpoch?
    rw [if_neg]
    rw [afterAll, List.foldl_nil]
    change ¬ Epoch.first < d.engine.currentEpoch
    rw [hfirst]
    exact UInt32.lt_irrefl _
  | append_singleton done operation ih =>
    have hstep : d.afterAll (done ++ [operation]) = (d.afterAll done).after operation :=
      afterAll_append d done [operation]
    have hfinal := (Engine.final_of_changes (changes_of_afterAll [operation] (d.afterAll done))).2
    rw [← afterAll_append] at hfinal
    have hstarted := currentEpoch_le_afterAll done d
    rw [hfirst] at hstarted
    rcases after_epoch_cases (d.afterAll done) operation with hsame | ⟨hnext, hkept⟩
    · -- Within the epoch the results of the one before it stay.
      rw [← hstep] at hsame
      rw [hfinal.rewardShare hsame target]
      rcases ih with ⟨hone, hzero⟩ | ⟨before, op, after, rfl, hended, hbegun, hpower⟩
      · exact Or.inl ⟨hsame.trans hone, hzero⟩
      · refine Or.inr ⟨before, op, after ++ [operation], by simp, ?_, ?_, hpower⟩
        · rw [hsame, hended]
        · rw [hsame, hbegun]
    · rw [← hstep] at hnext hkept
      refine Or.inr ⟨done, operation, [], rfl, hnext, rfl, ?_⟩
      rw [Engine.rewardShare_of_next hstarted hnext]
      unfold Engine.totalPower
      rw [hkept]

/-- What an epoch resulted in is final once it is over, whatever operations follow.  A
gauge's share that the sink is told is what the gauge is due, and it is told the same
share until the epoch is over. -/
theorem elapsed_epochs_are_final (hcreate : create foreman params maxLockSecs = .ok d)
    (earlier later : List Operation) :
    Engine.FinalBefore (d.afterAll earlier).engine.currentEpoch (d.afterAll earlier).engine
      (d.afterAll (earlier ++ later)).engine ∧
    ∀ target share d₁, (syncGauge target).run (d.afterAll earlier) = .ok share d₁ →
      d₁.sink.history = (d.afterAll earlier).sink.history ++ [⟨target, share⟩] ∧
      d.ShareDue earlier target share ∧
      ∀ share' d₂, (syncGauge target).run (d.afterAll (earlier ++ later)) = .ok share' d₂ →
        (d.afterAll (earlier ++ later)).engine.currentEpoch =
          (d.afterAll earlier).engine.currentEpoch → share' = share := by
  have hfinal := (Engine.final_of_changes (changes_of_afterAll later (d.afterAll earlier))).2
  rw [← afterAll_append] at hfinal
  refine ⟨hfinal, ?_⟩
  intro target share d₁ hsync
  obtain ⟨rfl, hhistory⟩ := run_syncGauge hsync
  refine ⟨hhistory, shareDue_rewardShare hcreate earlier target, ?_⟩
  intro share' d₂ hlater hsame
  obtain ⟨rfl, -⟩ := run_syncGauge hlater
  exact hfinal.rewardShare hsame target

end Deployment

namespace Sample

open Deployment EpochVoting.Action in
/-- In the second epoch the sample gauge has the share of its power in the first one,
before and after the claims. -/
theorem first_epoch_is_final :
    (deployment.afterAll (run.take 8 ++ (run.drop 8).take 3)).engine.totalPower (account 1) 1 =
      100 ∧
    ∃ d₁, (syncGauge (account 1)).run (deployment.afterAll (run.take 8)) = .ok 100 d₁ ∧
      deployment.ShareDue (run.take 8) (account 1) 100 ∧
      ∃ d₂, (syncGauge (account 1)).run
        (deployment.afterAll (run.take 8 ++ (run.drop 8).take 3)) = .ok 100 d₂ := by
  obtain ⟨hfinal, hshares⟩ :=
    elapsed_epochs_are_final create_deployment (run.take 8) ((run.drop 8).take 3)
  have hstate : 1 < (deployment.afterAll (run.take 8)).engine.currentEpoch ∧
      (deployment.afterAll (run.take 8 ++ (run.drop 8).take 3)).engine.currentEpoch =
        (deployment.afterAll (run.take 8)).engine.currentEpoch ∧
      (deployment.afterAll (run.take 8)).engine.totalPower (account 1) 1 = 100 ∧
      ((syncGauge (account 1)).run (deployment.afterAll (run.take 8)) matches
        .ok 100 _) = true ∧
      ((syncGauge (account 1)).run
        (deployment.afterAll (run.take 8 ++ (run.drop 8).take 3)) matches .ok _ _) = true := by
    decide +kernel
  obtain ⟨helapsed, hsameEpoch, hpower, hfirst, hagain⟩ := hstate
  split at hfirst
  case h_2 => cases hfirst
  case h_1 d₁ hsync =>
    obtain ⟨-, hdue, hsame⟩ := hshares _ _ _ hsync
    refine ⟨(hfinal.totalPower (account 1) 1 helapsed).trans hpower, d₁, hsync, hdue, ?_⟩
    split at hagain
    case h_2 => cases hagain
    case h_1 share d₂ hlater =>
      cases hsame share d₂ hlater hsameEpoch
      exact ⟨d₂, hlater⟩

end Sample
end EpochVoting
