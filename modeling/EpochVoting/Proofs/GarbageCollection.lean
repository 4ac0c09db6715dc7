import EpochVoting.Proofs.CallPayments
import EpochVoting.Proofs.Segregation
import EpochVoting.Proofs.SweptActions
import Mathlib.Data.List.Induction

/-!
# Closing and cleaning change nothing else

Votes of elapsed epochs may be closed, and records of unvoted epochs cleaned, whenever
somebody cares to.  No other call notices: over a whole run, with or without these calls, the
others have the same answers and errors, make the same payments and tell the sink the same
shares (`sweeping_is_transparent`).  The one exception are claims of fees of a gauge whose
unvoted record was cleaned, and these pay nothing either way.
-/

namespace EpochVoting

open EpochVoting.Action

namespace Action

variable {R : Deployment → Deployment → Prop} {d d' : Deployment} {operation : Operation}

theorem Alike.answer (h : Alike R (Deployment.perform operation) (Deployment.perform operation)
    d d') : d.answer operation = d'.answer operation := by
  unfold Deployment.answer
  cases h with
  | ok h h' => rw [h, h']
  | error h h' => rw [h, h']

theorem Alike.after (h : Alike R (Deployment.perform operation) (Deployment.perform operation)
    d d') : R (d.after operation) (d'.after operation) := by
  rw [Deployment.after_eq_leaves, Deployment.after_eq_leaves]
  exact h.leaves

end Action

/-! ## Sweeping one of two deployments -/

namespace Deployment

variable {K : Address → Epoch → Prop} {d d' : Deployment} {operation : Operation}

/-- The operation cleans the gauge's record of the epoch. -/
def Cleans (target : Address) (epoch : Epoch) (d : Deployment) (operation : Operation) : Prop :=
  operation = .cleanEpochGauge target epoch ∧ ∃ reply, d.answer operation = .ok reply

/-- Closing or cleaning in the swept deployment. -/
theorem Swept.sweep (h : d.Swept K d') (hsweep : operation.isSweep = true)
    (hK : ∀ target epoch, d.Cleans target epoch operation → K target epoch) :
    (d.after operation).Swept K d' := by
  have hbasic : operation.isBasic = true := by
    cases operation with
    | close => rfl
    | cleanEpochGauge => rfl
    | _ => cases hsweep
  obtain @⟨_, @⟨registry, commitments, hr, hc⟩⟩ := id h
  unfold after
  cases hrun : (Deployment.perform operation).run d with
  | error error d₁ =>
    have hsame : d₁ = d := by
      refine atomic_perform hbasic (fun target wanted heq => ?_) hrun
      subst heq
      cases hsweep
    rw [hsame]
    exact h
  | ok reply d₁ =>
    have hanswer := answer_of_run hrun
    cases step_of_perform hbasic hrun with
    | close hcall =>
      obtain ⟨_, -, hallowed⟩ := bind_eq_ok_iff.mp hcall
      obtain ⟨_, helapsed, hepoch⟩ := bind_eq_ok_iff.mp hallowed
      obtain ⟨⟨x, closed⟩, hclose, heq⟩ := bind_eq_ok_iff.mp hepoch
      cases heq
      rw [Factory.requireElapsed_eq_ok_iff] at helapsed
      obtain ⟨hx, r, s, hrecord, hs, gaugeClosed, voterClosed, -, -, rfl⟩ :=
        Commitments.close_eq_ok_iff.mp hclose
      obtain ⟨rfl, rfl, rfl⟩ := Commitments.key_of_vote? hx
      exact .of (.of hr (hc.closeVote helapsed hx hrecord hs))
    | @cleaned target epoch g record pruned helapsed hrecord hempty hgauge hpruned =>
      obtain rfl := Registry.target_of_find? hgauge
      exact .of (.of (hr.prune hgauge pruned) (hc.eraseEpochGauge helapsed hrecord hempty
        (hK g.target epoch ⟨rfl, _, hanswer⟩)))
    | _ => cases hsweep

/-! ## Payments -/

/-- What a call pays does not depend on what sweeping changes, but for its answer. -/
theorem Swept.paymentsFor_eq (h : d.Swept K d') (operation : Operation) (reply : Reply) :
    d.paymentsFor operation reply = d'.paymentsFor operation reply := by
  obtain @⟨_, ⟨hr, hc⟩⟩ := h
  unfold paymentsFor
  split
  · refine Agree.eq ((hr.get _).bind fun g g' hg => ?_)
    rw [hg.compute_eq]
    obtain ⟨p, rfl⟩ := hg
    refine agree_check_bind _ fun capture _ => .ok ?_
    unfold FeeCapture.payments FeeCapture.payment
    rw [Gauge.fee_setPruned, Gauge.fee_setPruned]
    rfl
  · refine Agree.eq ((hr.get _).bind fun g g' hg => ?_)
    obtain ⟨p, rfl⟩ := hg
    refine agree_check_bind _ fun lock _ => .ok ?_
    rw [Gauge.fee_setPruned]
    rfl
  all_goals rfl

theorem Swept.payments_eq (h : d.Swept K d') (hanswer : d.answer operation = d'.answer operation) :
    d.payments operation = d'.payments operation := by
  unfold payments
  rw [hanswer, funext (h.paymentsFor_eq operation)]

/-! ## Runs -/

/-- The run without closing and cleaning. -/
def unswept (run : List Operation) : List Operation :=
  run.filter fun operation => !operation.isSweep

/-- The gauge's record of the epoch is cleaned in the run. -/
def Cleaned (d : Deployment) (run : List Operation) (target : Address) (epoch : Epoch) : Prop :=
  d.Occurs (Cleans target epoch) run

variable {foreman : Address} {params : FactoryParams} {maxLockSecs : UInt64}

theorem flagsSound_afterAll (hcreate : create foreman params maxLockSecs = .ok d)
    (run : List Operation) :
    (d.afterAll run).engine.commitments.FlagsSound (d.afterAll run).engine.currentEpoch :=
  (sound_afterAll hcreate run).fees.flags

/-- A run leaves what it leaves without closing and cleaning, swept. -/
theorem swept_afterAll (hcreate : create foreman params maxLockSecs = .ok d)
    (run : List Operation) :
    (d.afterAll run).Swept (d.Cleaned run) (d.afterAll (unswept run)) := by
  induction run using List.reverseRecOn with
  | nil => exact .of (.of (.refl _) (.refl _ _ _))
  | append_singleton done operation ih =>
    have hmore : (d.afterAll done).Swept (d.Cleaned (done ++ [operation]))
        (d.afterAll (unswept done)) :=
      ih.mono fun target epoch hcleaned =>
        (occurs_append_singleton done operation d).mpr (Or.inl hcleaned)
    rw [afterAll_append]
    by_cases hsweep : operation.isSweep = true
    · have hsame : unswept (done ++ [operation]) = unswept done := by
        simp [unswept, hsweep]
      rw [hsame]
      exact hmore.sweep hsweep fun target epoch hcleans =>
        (occurs_append_singleton done operation d).mpr (Or.inr hcleans)
    · have hkept : operation.isSweep = false := Bool.not_eq_true _ ▸ hsweep
      have hlast : unswept (done ++ [operation]) = unswept done ++ [operation] := by
        simp [unswept, hkept]
      rw [hlast, afterAll_append]
      rcases hmore.perform (flagsSound_afterAll hcreate _) hkept with halike | hcleaned
      · exact halike.after
      · obtain ⟨authority, voter, target, epoch, side, rfl, hcleaned⟩ := hcleaned
        have hsame : (d.afterAll done).after (.claimFee authority voter target epoch side) =
            d.afterAll done := by
          rw [after_eq_leaves, leaves, hcleaned.refused]
        have hsame' : (d.afterAll (unswept done)).after
            (.claimFee authority voter target epoch side) = d.afterAll (unswept done) := by
          rcases hcleaned.nothing with hnothing | hnothing
          · rw [after_eq_leaves, leaves, hnothing]
          · rw [after_eq_leaves, leaves, hnothing]
        show ((d.afterAll done).after _).Swept _ ((d.afterAll (unswept done)).after _)
        rw [hsame, hsame']
        exact hmore

/-- The operation makes the same payments, from the same accounts to the same accounts, on both
deployments, and leaves the same balances and the same shares told. -/
structure SameEffect (d d' : Deployment) (operation : Operation) : Prop where
  payments : d.payments operation = d'.payments operation
  tokens : (d.after operation).tokens = (d'.after operation).tokens
  sink : (d.after operation).sink = (d'.after operation).sink

/-- The operation claims fees of a gauge in an epoch whose record was cleaned in the run, and in
which the gauge has no power.  After the run the claim is refused for want of the record; had
the record not been cleaned, it would pay nothing or be refused for want of a snapshot. -/
inductive ClaimsCleaned (d : Deployment) (run : List Operation) : Operation → Prop
  | claim {authority voter target epoch side} (cleaned : d.Cleaned run target epoch)
      (unvoted : (d.afterAll (unswept run)).engine.totalPower target epoch = 0)
      (refused : (d.afterAll run).answer (.claimFee authority voter target epoch side) =
        .error (.epochGaugeNotFound target epoch))
      (nothing : (d.afterAll (unswept run)).answer (.claimFee authority voter target epoch side) =
          .ok (.amount 0) ∨
        (d.afterAll (unswept run)).answer (.claimFee authority voter target epoch side) =
          .error (.epochVoterNotFound voter epoch)) :
      ClaimsCleaned d run (.claimFee authority voter target epoch side)

/-- Without its calls to close and to clean, a run goes on as with them: after every part of it
every other call makes the same payments, tells the sink the same and leaves the same balances;
and it has the same answer or the same error, claims of fees of cleaned records excepted. -/
theorem sweeping_is_transparent (hcreate : create foreman params maxLockSecs = .ok d)
    (run : List Operation) (operation : Operation) (hkept : operation.isSweep = false) :
    SameEffect (d.afterAll run) (d.afterAll (unswept run)) operation ∧
      ((d.afterAll run).answer operation = (d.afterAll (unswept run)).answer operation ∨
        d.ClaimsCleaned run operation) := by
  have hswept := swept_afterAll hcreate run
  have hnext := swept_afterAll hcreate (run ++ [operation])
  have hlast : unswept (run ++ [operation]) = unswept run ++ [operation] := by
    simp [unswept, hkept]
  rw [hlast, afterAll_append, afterAll_append] at hnext
  have htokens := hnext.tokens_eq
  have hsink := hnext.sink_eq
  rcases hswept.perform (flagsSound_afterAll hcreate _) hkept with halike | hcleaned
  · exact ⟨⟨hswept.payments_eq halike.answer, htokens, hsink⟩, Or.inl halike.answer⟩
  · obtain ⟨authority, voter, target, epoch, side, rfl, hcleaned⟩ := hcleaned
    have hrefused := answer_of_refused hcleaned.refused
    have hnothing := hcleaned.nothing.imp answer_of_run answer_of_refused
    refine ⟨⟨?_, htokens, hsink⟩,
      Or.inr (.claim hcleaned.cleaned hcleaned.unvoted hrefused hnothing)⟩
    rw [payments_of_refused hrefused]
    exact (hnothing.elim payments_of_nothing payments_of_refused).symm

end Deployment

namespace Sample

open Deployment

/-- One gauge is voted for and one is not.  Once the epoch is over, the vote is closed and the
other gauge's record is cleaned. -/
def tidyRun : List Operation :=
  run.take 7 ++ [.addGauge (account 7) ⟨account 2, account 3⟩,
    .ensureEpochGauge (account 7) none, .nextEpoch, .close none (account 4) (account 1) 1,
    .cleanEpochGauge (account 7) 1]

/-- After the tidy run the voter is still paid the fees of the gauge that was voted for, and only
the answer to a claim on the other gauge differs. -/
theorem tidyRun_is_transparent :
    (unswept tidyRun).length + 2 = tidyRun.length ∧
    ((deployment.afterAll (unswept tidyRun)).payments
      (.claimFee none (account 4) (account 1) 1 .a)).map Payment.amount = [30] ∧
    SameEffect (deployment.afterAll tidyRun) (deployment.afterAll (unswept tidyRun))
      (.claimFee none (account 4) (account 1) 1 .a) ∧
    deployment.ClaimsCleaned tidyRun (.claimFee none (account 4) (account 7) 1 .a) := by
  have hvoted := sweeping_is_transparent create_deployment tidyRun
    (.claimFee none (account 4) (account 1) 1 .a) rfl
  have hother := sweeping_is_transparent create_deployment tidyRun
    (.claimFee none (account 4) (account 7) 1 .a) rfl
  have hstate : (unswept tidyRun).length + 2 = tidyRun.length ∧
      ((deployment.afterAll (unswept tidyRun)).payments
        (.claimFee none (account 4) (account 1) 1 .a)).map Payment.amount = [30] ∧
      ((deployment.afterAll tidyRun).answer (.claimFee none (account 4) (account 7) 1 .a)
        matches .ok _) = false ∧
      ((deployment.afterAll (unswept tidyRun)).answer
        (.claimFee none (account 4) (account 7) 1 .a) matches .ok _) = true := by
    decide +kernel
  obtain ⟨hlength, hpaid, hrefused, hanswered⟩ := hstate
  refine ⟨hlength, hpaid, hvoted.1, hother.2.resolve_left fun hsame => ?_⟩
  rw [hsame, hanswered] at hrefused
  cases hrefused

end Sample
end EpochVoting
