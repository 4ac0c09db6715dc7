import EpochVoting.Proofs.CountedCalls
import EpochVoting.Proofs.GarbageCollection

/-!
# Taking a vote back later

A commitment can be taken back as long as its epoch lasts.  Whatever happens in between, the
deployment is then as if the commitment had not been made, and nobody has noticed it
(`undone_later`): operations that do not disturb the vote (`Deployment.Disturbs`) have the
same answers with it and without it, and leave deployments that differ in it alone.
-/

namespace EpochVoting

open EpochVoting.Action

namespace Deployment

variable {d d' : Deployment} {operation : Operation} {x : EpochVote}
  {voter gauge other target : Address}

/-! ## What disturbs a vote -/

/-- The commitment is the vote itself once more, or it overflows. -/
def CommitDisturbs (voter gauge : Address) (d : Deployment) (other target : Address) : Prop :=
  other = voter ∧ target = gauge ∨ d.answer (.commit other target) = .error .overflow

/-- Committing to the gauges, one after the other, gets to a commitment that disturbs. -/
def VotingDisturbs (voter gauge other : Address) : List Address → Deployment → Prop
  | [], _ => False
  | target :: rest, d => ∃ made d₁, (ensureCurrentEpochGauge target).run d = .ok made d₁ ∧
      (d₁.CommitDisturbs voter gauge other target ∨ ∃ outcome d₂,
        (commit other target).run d₁ = .ok outcome d₂ ∧
          VotingDisturbs voter gauge other rest d₂)

/-- The operation ends the epoch, takes the voter's snapshot anew, makes the vote once more or
takes it back, or is a commitment that overflows. -/
def Disturbs (voter gauge : Address) (d : Deployment) (operation : Operation) : Prop :=
  match operation with
  | .advanceEpoch _ | .nextEpoch => ∃ reply, d.answer operation = .ok reply
  | .resetSnapshot other => other = voter
  | .commit other target => d.CommitDisturbs voter gauge other target
  | .revert _ other target _ =>
    other = voter ∧ target = gauge ∧ ∃ reply, d.answer operation = .ok reply
  | .voteEpoch other targets => ∃ taken d₁, (takeSnapshot other).run d = .ok taken d₁ ∧
      VotingDisturbs voter gauge other targets d₁
  | _ => False

theorem answer_nextEpoch {d₁ : Deployment} {time : Timestamp} {epoch : Epoch} {e : Engine}
    (hpassed : (passTimeUntil d.engine.factory.nextEpochStartsAt).run d = .ok time d₁)
    (hadvanced : d₁.engine.advanceEpoch d₁.now = .ok (epoch, e)) :
    d.answer .nextEpoch = .ok (.epoch epoch) := by
  have hrun : nextEpoch.run d = .ok epoch { d₁ with engine := e } := by
    unfold nextEpoch
    rw [run_get_bind]
    exact run_bind_eq_ok_iff.mpr ⟨time, d₁, hpassed,
      run_onEngine_eq_ok_iff.mpr ⟨e, hadvanced, rfl⟩⟩
  exact answer_of_run (run_map_of_ok hrun)

/-- A call that is an operation leaves a sound engine. -/
theorem sound_of_run {α : Type} {call : Action α} {a : α} (hrun : call.run d = .ok a d')
    (hcall : d.after operation = call.leaves d) (hsound : d.engine.Sound) : d'.engine.Sound := by
  rw [← leaves_of_ok hrun, ← hcall]
  exact sound_after hsound operation

/-! ## Operations beside a counted vote -/

/-- The same surroundings, and engines of which the second one has the vote counted. -/
abbrev BesideCounted (x : EpochVote) : Deployment → Deployment → Prop :=
  Beside (Engine.Counts x)

namespace BesideCounted

theorem ensureEpochGauge (h : d.BesideCounted x d') (hsound : d'.engine.PowerSound)
    (target : Address) (epoch : Epoch) :
    Alike (BesideCounted x) (ensureEpochGauge target epoch) (ensureEpochGauge target epoch)
      d d' := by
  have hboth := h
  obtain ⟨he⟩ := h
  have hcreated := he.createEpochGauge hsound target
  obtain @⟨commitments, hc, hepoch⟩ := he
  refine alike_get_bind (alike_check_bind _ hboth fun _ hlive => alike_check_bind
    (d.engine.registry.get target) hboth fun g _ => alike_check_bind g.requireEnabled hboth
    fun _ _ => ?_)
  obtain rfl : epoch = d.engine.currentEpoch := Factory.requireLive_eq_ok_iff.mp hlive
  show Alike _ _
    (if (commitments.epochGauge? target d.engine.currentEpoch).isSome then _ else _) _ _
  rw [hc.eq, Commitments.epochGauge?_counting, Option.isSome_map, ← hc.eq]
  split
  · exact alike_pure false hboth
  · simp only [moveCaptured_bind]
    refine alike_check_bind (FeeCapture.compute g (d.pool.totals target)) hboth
      fun capture _ => hboth.requireBalance_bind (hboth.requireBalance_bind
      (hboth.captureSide_bind fun _ h₁ => h₁.captureSide_bind fun _ h₂ =>
      (h₂.changeEngine ?_).bind fun _ _ _ _ _ hR => alike_pure true hR))
    refine agree_check_bind (d.engine.registry.update target capture.apply) fun registry _ => ?_
    exact .ok (.of (e := { d.engine with registry, commitments := _ }) (hcreated capture.accrued)
      hepoch)

theorem cleanEpochGauge (h : d.BesideCounted x d') (target : Address) (epoch : Epoch) :
    Alike (BesideCounted x) (cleanEpochGauge target epoch) (cleanEpochGauge target epoch)
      d d' := by
  have hboth := h
  obtain ⟨he⟩ := h
  have hsame {epoch : Epoch} (helapsed : epoch < d.engine.currentEpoch) := he.sameAt helapsed
  obtain @⟨commitments, hc, hepoch⟩ := he
  refine alike_get_bind (alike_check_bind _ hboth fun _ helapsed => ?_)
  rw [Factory.requireElapsed_eq_ok_iff] at helapsed
  show Alike _ _ (liftM (commitments.epochGauge target epoch) >>= _) _ _
  rw [(hsame helapsed).epochGauge_eq]
  refine alike_check_bind _ hboth fun record _ => alike_check_bind _ hboth fun _ _ =>
    alike_check_bind (d.engine.registry.get target) hboth fun g _ =>
    alike_check_bind _ hboth fun pruned _ => (hboth.changeEngine ?_).bind
    fun _ d₁ d₁' _ _ h₁ => h₁.changeEngine ?_
  · have hne : epoch ≠ x.epoch := by
      rintro rfl
      exact UInt32.lt_irrefl _ (hepoch ▸ helapsed)
    obtain ⟨rfl, hfree⟩ := hc
    exact (Commitments.removeEmptyEpochGauge_counting hne hfree).bind fun _ _ hp =>
      .ok (.of hp.2 hepoch)
  · obtain ⟨hc, hepoch⟩ := h₁
    exact agree_check_bind (d₁.engine.registry.update target _) fun _ _ => .ok (.of hc hepoch)

theorem claimFee (h : d.BesideCounted x d') (authority voter target : Address) (epoch : Epoch)
    (side : FeeSide) :
    Alike (BesideCounted x) (claimFee authority voter target epoch side)
      (claimFee authority voter target epoch side) d d' := by
  have hboth := h
  obtain ⟨he⟩ := h
  have hsame {epoch : Epoch} (helapsed : epoch < d.engine.currentEpoch) := he.sameAt helapsed
  obtain @⟨commitments, hc, hepoch⟩ := he
  refine alike_get_bind (alike_check_bind _ hboth fun lock _ => alike_check_bind _ hboth
    fun _ helapsed => alike_check_bind (d.engine.registry.get target) hboth fun g _ => ?_)
  rw [Factory.requireElapsed_eq_ok_iff] at helapsed
  have hne : epoch ≠ x.epoch := by
    rintro rfl
    exact UInt32.lt_irrefl _ (hepoch ▸ helapsed)
  simp only [(hsame helapsed).epochGauge_eq, (hsame helapsed).snapshot_eq,
    (hsame helapsed).allocation?_eq]
  refine alike_check_bind _ hboth fun record _ => alike_check_bind _ hboth fun snapshot _ =>
    alike_check_bind _ hboth fun claim? _ => ?_
  cases claim? with
  | none => exact alike_pure 0 hboth
  | some claim =>
    refine hboth.payDue_bind (p := ⟨(g.fee side).mint, g.feeVault side, lock.owner, claim.share⟩)
      fun tokens hpaid => (hpaid.changeEngine ?_).bind fun _ _ _ _ _ hR => alike_pure _ hR
    obtain ⟨rfl, hfree⟩ := hc
    have hmarked : Agree (Commitments.Counts x)
        (d.engine.commitments.updateSnapshot voter epoch (claim.applyToSnapshot target))
        ((d.engine.commitments.counting x).updateSnapshot voter epoch
          (claim.applyToSnapshot target)) :=
      Commitments.updateSnapshot_counting hne hfree fun _ => rfl
    exact agree_check_bind (d.engine.registry.update target claim.applyToGauge) fun registry _ =>
      hmarked.bind fun _ _ hc =>
      .ok (.of (e := { d.engine with registry, commitments := _ }) hc hepoch)

/-! ### Shares and fees -/

theorem syncGauge (h : d.BesideCounted x d') (target : Address) :
    Alike (BesideCounted x) (syncGauge target) (syncGauge target) d d' := by
  have hboth := h
  obtain ⟨he⟩ := h
  have hshare := he.rewardShare_eq target
  obtain ⟨-, -⟩ := he
  refine alike_get_bind (alike_check_bind (d.engine.registry.get target) hboth fun g _ =>
    alike_check_bind g.requireEnabled hboth fun _ _ => ?_)
  rw [hshare]
  exact (hboth.pushShare ..).bind fun _ _ _ _ _ hR => alike_pure _ hR

theorem syncDisabledGauge (h : d.BesideCounted x d') (target : Address) :
    Alike (BesideCounted x) (syncDisabledGauge target) (syncDisabledGauge target) d d' := by
  have hboth := h
  obtain ⟨⟨-, -⟩⟩ := h
  exact alike_get_bind (alike_check_bind (d.engine.registry.get target) hboth fun g _ =>
    alike_check_bind (require (!g.enabled) _) hboth fun _ _ => hboth.pushShare target 0)

theorem accrueFees (h : d.BesideCounted x d') (gauge : Address) (side : FeeSide)
    (amount : UInt64) :
    Alike (BesideCounted x) (accrueFees gauge side amount) (accrueFees gauge side amount)
      d d' := by
  have hboth := h
  obtain ⟨⟨-, -⟩⟩ := h
  exact alike_get_bind (alike_check_bind (d.engine.registry.get gauge) hboth fun g _ =>
    hboth.accruePool ..)

/-! ### Several calls at once -/

theorem takeSnapshot (h : d.BesideCounted x d') (hsound : d'.engine.PowerSound)
    (voter : Address) :
    Alike (BesideCounted x) (takeSnapshot voter) (takeSnapshot voter) d d' := by
  refine h.onEngine ?_
  obtain ⟨he⟩ := h
  exact he.takeSnapshot hsound d.escrow d.now voter

theorem commit (h : d.BesideCounted x d') (hsound : d.engine.PowerSound)
    (hsound' : d'.engine.PowerSound) (hnot : ¬ d'.CommitDisturbs x.voter x.gauge voter gauge) :
    Alike (BesideCounted x) (commit voter gauge) (commit voter gauge) d d' := by
  obtain ⟨hother, hfits⟩ := not_or.mp hnot
  rw [answer_commit_eq_error_iff] at hfits
  refine h.onEngine ?_
  obtain ⟨he⟩ := h
  exact he.commit hsound hsound' hother hfits

theorem createGauge (h : d.BesideCounted x d') (target : Address) (mints : PerSide Address) :
    Alike (BesideCounted x) (createGauge target mints) (createGauge target mints) d d' := by
  refine h.changeEngine ?_
  obtain ⟨he⟩ := h
  exact he.createGauge target mints _

theorem setGaugeEnabled (h : d.BesideCounted x d') (authority : Option Address)
    (target : Address) (enabled : Bool) :
    Alike (BesideCounted x) (setGaugeEnabled authority target enabled)
      (setGaugeEnabled authority target enabled) d d' := by
  refine h.onEngine ?_
  obtain ⟨he⟩ := h
  exact he.setGaugeEnabled _ target enabled

theorem commitAll (h : d.BesideCounted x d') (hsound : d.engine.Sound)
    (hsound' : d'.engine.Sound) (voter : Address) (allocated : UInt64) (gauges : List Address)
    (hnot : ¬ VotingDisturbs x.voter x.gauge voter gauges d') :
    Alike (BesideCounted x) (commitAll voter allocated gauges) (commitAll voter allocated gauges)
      d d' := by
  induction gauges generalizing allocated d d' with
  | nil => exact alike_pure allocated h
  | cons gauge rest ih =>
    have hfirst : Alike (BesideCounted x) (ensureCurrentEpochGauge gauge)
        (ensureCurrentEpochGauge gauge) d d' := by
      have hrecord := h.ensureEpochGauge hsound'.power gauge d.engine.currentEpoch
      obtain ⟨⟨-, -⟩⟩ := h
      exact alike_get_bind hrecord
    refine hfirst.bind fun made d₁ d₁' hmade hmade' h₁ => ?_
    have hsound₁ := sound_of_run hmade (after_ensureEpochGauge d gauge) hsound
    have hsound₁' := sound_of_run hmade' (after_ensureEpochGauge d' gauge) hsound'
    refine (h₁.commit hsound₁.power hsound₁'.power fun hdisturbs =>
      hnot ⟨made, d₁', hmade', Or.inl hdisturbs⟩).bind fun outcome d₂ d₂' hcommit hcommit' h₂ => ?_
    have hsound₂ := sound_of_run hcommit (after_commit d₁ voter gauge) hsound₁
    have hsound₂' := sound_of_run hcommit' (after_commit d₁' voter gauge) hsound₁'
    have hrest : ¬ VotingDisturbs x.voter x.gauge voter rest d₂' := fun hdisturbs =>
      hnot ⟨made, d₁', hmade', Or.inr ⟨outcome, d₂', hcommit', hdisturbs⟩⟩
    cases outcome with
    | nothingToCommit => exact ih h₂ hsound₂ hsound₂' allocated hrest
    | committed power =>
      exact alike_check_bind _ h₂ fun total _ => ih h₂ hsound₂ hsound₂' total hrest

/-! ### All operations -/

/-- An operation that does not disturb the vote goes alike with it and without it. -/
theorem perform (h : d.BesideCounted x d') (hsound : d.engine.Sound) (hsound' : d'.engine.Sound)
    (hnot : ¬ d'.Disturbs x.voter x.gauge operation) :
    Alike (BesideCounted x) (perform operation) (perform operation) d d' := by
  have hboth := h
  have hrecord (target : Address) (epoch : Epoch) := h.ensureEpochGauge hsound'.power target epoch
  obtain ⟨he⟩ := h
  cases operation with
  | advanceEpoch now =>
    exact (hboth.onEngine (he.advanceEpoch fun p hok =>
      hnot ⟨.epoch p.1, answer_of_call rfl hok⟩)).map _
  | nextEpoch =>
    obtain ⟨hc, hepoch⟩ := he
    have hwait := Beside.passTimeUntil hboth d.engine.factory.nextEpochStartsAt
    refine Alike.map (alike_get_bind (hwait.bind fun _ d₁ d₁' _ hpassed h₁ => ?_)) _
    refine h₁.onEngine ?_
    obtain ⟨he₁⟩ := h₁
    exact he₁.advanceEpoch fun p hok => hnot ⟨.epoch p.1, answer_nextEpoch hpassed hok⟩
  | setForeman authority newForeman =>
    exact (hboth.changeEngine (he.setForeman ..)).bind fun _ _ _ _ _ => alike_pure _
  | setEpochDuration authority secs =>
    exact (hboth.changeEngine (he.setEpochDuration ..)).bind fun _ _ _ _ _ => alike_pure _
  | createGauge target mints =>
    exact (hboth.createGauge target mints).bind fun _ _ _ _ _ => alike_pure _
  | setGaugeEnabled authority target enabled =>
    exact (hboth.setGaugeEnabled authority target enabled).map _
  | addGauge target mints =>
    refine Alike.bind ?_ fun _ _ _ _ _ => alike_pure _
    exact (hboth.createGauge target mints).bind fun _ _ _ _ _ h₁ =>
      (h₁.setGaugeEnabled none target true).bind fun _ _ _ _ _ => alike_pure _
  | setVote authority voter target weight => exact (hboth.onEngine (he.setVote ..)).map _
  | takeSnapshot voter => exact (hboth.takeSnapshot hsound'.power voter).map _
  | resetSnapshot voter =>
    exact (hboth.changeEngine (he.resetSnapshot _ _ hnot)).bind fun _ _ _ _ _ => alike_pure _
  | ensureEpochGauge target epoch =>
    obtain ⟨-, -⟩ := he
    exact alike_get_bind ((hrecord target _).map _)
  | commit voter target => exact (hboth.commit hsound.power hsound'.power hnot).map _
  | revert authority voter target epoch =>
    obtain @⟨_, hc, hepoch⟩ := he
    refine (hboth.onEngine (Engine.Counts.revert (.of hc hepoch) hsound.power hsound'.power _ _ _
      ?_)).map _
    exact (em (voter = x.voter ∧ target = x.gauge)).symm.imp_right fun hself p hok =>
      hnot ⟨hself.1, hself.2, .amount p.1, answer_of_call rfl hok⟩
  | voteEpoch voter targets =>
    refine ((hboth.takeSnapshot hsound'.power voter).bind
      fun taken d₁ d₁' htaken htaken' h₁ => ?_).map _
    have hsound₁ := sound_of_run htaken (after_takeSnapshot d voter) hsound
    have hsound₁' := sound_of_run htaken' (after_takeSnapshot _ voter) hsound'
    exact h₁.commitAll hsound₁ hsound₁' voter 0 targets fun hdisturbs =>
      hnot ⟨taken, d₁', htaken', hdisturbs⟩
  | close authority voter target epoch =>
    exact (hboth.onEngine (he.close ..)).map _
  | cleanEpochGauge target epoch =>
    exact (hboth.cleanEpochGauge target epoch).bind fun _ _ _ _ _ => alike_pure _
  | syncGauge target => exact (hboth.syncGauge target).map _
  | syncDisabledGauge target =>
    exact (hboth.syncDisabledGauge target).bind fun _ _ _ _ _ => alike_pure _
  | claimFee authority voter target epoch side =>
    exact (alike_get_bind (hboth.claimFee _ voter target epoch side)).map _
  | createBribe briber target mint reward epochEnd =>
    have hblind := Engine.Counts.bribeBlind x
    exact (Beside.createBribe hblind hboth briber target mint reward epochEnd).map _
  | claimBribe authority voter id epoch =>
    have hblind := Engine.Counts.bribeBlind x
    exact (alike_get_bind (Beside.claimBribe hblind hboth _ voter id epoch)).map _
  | clawBackBribe briber id epoch =>
    exact (Beside.clawBackBribe (Engine.Counts.bribeBlind x) hboth briber id epoch).map _
  | passTime | passTimeUntil | setTime | lock | unlock | setDelegate | setOwner | setRejecting
  | setPoolTotal => exact .ok rfl rfl (.of he)
  | accrueFees target side amount =>
    exact (hboth.accrueFees target side amount).bind fun _ _ _ _ _ => alike_pure _
  | accruePool target side mint amount =>
    exact (hboth.accruePool target side mint amount).bind fun _ _ _ _ _ => alike_pure _
  | fund mint account amount =>
    exact (hboth.fund mint account amount).bind fun _ _ _ _ _ => alike_pure _
  | transfer mint source target amount =>
    exact (hboth.transfer mint source target amount).bind fun _ _ _ _ _ => alike_pure _

/-! ## Runs -/

/-- Along a run that does not disturb the vote all answers are the same with it and without
it. -/
theorem run {run : List Operation} (h : d.BesideCounted x d') (hsound : d.engine.Sound)
    (hsound' : d'.engine.Sound) (hnot : ¬ d'.Occurs (Disturbs x.voter x.gauge) run) :
    d'.answers run = d.answers run ∧ (d.afterAll run).BesideCounted x (d'.afterAll run) := by
  induction run generalizing d d' with
  | nil => exact ⟨rfl, h⟩
  | cons operation rest ih =>
    obtain ⟨hfirst, hrest⟩ := not_or.mp hnot
    have halike := h.perform hsound hsound' hfirst
    obtain ⟨hanswers, hafter⟩ := ih halike.after (sound_after hsound operation)
      (sound_after hsound' operation) hrest
    exact ⟨congrArg₂ List.cons halike.answer.symm hanswers, hafter⟩

/-- Taking the vote back is answered with its power and leaves the deployment without it. -/
theorem takenBack (h : d.BesideCounted x d') (hsound' : d'.engine.Sound)
    {authority : Option Address} {wanted : Option Epoch}
    (hacts : d'.actsFor authority x.voter = true)
    (hlive : wanted.getD d'.engine.currentEpoch = d'.engine.currentEpoch) :
    d'.answer (.revert authority x.voter x.gauge wanted) = .ok (.amount x.allocatedPower) ∧
      d'.after (.revert authority x.voter x.gauge wanted) = d := by
  obtain ⟨⟨⟨rfl, hfree⟩, hepoch⟩⟩ := h
  have hreverted := Commitments.revert_counting_self hsound'.power.consistent hfree
  rw [hepoch] at hreverted
  have hcall := revert_of_actsFor hacts hlive hreverted
  refine ⟨answer_of_call rfl hcall, ?_⟩
  rw [after_eq_leaves]
  exact leaves_of_ok (run_map_of_ok (run_onEngine_eq_ok_iff.mpr ⟨_, hcall, rfl⟩))

end BesideCounted

/-- A commitment leaves the deployment with the vote counted. -/
theorem besideCounted_of_commit {amount : UInt64}
    (h : d.answer (.commit voter gauge) = .ok (.outcome (.committed amount))) :
    d.BesideCounted ⟨voter, gauge, d.engine.currentEpoch, amount⟩
      (d.after (.commit voter gauge)) := by
  have hstep := step_of_perform rfl (run_of_answer h)
  generalize d.after (.commit voter gauge) = d' at hstep
  cases hstep with
  | commit hcall =>
    obtain ⟨g, hgauge, hfound⟩ := bind_eq_ok_iff.mp hcall
    obtain ⟨⟨_, commitments⟩, hcommit, heq⟩ := bind_eq_ok_iff.mp hfound
    cases heq
    obtain ⟨hnone, -, s, r, hs, -, hr, -, -, gaugeTotal, voterTotal, hgaugeTotal, hvoterTotal,
      rfl⟩ := Commitments.commit_eq_ok_committed_iff.mp hcommit
    obtain rfl := Registry.target_of_find? (Registry.get_eq_ok_iff.mp hgauge)
    refine .of (.of ⟨?_, hnone⟩ rfl)
    rw [Amount.eq_add hgaugeTotal, Amount.eq_add hvoterTotal]
    exact Commitments.addVote_eq_counting
      (x := ⟨voter, g.target, d.engine.currentEpoch, amount⟩) hr hs

/-- A vote that is made, and taken back after some more operations. -/
structure UndoneLater (start : Deployment) (voter gauge : Address) (amount : UInt64)
    (between : List Operation) : Prop where
  /-- The operations in between do not notice the vote. -/
  unnoticed : (start.after (.commit voter gauge)).answers between = start.answers between
  /-- Taking it back is answered with the amount committed, and leaves the deployment as if
  only the operations in between had been made. -/
  undone : ∀ authority wanted,
    ((start.after (.commit voter gauge)).afterAll between).actsFor authority voter = true →
    wanted.getD ((start.after (.commit voter gauge)).afterAll between).engine.currentEpoch =
      ((start.after (.commit voter gauge)).afterAll between).engine.currentEpoch →
    ((start.after (.commit voter gauge)).afterAll between).answer
        (.revert authority voter gauge wanted) = .ok (.amount amount) ∧
      ((start.after (.commit voter gauge)).afterAll between).after
        (.revert authority voter gauge wanted) = start.afterAll between

/-- Wherever a run has led, a commitment can be taken back later: if nothing disturbs the vote
in between, it is as if it had never been made. -/
theorem undone_later {foreman : Address} {params : FactoryParams} {maxLockSecs : UInt64}
    (hcreate : create foreman params maxLockSecs = .ok d) (before between : List Operation)
    {amount : UInt64}
    (hcommitted : (d.afterAll before).answer (.commit voter gauge) =
      .ok (.outcome (.committed amount)))
    (hundisturbed : ¬ ((d.afterAll before).after (.commit voter gauge)).Occurs
      (Disturbs voter gauge) between) :
    UndoneLater (d.afterAll before) voter gauge amount between := by
  have hsound := sound_afterAll hcreate before
  have hsound' := sound_after hsound (.commit voter gauge)
  have hcounted := besideCounted_of_commit hcommitted
  obtain ⟨hanswers, hlater⟩ := hcounted.run hsound hsound' hundisturbed
  refine ⟨hanswers, fun authority wanted hacts hlive => hlater.takenBack ?_ hacts hlive⟩
  exact Engine.sound_of_changes (changes_of_afterAll between _) hsound'

end Deployment

namespace Sample

open Deployment

/-- The sample run up to the vote of the first epoch, ready for it. -/
def ready : List Operation :=
  run.take 6 ++ [.takeSnapshot (account 4), .ensureEpochGauge (account 1) none]

/-- What happens before the vote is taken back: another voter votes for the gauge, the voter's
weight on it is lowered, and the gauge is disabled. -/
def meanwhile : List Operation :=
  [.lock (account 7) 50 none, .setVote none (account 7) (account 1) 2, .takeSnapshot (account 7),
    .commit (account 7) (account 1), .setVote none (account 4) (account 1) 3,
    .setGaugeEnabled none (account 1) false]

theorem undone_later_meanwhile :
    (((deployment.afterAll ready).after (.commit (account 4) (account 1))).afterAll
        meanwhile).answer (.revert none (account 4) (account 1) none) = .ok (.amount 100) ∧
      (((deployment.afterAll ready).after (.commit (account 4) (account 1))).afterAll
        meanwhile).after (.revert none (account 4) (account 1) none) =
          (deployment.afterAll ready).afterAll meanwhile := by
  have hstate : (deployment.afterAll ready).answer (.commit (account 4) (account 1)) =
        .ok (.outcome (.committed 100)) ∧
      (((deployment.afterAll ready).after (.commit (account 4) (account 1))).afterAll
        (meanwhile.take 3)).answer (.commit (account 7) (account 1)) =
          .ok (.outcome (.committed 50)) ∧
      (((deployment.afterAll ready).after (.commit (account 4) (account 1))).afterAll
        meanwhile).actsFor none (account 4) = true := by
    decide +kernel
  obtain ⟨hcommitted, hother, hacts⟩ := hstate
  refine (undone_later create_deployment ready meanwhile hcommitted ?_).undone none none hacts
    Option.getD_none
  -- Of the operations in between only the other commitment could disturb.
  show ¬ Occurs _ _ (meanwhile.take 3 ++ meanwhile.drop 3)
  rw [occurs_append]
  rintro ((hno | hno | hno | hno) | (hsame | hoverflow) | hno | hno | hno)
  case inr.inl.inl => exact absurd hsame.1 (by decide)
  case inr.inl.inr => cases hother.symm.trans hoverflow
  all_goals exact hno

end Sample
end EpochVoting
