import EpochVoting.Proofs.VoterCalls
import Mathlib.Algebra.Order.BigOperators.Group.Finset

/-!
# Voters do not race

Each voter sets weights, takes and resets the snapshot, commits and reverts, in an order of
the voter's own, while time, escrow and gauges stand still.  However these programs are
interleaved, every call has the same result and the deployment ends up the same
(`interleavings_agree`).

The voters share only the power of the gauges, where a commitment could overflow.  It does
not if everybody's stake, the larger of the snapshot's power and the escrow's, fits into one
amount: no gauge ever gets more than the stakes of those who have committed to it
(`Within.roomy`).
-/

namespace EpochVoting

open EpochVoting.Action

namespace Deployment

open Engine

variable {d d' : Deployment} {operation : Operation} {reply : Reply} {voter : Address}
  {bound : Address → Nat}

/-! ## Stakes -/

/-- What a voter can have to commit in the current epoch: the larger of the power of the
voter's snapshot and the power that the escrow has now. -/
def stake (d : Deployment) (voter : Address) : Nat :=
  max ((d.engine.commitments.snapshot? voter d.engine.currentEpoch).elim 0 fun s =>
      s.votingPower.toNat)
    ((d.escrow.votingPower? voter d.now).elim 0 UInt64.toNat)

/-- The voters with a lock or a snapshot. -/
def voters (d : Deployment) : Finset Address :=
  (d.escrow.locks.records.map Lock.voter ++
    d.engine.commitments.snapshots.records.map Snapshot.voter).toFinset

/-- The sum of the stakes of all voters. -/
def totalStake (d : Deployment) : Nat :=
  ∑ voter ∈ d.voters, d.stake voter

theorem mem_voters_of_stake (h : d.stake voter ≠ 0) : voter ∈ d.voters := by
  unfold voters
  rw [List.mem_toFinset, List.mem_append, List.mem_map, List.mem_map]
  cases hs : d.engine.commitments.snapshot? voter d.engine.currentEpoch with
  | some s =>
    exact Or.inr ⟨s, Table.mem_of_find? hs, (Commitments.key_of_snapshot? hs).1⟩
  | none =>
    cases hl : d.escrow.lock? voter with
    | some l => exact Or.inl ⟨l, Table.mem_of_find? hl, Table.key_of_find? hl⟩
    | none => simp [stake, hs, Escrow.votingPower?, hl] at h

/-- Whichever voters there are, their stakes are no more than those of all. -/
theorem sum_stake_le (d : Deployment) (group : Finset Address) :
    ∑ voter ∈ group, d.stake voter ≤ d.totalStake :=
  Finset.sum_le_sum_of_ne_zero fun _ _ hstake => mem_voters_of_stake hstake

/-! ## Room -/

/-- Sound records, and nobody has more power than the bound, in a snapshot of the current
epoch or in the escrow. -/
structure Within (bound : Address → Nat) (d : Deployment) : Prop where
  sound : d.engine.PowerSound
  snapshot_le : ∀ voter s,
    d.engine.commitments.snapshot? voter d.engine.currentEpoch = some s →
      s.votingPower.toNat ≤ bound voter
  escrow_le : ∀ voter power, d.escrow.votingPower voter d.now = .ok power →
    power.toNat ≤ bound voter

theorem within_stake (h : d.engine.PowerSound) : d.Within d.stake where
  sound := h
  snapshot_le voter s hs := by simp [stake, hs]
  escrow_le voter power hpower := by
    rw [Escrow.votingPower, demand_eq_ok_iff] at hpower
    simp [stake, hpower]

/-- A vote takes no more than the bound of its voter. -/
theorem Within.vote_le (h : d.Within bound) {x : EpochVote}
    (hx : x ∈ d.engine.commitments.votes.records) (hepoch : x.epoch = d.engine.currentEpoch) :
    x.allocatedPower.toNat ≤ bound x.voter := by
  have hconsistent := h.sound.consistent
  obtain ⟨s, hs⟩ := hconsistent.snapshot?_of_vote hx
  have hle := Commitments.le_liveOf hx
  have hallocated := hconsistent.allocated_eq x.voter x.epoch
  rw [Commitments.allocated_of_snapshot? hs] at hallocated
  have hpower := (hconsistent.snapshot_sound hs).allocated_le
  have hbound := h.snapshot_le x.voter s (hepoch ▸ hs)
  omega

/-- A gauge has no more power in the current epoch than the bounds of those who have
committed to it. -/
theorem Within.power_le (h : d.Within bound) {gauge : Address}
    (hfree : d.engine.commitments.vote? voter gauge d.engine.currentEpoch = none) :
    ∃ others : Finset Address, voter ∉ others ∧
      d.engine.commitments.power gauge d.engine.currentEpoch ≤ ∑ other ∈ others, bound other := by
  have hconsistent := h.sound.consistent
  obtain ⟨-, hclosed⟩ :=
    hconsistent.closed_of_not_elapsed (UInt32.lt_irrefl d.engine.currentEpoch)
  have hpower := hconsistent.power_eq gauge d.engine.currentEpoch
  rw [hclosed gauge, Nat.add_zero] at hpower
  let votes := d.engine.commitments.votes.records.filter fun x =>
    x.gauge = gauge ∧ x.epoch = d.engine.currentEpoch
  have hvotes {x : EpochVote} (hx : x ∈ votes) : x ∈ d.engine.commitments.votes.records ∧
      x.gauge = gauge ∧ x.epoch = d.engine.currentEpoch := by
    simpa [votes] using hx
  have hnodup : (votes.map EpochVote.voter).Nodup := by
    refine List.Nodup.map_on (fun x hx y hy hvoter => ?_) ((Table.nodup_records _).filter _)
    obtain ⟨hxmem, rfl, hxepoch⟩ := hvotes hx
    obtain ⟨hymem, hgauge, hyepoch⟩ := hvotes hy
    exact Table.eq_of_key_eq hxmem hymem
      (Prod.ext hvoter (Prod.ext hgauge.symm (hxepoch.trans hyepoch.symm)))
  refine ⟨(votes.map EpochVote.voter).toFinset, ?_, ?_⟩
  · rw [List.mem_toFinset, List.mem_map]
    rintro ⟨x, hx, rfl⟩
    obtain ⟨hmem, rfl, hepoch⟩ := hvotes hx
    have hfound : d.engine.commitments.vote? x.voter x.gauge d.engine.currentEpoch = some x := by
      rw [← hepoch]
      exact Table.find?_key_of_mem hmem
    rw [hfree] at hfound
    cases hfound
  · calc d.engine.commitments.power gauge d.engine.currentEpoch
        = (votes.map fun x => x.allocatedPower.toNat).sum := by
          rw [hpower, Commitments.liveOn]
          simp only [votes, Table.sum_filter, decide_eq_true_eq]
      _ ≤ (votes.map fun x => bound x.voter).sum :=
          List.sum_le_sum fun x hx => h.vote_le (hvotes hx).1 (hvotes hx).2.2
      _ = ∑ other ∈ (votes.map EpochVote.voter).toFinset, bound other := by
          rw [List.sum_toFinset _ hnodup, List.map_map]
          rfl

/-- Where everybody's bound fits into one amount, there is room for everybody. -/
theorem Within.roomy (h : d.Within bound)
    (hbound : ∀ group : Finset Address, ∑ voter ∈ group, bound voter < 2 ^ 64) :
    d.engine.Roomy where
  sound := h.sound
  room voter gauge hfree s hs := by
    obtain ⟨others, hnot, hle⟩ := h.power_le hfree
    have hown := h.snapshot_le voter s hs
    have htotal := hbound (insert voter others)
    rw [Finset.sum_insert hnot] at htotal
    omega

/-! ## What a call keeps -/

/-- A snapshot with no more power than the voter's bound is put among the others. -/
theorem Within.snapshot_le_insert (h : d.Within bound) {c : Commitments} {s : Snapshot}
    (hc : c.snapshots = d.engine.commitments.snapshots.insert s)
    (hs : s.votingPower.toNat ≤ bound s.voter) {voter : Address} {t : Snapshot}
    (ht : c.snapshot? voter d.engine.currentEpoch = some t) :
    t.votingPower.toNat ≤ bound voter := by
  rw [Commitments.snapshot?_insert hc] at ht
  by_cases hkey : s.voter = voter ∧ s.epoch = d.engine.currentEpoch
  · rw [if_pos hkey] at ht
    cases ht
    rwa [← hkey.1]
  · rw [if_neg hkey] at ht
    exact h.snapshot_le voter t ht

/-- Snapshots are written with the power that the escrow has, and keep it. -/
theorem Within.write (h : d.Within bound) (hwrite : VoterWrite voter d d')
    (hsound : d'.engine.PowerSound) : d'.Within bound := by
  have hkept {s : Snapshot}
      (hs : d.engine.commitments.snapshot? voter d.engine.currentEpoch = some s) :
      s.votingPower.toNat ≤ bound s.voter := by
    rw [(Commitments.key_of_snapshot? hs).1]
    exact h.snapshot_le voter s hs
  cases hwrite with
  | nothing => exact h
  | weight => exact ⟨hsound, h.snapshot_le, h.escrow_le⟩
  | snapshot hs hpower =>
    have htaken := h.escrow_le voter _ hpower
    rw [← hs] at htaken
    exact ⟨hsound, fun _ _ => h.snapshot_le_insert rfl htaken, h.escrow_le⟩
  | commitment _ hs =>
    have hown := hkept hs
    refine ⟨hsound, fun _ _ => h.snapshot_le_insert rfl ?_, h.escrow_le⟩
    exact hown
  | removal _ hs =>
    have hown := hkept hs
    refine ⟨hsound, fun _ _ => h.snapshot_le_insert rfl ?_, h.escrow_le⟩
    exact hown

theorem Within.step (h : d.Within bound) (hvoter : operation.voter? = some voter)
    (hstep : Step d operation reply d') : d'.Within bound := by
  refine h.write (hstep.voterWrite hvoter) ?_
  rcases hstep.change with hsame | hchange
  · rw [hsame]
    exact h.sound
  · exact hchange.powerSound h.sound

theorem Within.after (h : d.Within bound) (hvoter : operation.voter? = some voter) :
    (d.after operation).Within bound := by
  rcases after_of_voter (d := d) hvoter with hsame | ⟨_, hstep⟩
  · rw [hsame]
    exact h
  · exact h.step hvoter hstep

theorem Within.afterAll (h : d.Within bound) {calls : List Operation}
    (hcalls : ∀ call ∈ calls, ∃ voter, call.voter? = some voter) :
    (d.afterAll calls).Within bound := by
  induction calls generalizing d with
  | nil => exact h
  | cons call rest ih =>
    obtain ⟨⟨voter, hvoter⟩, hrest⟩ := List.forall_mem_cons.mp hcalls
    exact ih (h.after hvoter) hrest

end Deployment

/-! ## Programs -/

namespace Operation

/-- The calls about a voter, in their order. -/
def callsOf (voter : Address) (calls : List Operation) : List Operation :=
  calls.filter fun call => call.voter? = some voter

/-- The voters' programs, put together in some order that keeps each of them in its own. -/
structure Interleaves (programs : Address → List Operation) (calls : List Operation) : Prop where
  voters : ∀ call ∈ calls, ∃ voter, call.voter? = some voter
  order : ∀ voter, callsOf voter calls = programs voter

end Operation

namespace Deployment

open Operation

variable {d d' : Deployment} {voter : Address} {bound : Address → Nat}

/-- What the calls about a voter answer, each made on the deployment that all calls before it
left. -/
def answersTo (voter : Address) (d : Deployment) :
    List Operation → List (Except VotingError Reply)
  | [] => []
  | call :: rest =>
    if call.voter? = some voter then d.answer call :: answersTo voter (d.after call) rest
    else answersTo voter (d.after call) rest

/-- A voter whose calls are made among those of others has the same answers, and the same
records in the end, as if there were no others. -/
theorem SameFor.afterAll (h : d.SameFor voter d') {calls : List Operation}
    (hbound : ∀ group : Finset Address, ∑ voter ∈ group, bound voter < 2 ^ 64)
    (hcalls : ∀ call ∈ calls, ∃ voter, call.voter? = some voter) (hd : d.Within bound)
    (hd' : d'.Within bound) :
    d.answersTo voter calls = d'.answers (callsOf voter calls) ∧
      (d.afterAll calls).SameFor voter (d'.afterAll (callsOf voter calls)) := by
  induction calls generalizing d d' with
  | nil => exact ⟨rfl, h⟩
  | cons call rest ih =>
    obtain ⟨⟨caller, hcaller⟩, hrest⟩ := List.forall_mem_cons.mp hcalls
    by_cases hown : call.voter? = some voter
    · have hcallsOf : callsOf voter (call :: rest) = call :: callsOf voter rest := by
        simp [callsOf, hown]
      have halike := h.alike hown (hd.roomy hbound) (hd'.roomy hbound)
      obtain ⟨hanswers, hlast⟩ := ih halike.after hrest (hd.after hown) (hd'.after hown)
      rw [hcallsOf, answersTo, if_pos hown, answers, hanswers, halike.answer]
      exact ⟨rfl, hlast⟩
    · have hcallsOf : callsOf voter (call :: rest) = callsOf voter rest := by
        simp [callsOf, hown]
      have hne : caller ≠ voter := by
        rintro rfl
        exact hown hcaller
      rw [hcallsOf, answersTo, if_neg hown]
      exact ih ((sameFor_after hcaller hne).symm.trans h) hrest (hd.after hcaller) hd'

end Deployment

namespace Sample

/-- Two gauges with records of the first epoch, and two voters with locks. -/
def polls : List Operation :=
  [.addGauge (account 1) ⟨account 2, account 3⟩, .addGauge (account 7) ⟨account 2, account 3⟩,
    .lock (account 4) 100 none, .lock (account 5) 60 none,
    .setVote none (account 4) (account 1) 7, .setVote none (account 5) (account 1) 2,
    .ensureEpochGauge (account 1) none, .ensureEpochGauge (account 7) none]

/-- One voter moves to the other gauge, with a commitment from a stale snapshot in between;
the other commits, a second time in vain, and takes the commitment back. -/
def programs (voter : Address) : List Operation :=
  if voter = account 4 then
    [.takeSnapshot (account 4), .setVote none (account 4) (account 7) 3,
      .commit (account 4) (account 1), .resetSnapshot (account 4),
      .commit (account 4) (account 7)]
  else if voter = account 5 then
    [.takeSnapshot (account 5), .commit (account 5) (account 1),
      .commit (account 5) (account 1), .revert none (account 5) (account 1) none]
  else []

/-- One voter after the other. -/
def inTurn : List Operation :=
  programs (account 4) ++ programs (account 5)

/-- The voters take turns. -/
def shuffled : List Operation :=
  [.takeSnapshot (account 5), .takeSnapshot (account 4), .commit (account 5) (account 1),
    .setVote none (account 4) (account 7) 3, .commit (account 5) (account 1),
    .commit (account 4) (account 1), .resetSnapshot (account 4),
    .commit (account 4) (account 7), .revert none (account 5) (account 1) none]

/-- Calls about the two voters that keep their orders are an interleaving. -/
theorem interleaves_programs {calls : List Operation}
    (hvoters : ∀ call ∈ calls,
      call.voter? = some (account 4) ∨ call.voter? = some (account 5))
    (hfirst : Operation.callsOf (account 4) calls = programs (account 4))
    (hsecond : Operation.callsOf (account 5) calls = programs (account 5)) :
    Operation.Interleaves programs calls := by
  refine ⟨fun call hcall => ?_, fun voter => ?_⟩
  · rcases hvoters call hcall with h | h
    · exact ⟨_, h⟩
    · exact ⟨_, h⟩
  · by_cases h4 : voter = account 4
    · rw [h4, hfirst]
    by_cases h5 : voter = account 5
    · rw [h5, hsecond]
    · rw [programs, if_neg h4, if_neg h5, Operation.callsOf, List.filter_eq_nil_iff]
      intro call hcall
      rcases hvoters call hcall with h | h
      · simp [h, Ne.symm h4]
      · simp [h, Ne.symm h5]

end Sample

namespace Deployment

open Operation

variable {d : Deployment}

/-- Take any state after a run from a new deployment in which the stakes of all voters fit
into one amount.  In all interleavings of the voters' programs every call has the same answer,
and they leave the same deployment. -/
theorem interleavings_agree {foreman : Address} {params : FactoryParams} {maxLockSecs : UInt64}
    {run : List Operation} (hcreate : create foreman params maxLockSecs = .ok d)
    (hfits : (d.afterAll run).totalStake < 2 ^ 64) {programs : Address → List Operation}
    {calls calls' : List Operation} (hcalls : Interleaves programs calls)
    (hcalls' : Interleaves programs calls') :
    (∀ voter, (d.afterAll run).answersTo voter calls' =
      (d.afterAll run).answersTo voter calls) ∧
    (d.afterAll run).afterAll calls' = (d.afterAll run).afterAll calls := by
  have hsound := (sound_afterAll hcreate run).power
  generalize d.afterAll run = x at hfits hsound ⊢
  have hbound (group : Finset Address) : ∑ voter ∈ group, x.stake voter < 2 ^ 64 :=
    (x.sum_stake_le group).trans_lt hfits
  have hwithin := within_stake hsound
  -- Either way each voter fares as in the voter's own program alone.
  have halone {calls : List Operation} (hcalls : Interleaves programs calls) (voter : Address) :
      x.answersTo voter calls = x.answers (programs voter) ∧
        (x.afterAll calls).SameFor voter (x.afterAll (programs voter)) := by
    rw [← hcalls.order voter]
    exact (SameFor.refl voter x).afterAll hbound hcalls.voters hwithin hwithin
  refine ⟨fun voter => ?_, eq_of_sameFor (fun voter => ?_) ?_ ?_⟩
  · rw [(halone hcalls voter).1, (halone hcalls' voter).1]
  · exact (halone hcalls voter).2.trans (halone hcalls' voter).2.symm
  · exact (hwithin.afterAll hcalls.voters).sound
  · exact (hwithin.afterAll hcalls'.voters).sound

theorem interleavings_agree_after_polls :
    (∀ voter, (Sample.deployment.afterAll Sample.polls).answersTo voter Sample.shuffled =
      (Sample.deployment.afterAll Sample.polls).answersTo voter Sample.inTurn) ∧
    (Sample.deployment.afterAll Sample.polls).afterAll Sample.shuffled =
      (Sample.deployment.afterAll Sample.polls).afterAll Sample.inTurn := by
  have hinTurn : Interleaves Sample.programs Sample.inTurn :=
    Sample.interleaves_programs (by decide +kernel) (by decide +kernel) (by decide +kernel)
  have hshuffled : Interleaves Sample.programs Sample.shuffled :=
    Sample.interleaves_programs (by decide +kernel) (by decide +kernel) (by decide +kernel)
  have hfits : (Sample.deployment.afterAll Sample.polls).totalStake < 2 ^ 64 := by
    decide +kernel
  exact interleavings_agree Sample.create_deployment hfits hinTurn hshuffled

end Deployment
end EpochVoting
