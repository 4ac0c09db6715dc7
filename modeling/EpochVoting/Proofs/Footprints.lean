import EpochVoting.Proofs.Frame

/-!
# What an operation names, and what it writes

The records of epochs of all gauges and all voters lie in three tables.  A step writes at most
one record of each table, and only records of the gauge and the voter that its operation
names: `Deployment.EpochWrite` lists the writes (`Step.epochWrite`).
-/

namespace EpochVoting

namespace Operation

/-- The gauges that an operation names. -/
def gauges : Operation → List Address
  | .createGauge gauge _ | .setGaugeEnabled _ gauge _ | .setVote _ _ gauge _
  | .ensureEpochGauge gauge _ | .commit _ gauge | .revert _ _ gauge _ | .close _ _ gauge _
  | .cleanEpochGauge gauge _ | .syncGauge gauge | .syncDisabledGauge gauge
  | .claimFee _ _ gauge _ _ | .createBribe _ gauge _ _ _ | .addGauge gauge _
  | .accrueFees gauge _ _ | .accruePool gauge _ _ _ | .setPoolTotal gauge _ _ => [gauge]
  | .voteEpoch _ gauges => gauges
  | _ => []

/-- The voters that an operation names. -/
def voters : Operation → List Address
  | .setVote _ voter _ _ | .takeSnapshot voter | .resetSnapshot voter | .commit voter _
  | .revert _ voter _ _ | .close _ voter _ _ | .claimFee _ voter _ _ _ | .claimBribe _ voter _ _
  | .voteEpoch voter _ | .lock voter _ _ | .unlock voter | .setDelegate voter _
  | .setOwner voter _ => [voter]
  | _ => []

/-- The bribes that an operation names.  A new bribe has the next id. -/
def bribes (d : Deployment) : Operation → List UInt64
  | .createBribe .. => [d.engine.factory.bribeCount]
  | .claimBribe _ _ id _ | .clawBackBribe _ id _ => [id]
  | _ => []

variable {part operation : Operation}

/-- The calls of an operation name no gauges that it does not name. -/
theorem Makes.gauges_subset (h : operation.Makes part) : part.gauges ⊆ operation.gauges := by
  cases h with
  | wait | advance | snapshot => exact List.nil_subset _
  | create | enable => exact List.Subset.refl _
  | commit hpart =>
    cases hpart with
    | record hgauge | commit hgauge => exact List.cons_subset.mpr ⟨hgauge, List.nil_subset _⟩

/-- The calls of an operation name no voters that it does not name. -/
theorem Makes.voters_subset (h : operation.Makes part) : part.voters ⊆ operation.voters := by
  cases h with
  | wait | advance | create | enable => exact List.nil_subset _
  | snapshot => exact List.Subset.refl _
  | commit hpart =>
    cases hpart with
    | record => exact List.nil_subset _
    | commit => exact List.Subset.refl _

/-- The calls of an operation name no bribes. -/
theorem Makes.bribes_eq_nil (h : operation.Makes part) (d : Deployment) : part.bribes d = [] := by
  cases h with
  | commit hpart => cases hpart <;> rfl
  | _ => rfl

end Operation

namespace Deployment

open Engine

variable {d d' : Deployment} {operation : Operation} {reply : Reply}

/-- What a step writes to the records of epochs. -/
inductive EpochWrite (d : Deployment) : Operation → Commitments → Prop
  | nothing {operation : Operation} : EpochWrite d operation d.engine.commitments
  | taken {voter : Address} {power : UInt64}
      (hnone : d.engine.commitments.snapshot? voter d.engine.currentEpoch = none) :
      EpochWrite d (.takeSnapshot voter) (d.engine.commitments.putSnapshot
        (.fresh voter d.engine.currentEpoch power (d.engine.weights.seqno voter)))
  | reset {voter : Address} {s : Snapshot} {power : UInt64}
      (hs : d.engine.commitments.snapshot? voter d.engine.currentEpoch = some s)
      (hzero : s.allocatedPower = 0) :
      EpochWrite d (.resetSnapshot voter) (d.engine.commitments.putSnapshot
        { s with votingPower := power, weightChangeSeqno := d.engine.weights.seqno voter })
  | captured {target : Address} {epoch : Option Epoch} {fees : PerSide UInt64}
      (hnone : d.engine.commitments.epochGauge? target d.engine.currentEpoch = none) :
      EpochWrite d (.ensureEpochGauge target epoch) { d.engine.commitments with
        epochGauges := d.engine.commitments.epochGauges.insert
          (.fresh target d.engine.currentEpoch fees) }
  | committed {r : EpochGauge} {s : Snapshot} {x : EpochVote} {gaugeTotal voterTotal : UInt64}
      (hepoch : x.epoch = d.engine.currentEpoch)
      (hnone : d.engine.commitments.vote? x.voter x.gauge x.epoch = none)
      (hr : d.engine.commitments.epochGauge? x.gauge x.epoch = some r)
      (hs : d.engine.commitments.snapshot? x.voter x.epoch = some s) :
      EpochWrite d (.commit x.voter x.gauge)
        (d.engine.commitments.addVote r s x gaugeTotal voterTotal)
  | reverted {authority : Option Address} {epoch : Option Epoch} {r : EpochGauge} {s : Snapshot}
      {x : EpochVote} {gaugeTotal voterTotal : UInt64}
      (hepoch : x.epoch = d.engine.currentEpoch)
      (hx : d.engine.commitments.vote? x.voter x.gauge x.epoch = some x)
      (hr : d.engine.commitments.epochGauge? x.gauge x.epoch = some r)
      (hs : d.engine.commitments.snapshot? x.voter x.epoch = some s) :
      EpochWrite d (.revert authority x.voter x.gauge epoch)
        (d.engine.commitments.removeVote r s x gaugeTotal voterTotal)
  | closed {authority : Option Address} {r : EpochGauge} {s : Snapshot} {x : EpochVote}
      {gaugeClosed voterClosed : UInt64} (helapsed : x.epoch < d.engine.currentEpoch)
      (hx : d.engine.commitments.vote? x.voter x.gauge x.epoch = some x)
      (hr : d.engine.commitments.epochGauge? x.gauge x.epoch = some r)
      (hs : d.engine.commitments.snapshot? x.voter x.epoch = some s) :
      EpochWrite d (.close authority x.voter x.gauge x.epoch)
        (d.engine.commitments.closeVote r s x gaugeClosed voterClosed)
  | cleaned {target : Address} {epoch : Epoch} :
      EpochWrite d (.cleanEpochGauge target epoch) { d.engine.commitments with
        epochGauges := d.engine.commitments.epochGauges.erase (target, epoch) }
  | claimed {authority : Option Address} {voter target : Address} {epoch : Epoch}
      {side : FeeSide} {s : Snapshot}
      (hs : d.engine.commitments.snapshot? voter epoch = some s) :
      EpochWrite d (.claimFee authority voter target epoch side)
        (d.engine.commitments.putSnapshot (s.markFeeClaimed target side))

/-- A step writes to the records of epochs what its operation names. -/
theorem Step.epochWrite (h : Step d operation reply d') :
    EpochWrite d operation d'.engine.commitments := by
  by_cases hwrites : Book.commitments ∈ operation.writes
  case neg =>
    have hsame : d'.engine.commitments = d.engine.commitments := h.keeps .commitments hwrites
    rw [hsame]
    exact .nothing
  case pos =>
    cases h with
    | takeSnapshot hcall =>
      unfold Engine.takeSnapshot at hcall
      split at hcall
      · cases hcall
        exact .nothing
      · next htaken =>
        have hnone := Option.not_isSome_iff_eq_none.mp htaken
        obtain ⟨power, -, heq⟩ := bind_eq_ok_iff.mp hcall
        rw [Commitments.takeSnapshot_of_none hnone] at heq
        cases heq
        exact .taken hnone
    | resetSnapshot hcall =>
      obtain ⟨power, -, hpower⟩ := bind_eq_ok_iff.mp hcall
      obtain ⟨commitments, hreset, heq⟩ := bind_eq_ok_iff.mp hpower
      cases heq
      obtain ⟨s, hs, hzero, rfl⟩ := Commitments.resetSnapshot_eq_ok_iff.mp hreset
      exact .reset hs hzero
    | @captured target epoch g capture _ _ hgauge _ hnone =>
      obtain rfl := Registry.target_of_find? hgauge
      exact .captured hnone
    | @commit voter target outcome engine hcall =>
      obtain ⟨g, hgauge, hfound⟩ := bind_eq_ok_iff.mp hcall
      obtain ⟨⟨_, commitments⟩, hcommit, heq⟩ := bind_eq_ok_iff.mp hfound
      cases heq
      obtain rfl := Registry.target_of_find? (Registry.get_eq_ok_iff.mp hgauge)
      cases outcome with
      | nothingToCommit =>
        obtain ⟨-, -, -, -, rfl⟩ := Commitments.commit_eq_ok_nothing_iff.mp hcommit
        exact .nothing
      | committed allocated =>
        obtain ⟨hnone, -, s, r, hs, -, hr, -, -, _, _, -, -, rfl⟩ :=
          Commitments.commit_eq_ok_committed_iff.mp hcommit
        exact .committed (x := ⟨voter, g.target, d.engine.currentEpoch, allocated⟩) rfl hnone
          hr hs
    | revert hcall =>
      obtain ⟨_, -, hallowed⟩ := bind_eq_ok_iff.mp hcall
      obtain ⟨_, hlive, hepoch⟩ := bind_eq_ok_iff.mp hallowed
      obtain ⟨⟨_, commitments⟩, hrevert, heq⟩ := bind_eq_ok_iff.mp hepoch
      cases heq
      rw [Factory.requireLive_eq_ok_iff] at hlive
      obtain ⟨x, r, s, hx, hr, hs, -, _, _, -, -, rfl⟩ :=
        Commitments.revert_eq_ok_iff.mp hrevert
      obtain ⟨rfl, rfl, hsame⟩ := Commitments.key_of_vote? hx
      rw [← hsame] at hx hr hs hlive
      exact .reverted hlive hx hr hs
    | close hcall =>
      obtain ⟨_, -, hallowed⟩ := bind_eq_ok_iff.mp hcall
      obtain ⟨_, helapsed, hepoch⟩ := bind_eq_ok_iff.mp hallowed
      obtain ⟨⟨x, commitments⟩, hclose, heq⟩ := bind_eq_ok_iff.mp hepoch
      cases heq
      rw [Factory.requireElapsed_eq_ok_iff] at helapsed
      obtain ⟨hx, r, s, hr, hs, _, _, -, -, rfl⟩ := Commitments.close_eq_ok_iff.mp hclose
      obtain ⟨rfl, rfl, rfl⟩ := Commitments.key_of_vote? hx
      exact .closed helapsed hx hr hs
    | cleaned _ _ _ hgauge _ =>
      obtain rfl := Registry.target_of_find? hgauge
      exact .cleaned
    | feePaid _ _ _ hgauge _ hs hclaim _ =>
      obtain rfl := Registry.target_of_find? hgauge
      obtain ⟨-, -, a, -, rfl, -⟩ := FeeClaim.compute_eq_ok_some_iff.mp hclaim
      exact .claimed hs
    | foundEpochGauge | unvotedFee => exact .nothing
    | _ => simp [Operation.writes] at hwrites

end Deployment
end EpochVoting
