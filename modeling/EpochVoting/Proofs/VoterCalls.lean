import EpochVoting.Proofs.GarbageCollection
import EpochVoting.Proofs.SameVoter

/-!
# Calls of one voter, calls of others

Weights are set, snapshots taken, and power is committed and taken back in calls that are
about one voter (`Operation.voter?`).  On deployments that are the same for that voter such
a call goes alike (`SameFor.alike`), and to any other voter it makes no difference
(`sameFor_after`).
-/

namespace EpochVoting

open EpochVoting.Action

namespace Operation

/-- The voter whose weights or power a call is about. -/
def voter? : Operation → Option Address
  | .setVote _ voter _ _ | .takeSnapshot voter | .resetSnapshot voter | .commit voter _
  | .revert _ voter _ _ => some voter
  | _ => none

theorem basic_of_voter {operation : Operation} {voter : Address}
    (h : operation.voter? = some voter) : operation.isBasic = true ∧
      ∀ target wanted, operation ≠ .ensureEpochGauge target wanted := by
  cases operation with
  | setVote | takeSnapshot | resetSnapshot | commit | revert =>
    exact ⟨rfl, fun _ _ heq => by cases heq⟩
  | _ => cases h

end Operation

namespace Engine

variable {e e' e'' : Engine} {voter : Address}

/-- The same for the voter: all but the weights, snapshots and votes of others and the power
of the gauges. -/
inductive SameFor (voter : Address) (e : Engine) : Engine → Prop
  | of {weights commitments} (hweights : e.weights.SameOf voter weights)
      (hcommitments : e.commitments.SameFor voter commitments) :
      SameFor voter e { e with weights, commitments }

/-- The same answer, and engines that are the same for the voter. -/
def AnswersFor {α : Type} (voter : Address) (p p' : α × Engine) : Prop :=
  p.1 = p'.1 ∧ p.2.SameFor voter p'.2

/-- Sound records, and room for every voter's power on every gauge. -/
structure Roomy (e : Engine) : Prop where
  sound : e.PowerSound
  room : ∀ voter gauge, e.commitments.HasRoom voter gauge e.currentEpoch

namespace SameFor

theorem refl (voter : Address) (e : Engine) : e.SameFor voter e :=
  .of (.refl _ _) (.refl _ _)

theorem symm (h : e.SameFor voter e') : e'.SameFor voter e := by
  obtain ⟨hweights, hcommitments⟩ := h
  exact .of hweights.symm hcommitments.symm

theorem trans (h : e.SameFor voter e') (h' : e'.SameFor voter e'') : e.SameFor voter e'' := by
  obtain ⟨hweights, hcommitments⟩ := h
  obtain ⟨hweights', hcommitments'⟩ := h'
  exact .of (hweights.trans hweights') (hcommitments.trans hcommitments')

theorem weights (h : e.SameFor voter e') : e.weights.SameOf voter e'.weights := by
  obtain ⟨hweights, -⟩ := h
  exact hweights

theorem commitments (h : e.SameFor voter e') : e.commitments.SameFor voter e'.commitments := by
  obtain ⟨-, hcommitments⟩ := h
  exact hcommitments

/-! ## Calls on the engine -/

theorem setVote (h : e.SameFor voter e') (escrow : Escrow) (authority gauge : Address)
    (weight : UInt32) : Agree (AnswersFor voter) (e.setVote escrow authority voter gauge weight)
      (e'.setVote escrow authority voter gauge weight) := by
  obtain ⟨hweights, hcommitments⟩ := h
  exact agree_check_bind _ fun _ _ => agree_check_bind _ fun _ _ => agree_check_bind _ fun g _ =>
    (hweights.setVote g weight).bind fun _ _ hset => .ok ⟨hset.1, .of hset.2 hcommitments⟩

theorem takeSnapshot (h : e.SameFor voter e') (escrow : Escrow) (now : Timestamp) :
    Agree (AnswersFor voter) (e.takeSnapshot escrow now voter)
      (e'.takeSnapshot escrow now voter) := by
  obtain @⟨weights, commitments, hweights, hcommitments⟩ := h
  have hsnapshot := hcommitments.snapshot?_eq e.currentEpoch
  unfold Engine.takeSnapshot
  show Agree _ _ (if (commitments.snapshot? voter e.currentEpoch).isSome then _ else _)
  rw [hsnapshot, hweights.seqno_eq]
  split
  · exact .ok ⟨rfl, .of hweights hcommitments⟩
  · exact agree_check_bind _ fun power _ => .ok ⟨rfl, .of hweights
      (hcommitments.takeSnapshot e.currentEpoch power (e.weights.seqno voter))⟩

theorem resetSnapshot (h : e.SameFor voter e') (escrow : Escrow) (now : Timestamp) :
    Agree (SameFor voter) (e.resetSnapshot escrow now voter)
      (e'.resetSnapshot escrow now voter) := by
  obtain ⟨hweights, hcommitments⟩ := h
  unfold Engine.resetSnapshot
  rw [hweights.seqno_eq]
  exact agree_check_bind _ fun power _ => (hcommitments.resetSnapshot e.currentEpoch power _).bind
    fun _ _ hreset => .ok (.of hweights hreset)

theorem commit (h : e.SameFor voter e') (he : e.Roomy) (he' : e'.Roomy) (gauge : Address) :
    Agree (AnswersFor voter) (e.commit voter gauge) (e'.commit voter gauge) := by
  obtain ⟨hweights, hcommitments⟩ := h
  refine agree_check_bind _ fun g hg => ?_
  obtain rfl := Registry.target_of_find? (Registry.get_eq_ok_iff.mp hg)
  rw [hweights.weight_eq, hweights.totalWeight_eq, hweights.seqno_eq]
  exact (hcommitments.commit (he.room voter g.target) (he'.room voter g.target)
    (he.sound.balanced.share_le voter g.target) _).bind
    fun _ _ hcommit => .ok ⟨hcommit.1, .of hweights hcommit.2⟩

theorem revert (h : e.SameFor voter e') (he : e.Roomy) (he' : e'.Roomy) (escrow : Escrow)
    (authority gauge : Address) (epoch : Epoch) :
    Agree (AnswersFor voter) (e.revert escrow authority voter gauge epoch)
      (e'.revert escrow authority voter gauge epoch) := by
  obtain ⟨hweights, hcommitments⟩ := h
  exact agree_check_bind _ fun _ _ => agree_check_bind _ fun _ _ =>
    (hcommitments.revert he.sound.consistent he'.sound.consistent gauge epoch).bind
      fun _ _ hrevert => .ok ⟨hrevert.1, .of hweights hrevert.2⟩

end SameFor
end Engine

namespace Deployment

open Engine

variable {d d' d'' : Deployment} {operation : Operation} {reply : Reply} {voter other : Address}

/-- The same for the voter. -/
inductive SameFor (voter : Address) (d : Deployment) : Deployment → Prop
  | of {engine} (h : d.engine.SameFor voter engine) : SameFor voter d { d with engine }

namespace SameFor

theorem refl (voter : Address) (d : Deployment) : d.SameFor voter d :=
  .of (.refl _ _)

theorem symm (h : d.SameFor voter d') : d'.SameFor voter d := by
  obtain ⟨he⟩ := h
  exact .of he.symm

theorem trans (h : d.SameFor voter d') (h' : d'.SameFor voter d'') : d.SameFor voter d'' := by
  obtain ⟨he⟩ := h
  obtain ⟨he'⟩ := h'
  exact .of (he.trans he')

theorem engine (h : d.SameFor voter d') : d.engine.SameFor voter d'.engine := by
  obtain ⟨he⟩ := h
  exact he

theorem onEngine {α : Type} {call : Deployment → Except VotingError (α × Engine)}
    (h : d.SameFor voter d') (hcall : Agree (AnswersFor voter) (call d) (call d')) :
    Alike (SameFor voter) (onEngine call) (onEngine call) d d' := by
  obtain ⟨he⟩ := h
  exact alike_onEngine (.of he) (hcall.mono fun p p' hp => ⟨hp.1, .of hp.2⟩)

/-- A call about the voter goes alike on deployments that are the same for the voter. -/
theorem alike (h : d.SameFor voter d') (hvoter : operation.voter? = some voter)
    (hd : d.engine.Roomy) (hd' : d'.engine.Roomy) :
    Alike (SameFor voter) (perform operation) (perform operation) d d' := by
  obtain ⟨he⟩ := id h
  cases operation with
  | setVote authority v gauge weight =>
    cases hvoter
    exact (h.onEngine (he.setVote d.escrow _ gauge weight)).map _
  | takeSnapshot v =>
    cases hvoter
    exact (h.onEngine (he.takeSnapshot d.escrow d.now)).map _
  | resetSnapshot v =>
    cases hvoter
    refine (alike_changeEngine h ((he.resetSnapshot d.escrow d.now).mono ?_)).bind
      fun _ _ _ _ _ hR => alike_pure Reply.done hR
    exact fun _ _ hreset => .of hreset
  | commit v gauge =>
    cases hvoter
    exact (h.onEngine (he.commit hd hd' gauge)).map _
  | revert authority v gauge epoch =>
    cases hvoter
    obtain ⟨hweights, hcommitments⟩ := he
    exact (h.onEngine (Engine.SameFor.revert (.of hweights hcommitments) hd hd' d.escrow _ gauge
      _)).map _
  | _ => cases hvoter

end SameFor

/-- Deployments that are the same for every voter are the same. -/
theorem eq_of_sameFor (h : ∀ voter, d.SameFor voter d') (hd : d.engine.PowerSound)
    (hd' : d'.engine.PowerSound) : d' = d := by
  have hweights : d'.engine.weights = d.engine.weights :=
    WeightBook.eq_of_sameOf fun voter => (h voter).engine.weights
  have hepoch : d'.engine.currentEpoch = d.engine.currentEpoch := by
    obtain ⟨⟨-, -⟩⟩ := h default
    rfl
  have hcommitments : d'.engine.commitments = d.engine.commitments :=
    Commitments.eq_of_sameFor (fun voter => (h voter).engine.commitments) hd.consistent
      (hepoch ▸ hd'.consistent)
  obtain ⟨⟨-, -⟩⟩ := h default
  cases hweights
  cases hcommitments
  rfl

/-- A call about a voter leaves everything as it was, or it is a step. -/
theorem after_of_voter (hvoter : operation.voter? = some voter) :
    d.after operation = d ∨ ∃ reply, Step d operation reply (d.after operation) := by
  obtain ⟨hbasic, hcapture⟩ := Operation.basic_of_voter hvoter
  rw [after_eq_leaves]
  cases hrun : (perform operation).run d with
  | ok reply d' =>
    rw [leaves_of_ok hrun]
    exact Or.inr ⟨reply, step_of_perform hbasic hrun⟩
  | error error d' =>
    exact Or.inl (leaves_of_error (atomic_perform hbasic hcapture) hrun)

/-! ## What a voter's calls write -/

/-- What a step about a voter writes: a weight, a snapshot with the power that the escrow
has, a commitment or its removal. -/
inductive VoterWrite (voter : Address) (d : Deployment) : Deployment → Prop
  | nothing : VoterWrite voter d d
  | weight (gauge : Address) (weight : UInt32) (total seqno : UInt64) :
      VoterWrite voter d { d with engine := { d.engine with
        weights := d.engine.weights.write voter gauge weight total seqno } }
  | snapshot {s : Snapshot} (hs : s.voter = voter)
      (hpower : d.escrow.votingPower voter d.now = .ok s.votingPower) :
      VoterWrite voter d { d with engine := { d.engine with
        commitments := d.engine.commitments.putSnapshot s } }
  | commitment {r : EpochGauge} {s : Snapshot} {x : EpochVote} {gaugeTotal voterTotal : UInt64}
      (hr : d.engine.commitments.epochGauge? r.gauge r.epoch = some r)
      (hs : d.engine.commitments.snapshot? voter d.engine.currentEpoch = some s)
      (hx : x.voter = voter) :
      VoterWrite voter d { d with engine := { d.engine with
        commitments := d.engine.commitments.addVote r s x gaugeTotal voterTotal } }
  | removal {r : EpochGauge} {s : Snapshot} {x : EpochVote} {gaugeTotal voterTotal : UInt64}
      (hr : d.engine.commitments.epochGauge? r.gauge r.epoch = some r)
      (hs : d.engine.commitments.snapshot? voter d.engine.currentEpoch = some s)
      (hx : x.voter = voter) :
      VoterWrite voter d { d with engine := { d.engine with
        commitments := d.engine.commitments.removeVote r s x gaugeTotal voterTotal } }

theorem Step.voterWrite (h : Step d operation reply d') (hvoter : operation.voter? = some voter) :
    VoterWrite voter d d' := by
  cases h with
  | setVote hcall =>
    cases hvoter
    obtain ⟨_, total, seqno, -, -, rfl⟩ := setVote_eq_ok hcall
    exact .weight _ _ total seqno
  | takeSnapshot hcall =>
    cases hvoter
    unfold Engine.takeSnapshot at hcall
    split at hcall
    · cases hcall
      exact .nothing
    · next htaken =>
      obtain ⟨power, hpower, heq⟩ := bind_eq_ok_iff.mp hcall
      rw [Commitments.takeSnapshot_of_none (Option.not_isSome_iff_eq_none.mp htaken)] at heq
      cases heq
      exact .snapshot rfl hpower
  | resetSnapshot hcall =>
    cases hvoter
    obtain ⟨power, hpower, hreset⟩ := bind_eq_ok_iff.mp hcall
    obtain ⟨_, hwritten, heq⟩ := bind_eq_ok_iff.mp hreset
    cases heq
    obtain ⟨s, hs, -, rfl⟩ := Commitments.resetSnapshot_eq_ok_iff.mp hwritten
    exact .snapshot (Commitments.key_of_snapshot? hs).1 hpower
  | @commit _ _ outcome _ hcall =>
    cases hvoter
    obtain ⟨g, -, hfound⟩ := bind_eq_ok_iff.mp hcall
    obtain ⟨⟨_, commitments⟩, hcommit, heq⟩ := bind_eq_ok_iff.mp hfound
    cases heq
    cases outcome with
    | nothingToCommit =>
      obtain ⟨-, -, -, -, rfl⟩ := Commitments.commit_eq_ok_nothing_iff.mp hcommit
      exact .nothing
    | committed allocated =>
      obtain ⟨-, -, s, r, hs, -, hr, -, -, _, _, -, -, rfl⟩ :=
        Commitments.commit_eq_ok_committed_iff.mp hcommit
      exact .commitment (Commitments.epochGauge?_self hr) hs rfl
  | revert hcall =>
    cases hvoter
    obtain ⟨_, commitments, -, -, hlive, hrevert, rfl⟩ := revert_eq_ok hcall
    rw [hlive] at hrevert
    obtain ⟨x, r, s, hx, hr, hs, -, _, _, -, -, rfl⟩ := Commitments.revert_eq_ok_iff.mp hrevert
    exact .removal (Commitments.epochGauge?_self hr) hs (Commitments.key_of_vote? hx).1
  | _ => cases hvoter

/-- What is written for another voter makes no difference to the voter. -/
theorem VoterWrite.sameFor (h : VoterWrite other d d') (hne : other ≠ voter) :
    d.SameFor voter d' := by
  cases h with
  | nothing => exact .refl _ _
  | weight => exact .of (.of (WeightBook.sameOf_write hne _ _ _) (.refl _ _))
  | snapshot hs =>
    cases hs
    exact .of (.of (.refl _ _) (Commitments.sameFor_putSnapshot hne))
  | commitment hr hs hx =>
    obtain ⟨rfl, -⟩ := Commitments.key_of_snapshot? hs
    exact .of (.of (.refl _ _) (Commitments.sameFor_addVote hr hne (hx ▸ hne)))
  | removal hr hs hx =>
    obtain ⟨rfl, -⟩ := Commitments.key_of_snapshot? hs
    exact .of (.of (.refl _ _) (Commitments.sameFor_removeVote hr hne (hx ▸ hne)))

/-- A call about another voter makes no difference to the voter. -/
theorem sameFor_after (hother : operation.voter? = some other) (hne : other ≠ voter) :
    d.SameFor voter (d.after operation) := by
  rcases after_of_voter (d := d) hother with hsame | ⟨_, hstep⟩
  · rw [hsame]
    exact .refl _ _
  · exact (hstep.voterWrite hother).sameFor hne

end Deployment
end EpochVoting
