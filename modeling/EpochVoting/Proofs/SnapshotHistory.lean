import EpochVoting.Proofs.Footprints
import EpochVoting.Proofs.History
import EpochVoting.Proofs.Segregation
import Mathlib.Data.List.Induction

/-!
# Where a snapshot's allocations come from

The power and the sequence number of a snapshot are those of the last call that took it,
for the first time or anew.  All allocations from it, live or closed, are parts of that
power in proportion to the weights which the voter had then (`Engine.Follows`): a
commitment needs the same sequence number, and taking the snapshot anew needs that nothing
is committed from it.

The history of a snapshot is told by `LastSnapshot`, and so a commitment is refused for
stale weights exactly if the voter has set a weight since that call.
-/

namespace EpochVoting

/-- What a snapshot was taken with: power, and the number of the voter's weights. -/
def Snapshot.terms (s : Snapshot) : UInt64 × UInt64 :=
  (s.votingPower, s.weightChangeSeqno)

/-! ## Writes of allocations -/

namespace Commitments

variable {c c' : Commitments} {now : Epoch}

/-- An allocation depends on the vote and on the closed allocations only. -/
theorem allocation?_congr {voter gauge : Address} {epoch : Epoch}
    (hvote : c'.vote? voter gauge epoch = c.vote? voter gauge epoch)
    (hclosed : (c'.snapshot? voter epoch).map Snapshot.closedAllocations =
      (c.snapshot? voter epoch).map Snapshot.closedAllocations) :
    c'.allocation? voter gauge epoch = c.allocation? voter gauge epoch := by
  have hlookup (c : Commitments) : ((c.snapshot? voter epoch).bind fun s =>
      s.closedAllocation? gauge) = ((c.snapshot? voter epoch).map Snapshot.closedAllocations).bind
        fun closed => (closed.find? gauge).map ClosedAllocation.amount := by
    cases c.snapshot? voter epoch <;> rfl
  unfold allocation?
  rw [hvote, hlookup c', hlookup c, hclosed]

theorem allocation?_addVote {r : EpochGauge} {s : Snapshot} {x : EpochVote}
    {gaugeTotal voterTotal : UInt64} (hs : c.snapshot? x.voter x.epoch = some s)
    (voter gauge : Address) (epoch : Epoch) :
    (c.addVote r s x gaugeTotal voterTotal).allocation? voter gauge epoch =
      if x.voter = voter ∧ x.gauge = gauge ∧ x.epoch = epoch then some x.allocatedPower
      else c.allocation? voter gauge epoch := by
  have hvote : (c.addVote r s x gaugeTotal voterTotal).vote? voter gauge epoch = _ :=
    vote?_insert rfl voter gauge epoch
  by_cases hkey : x.voter = voter ∧ x.gauge = gauge ∧ x.epoch = epoch
  · rw [if_pos hkey] at hvote ⊢
    unfold allocation?
    rw [hvote]
  · rw [if_neg hkey] at hvote ⊢
    refine allocation?_congr hvote (snapshot?_map_insert _ (s := s) rfl ?_ ?_ voter epoch)
    · exact snapshot?_self hs
    · rfl

/-- What is taken back is no allocation any more. -/
theorem allocation?_removeVote (h : c.Consistent now) {r : EpochGauge} {s : Snapshot}
    {x : EpochVote} {gaugeTotal voterTotal : UInt64}
    (hx : c.vote? x.voter x.gauge x.epoch = some x)
    (hs : c.snapshot? x.voter x.epoch = some s) (voter gauge : Address) (epoch : Epoch) :
    (c.removeVote r s x gaugeTotal voterTotal).allocation? voter gauge epoch =
      if x.voter = voter ∧ x.gauge = gauge ∧ x.epoch = epoch then none
      else c.allocation? voter gauge epoch := by
  have hvote : (c.removeVote r s x gaugeTotal voterTotal).vote? voter gauge epoch = _ :=
    vote?_erase rfl voter gauge epoch
  by_cases hkey : x.voter = voter ∧ x.gauge = gauge ∧ x.epoch = epoch
  · obtain ⟨rfl, rfl, rfl⟩ := hkey
    rw [if_pos ⟨rfl, rfl, rfl⟩] at hvote ⊢
    have hsnapshot : (c.removeVote r s x gaugeTotal voterTotal).snapshot? x.voter x.epoch =
        some { s with allocatedPower := voterTotal } := by
      rw [snapshot?_insert rfl, if_pos (key_of_snapshot? hs)]
    unfold allocation?
    rw [hvote, hsnapshot]
    -- A live vote and a closed allocation exclude each other.
    exact h.disjoint _ _ _ x s hx hs
  · rw [if_neg hkey] at hvote ⊢
    refine allocation?_congr hvote (snapshot?_map_insert _ (s := s) rfl ?_ ?_ voter epoch)
    · exact snapshot?_self hs
    · rfl

/-- A voter without allocated power has no allocation, live or closed. -/
theorem Consistent.allocation?_eq_none (h : c.Consistent now) {voter : Address}
    {epoch : Epoch} (hzero : c.allocated voter epoch = 0) (gauge : Address) :
    c.allocation? voter gauge epoch = none := by
  have hvote : c.vote? voter gauge epoch = none := by
    refine Option.eq_none_iff_forall_ne_some.mpr fun x hx => ?_
    obtain ⟨hvoter, -, hepoch⟩ := key_of_vote? hx
    exact h.no_vote_of_allocated_zero hzero (Table.mem_of_find? hx) hvoter hepoch
  unfold allocation?
  rw [hvote]
  cases hs : c.snapshot? voter epoch with
  | none => rfl
  | some s =>
    have hsum := h.allocated_eq voter epoch
    rw [closedOf_of_snapshot? hs, hzero] at hsum
    refine Option.map_eq_none_iff.mpr (Option.eq_none_iff_forall_ne_some.mpr fun a ha => ?_)
    have hle := Table.le_total_of_mem (f := fun a : ClosedAllocation => a.amount.toNat)
      (Table.mem_of_find? ha)
    have hne := (h.snapshot_sound hs).closed_pos a (Table.mem_of_find? ha)
    change a.amount.toNat ≤ s.closedSum at hle
    exact hne (UInt64.toNat_inj.mp (by change a.amount.toNat = 0; omega))

end Commitments

/-! ## Allocations follow the weights of the snapshot -/

namespace Engine

open Commitments

variable {e e' : Engine} {w : WeightBook} {voter : Address} {epoch : Epoch}

/-- An allocation that was not there before is the gauge's part of the snapshot's power
under the voter's present weights, which are those of the snapshot. -/
theorem Change.allocation (h : e.Change e') (hsound : e.PowerSound) {gauge : Address}
    {a : UInt64} (ha : e'.commitments.allocation? voter gauge epoch = some a) :
    e.commitments.allocation? voter gauge epoch = some a ∨
      ∃ s, e.commitments.snapshot? voter epoch = some s ∧
        s.weightChangeSeqno = e.weights.seqno voter ∧ a ≠ 0 ∧
        a.toNat = s.votingPower.toNat * (e.weights.weight voter gauge).toNat /
          (e.weights.totalWeight voter).toNat := by
  cases h with
  | @snapshotTaken v power hnone =>
    refine Or.inl (Eq.trans ?_ ha)
    by_cases hkey : v = voter ∧ e.currentEpoch = epoch
    · -- A new snapshot has no closed allocations, and there was none before it.
      obtain ⟨rfl, rfl⟩ := hkey
      have hnew : (e.commitments.putSnapshot
          (.fresh v e.currentEpoch power (e.weights.seqno v))).snapshot? v e.currentEpoch =
          some (.fresh v e.currentEpoch power (e.weights.seqno v)) := by
        rw [snapshot?_insert rfl, if_pos ⟨rfl, rfl⟩]
      unfold allocation?
      rw [hnone, hnew]
      rfl
    · refine Eq.symm (allocation?_congr ?_ (congrArg _ ?_))
      · rfl
      · exact (snapshot?_insert rfl ..).trans (if_neg hkey)
  | @snapshotReset v s power hs hzero =>
    refine Or.inl (Eq.trans (Eq.symm ?_) ha)
    refine allocation?_putSnapshot (s := s) ?_ ?_ voter gauge epoch
    · exact snapshot?_self hs
    · rfl
  | @committed g r s x gaugeTotal voterTotal hepoch hgauge henabled hnone hs hseqno hr hshare
      hpositive =>
    have hadded := ha.symm.trans (allocation?_addVote hs voter gauge epoch)
    by_cases hkey : x.voter = voter ∧ x.gauge = gauge ∧ x.epoch = epoch
    · obtain ⟨rfl, rfl, rfl⟩ := hkey
      rw [if_pos ⟨rfl, rfl, rfl⟩] at hadded
      cases hadded
      exact Or.inr ⟨s, hs, hseqno, hpositive, hshare⟩
    · rw [if_neg hkey] at hadded
      exact Or.inl hadded.symm
  | @reverted r s x gaugeTotal voterTotal hepoch hx hr hs =>
    have hremoved := ha.symm.trans
      (allocation?_removeVote hsound.consistent hx hs voter gauge epoch)
    by_cases hkey : x.voter = voter ∧ x.gauge = gauge ∧ x.epoch = epoch
    · rw [if_pos hkey] at hremoved
      cases hremoved
    · rw [if_neg hkey] at hremoved
      exact Or.inl hremoved.symm
  | @closed r s x gaugeClosed voterClosed helapsed hx hr hs =>
    exact Or.inl ((allocation?_closeVote hx hs voter gauge epoch).symm.trans ha)
  | @feeClaimed v target epoch' side g r s claim helapsed hgauge hr hs hclaim =>
    refine Or.inl (Eq.trans (Eq.symm ?_) ha)
    refine allocation?_putSnapshot (s := s) ?_ ?_ voter gauge epoch
    · exact snapshot?_self hs
    · rfl
  | _ => exact Or.inl ha

/-- A change leaves the weights as they are, or it sets one of them. -/
theorem Change.weights_cases (h : e.Change e') : e'.weights = e.weights ∨
    ∃ v g weight change, e.weights.setVote v g weight = .ok (change, e'.weights) := by
  cases h with
  | weightSet hgauge hset => exact Or.inr ⟨_, _, _, _, hset⟩
  | _ => exact Or.inl rfl

/-- All that is allocated from the voter's snapshot of the epoch follows the weights `w`,
and the sequence number tells whether the voter's weights are still those. -/
structure Follows (e : Engine) (w : WeightBook) (voter : Address) (epoch : Epoch) : Prop where
  seqno : ∀ s, e.commitments.snapshot? voter epoch = some s →
    s.weightChangeSeqno = w.seqno voter
  shares : ∀ s, e.commitments.snapshot? voter epoch = some s → ∀ gauge a,
    e.commitments.allocation? voter gauge epoch = some a →
      a ≠ 0 ∧ a.toNat = s.votingPower.toNat * (w.weight voter gauge).toNat /
        (w.totalWeight voter).toNat
  seqno_le : (w.seqno voter).toNat ≤ (e.weights.seqno voter).toNat
  weights : e.weights.seqno voter = w.seqno voter →
    (∀ gauge, e.weights.weight voter gauge = w.weight voter gauge) ∧
      e.weights.totalWeight voter = w.totalWeight voter

/-- A change that keeps the terms of the voter's snapshot of the epoch. -/
structure KeepsSnapshot (voter : Address) (epoch : Epoch) (e e' : Engine) : Prop where
  change : e.Change e'
  terms : (e'.commitments.snapshot? voter epoch).map Snapshot.terms =
    (e.commitments.snapshot? voter epoch).map Snapshot.terms

theorem KeepsSnapshot.follows (h : KeepsSnapshot voter epoch e e') (hsound : e.PowerSound)
    (hf : e.Follows w voter epoch) : e'.Follows w voter epoch := by
  obtain ⟨hchange, hterms⟩ := h
  -- The snapshot was there before, with the same power and sequence number.
  have hbefore {s' : Snapshot} (hs' : e'.commitments.snapshot? voter epoch = some s') :
      ∃ s, e.commitments.snapshot? voter epoch = some s ∧ s.votingPower = s'.votingPower ∧
        s.weightChangeSeqno = s'.weightChangeSeqno := by
    rw [hs', Option.map_some, eq_comm, Option.map_eq_some_iff] at hterms
    obtain ⟨s, hs, hsame⟩ := hterms
    exact ⟨s, hs, (Prod.mk.inj hsame).1, (Prod.mk.inj hsame).2⟩
  have hweights : (w.seqno voter).toNat ≤ (e'.weights.seqno voter).toNat ∧
      (e'.weights.seqno voter = w.seqno voter →
        (∀ gauge, e'.weights.weight voter gauge = w.weight voter gauge) ∧
          e'.weights.totalWeight voter = w.totalWeight voter) := by
    rcases hchange.weights_cases with hsame | ⟨v, g, weight, change, hset⟩
    · rw [hsame]
      exact ⟨hf.seqno_le, hf.weights⟩
    · obtain ⟨total, seqno, hwritten, -, hnext⟩ := WeightBook.write_of_setVote hset
      have hle := hf.seqno_le
      rw [hwritten, WeightBook.seqno_write]
      by_cases hvoter : v = voter
      · -- The voter's sequence number has grown past that of the snapshot.
        subst hvoter
        rw [if_pos rfl]
        refine ⟨by omega, fun hsame => ?_⟩
        rw [hsame] at hnext
        omega
      · rw [if_neg hvoter]
        refine ⟨hle, fun hsame => ⟨fun gauge => ?_, ?_⟩⟩
        · rw [WeightBook.weight_write, if_neg fun hkey => hvoter hkey.1]
          exact (hf.weights hsame).1 gauge
        · rw [WeightBook.totalWeight_write, if_neg hvoter]
          exact (hf.weights hsame).2
  refine ⟨fun s' hs' => ?_, fun s' hs' gauge a ha => ?_, hweights.1, hweights.2⟩
  · obtain ⟨s, hs, -, hseqno⟩ := hbefore hs'
    exact hseqno.symm.trans (hf.seqno s hs)
  · obtain ⟨s, hs, hpower, -⟩ := hbefore hs'
    rcases hchange.allocation hsound ha with hold | ⟨t, ht, hseqno, hne, hshare⟩
    · rw [← hpower]
      exact hf.shares s hs gauge a hold
    · cases hs.symm.trans ht
      obtain ⟨hweight, htotal⟩ := hf.weights (hseqno.symm.trans (hf.seqno s hs))
      rw [← hpower, ← hweight gauge, ← htotal]
      exact ⟨hne, hshare⟩

/-- Changes that keep the terms of the snapshot. -/
theorem follows_of_changes (h : Relation.ReflTransGen (KeepsSnapshot voter epoch) e e')
    (hsound : e.Sound) (hf : e.Follows w voter epoch) :
    e'.Sound ∧ e'.Follows w voter epoch := by
  induction h with
  | refl => exact ⟨hsound, hf⟩
  | tail _ hkeeps ih =>
    exact ⟨hkeeps.change.sound ih.1, hkeeps.follows ih.1.power ih.2⟩

theorem terms_of_changes (h : Relation.ReflTransGen (KeepsSnapshot voter epoch) e e') :
    (e'.commitments.snapshot? voter epoch).map Snapshot.terms =
      (e.commitments.snapshot? voter epoch).map Snapshot.terms := by
  induction h with
  | refl => rfl
  | tail _ hkeeps ih => exact hkeeps.terms.trans ih

/-- Nothing is allocated from a snapshot that was just taken. -/
theorem follows_of_put {s : Snapshot} (hsound : e.PowerSound)
    (hzero : e.commitments.allocated voter epoch = 0)
    (hkey : s.voter = voter ∧ s.epoch = epoch)
    (hseqno : s.weightChangeSeqno = e.weights.seqno voter)
    (hclosed : ∀ gauge, s.closedAllocation? gauge = none) :
    ({ e with commitments := e.commitments.putSnapshot s } : Engine).Follows e.weights voter
      epoch := by
  have hnew : (e.commitments.putSnapshot s).snapshot? voter epoch = some s := by
    rw [snapshot?_insert rfl, if_pos hkey]
  have hnone (gauge : Address) :
      (e.commitments.putSnapshot s).allocation? voter gauge epoch = none := by
    have hvote : e.commitments.vote? voter gauge epoch = none := by
      have hallocation := hsound.consistent.allocation?_eq_none hzero gauge
      unfold allocation? at hallocation
      cases hx : e.commitments.vote? voter gauge epoch with
      | none => rfl
      | some x =>
        rw [hx] at hallocation
        cases hallocation
    have hsame : (e.commitments.putSnapshot s).vote? voter gauge epoch =
        e.commitments.vote? voter gauge epoch :=
      rfl
    unfold allocation?
    rw [hsame, hvote, hnew]
    exact hclosed gauge
  refine ⟨fun t ht => ?_, fun t _ gauge a ha => ?_, Nat.le_refl _, fun _ => ⟨fun _ => rfl, rfl⟩⟩
  · cases hnew.symm.trans ht
    exact hseqno
  · cases (hnone gauge).symm.trans ha

end Engine

/-! ## Calls that take snapshots -/

namespace Deployment

open Engine EpochVoting.Action

variable {d d' : Deployment} {voter : Address} {epoch : Epoch}

/-- The operation takes the voter's snapshot of the current epoch, for the first time or
anew. -/
def TakesSnapshot (voter : Address) (d : Deployment) : Operation → Prop
  | .takeSnapshot v | .voteEpoch v _ =>
    v = voter ∧ ∃ d', (takeSnapshot voter).run d = .ok true d'
  | .resetSnapshot v => v = voter ∧ ∃ d', (resetSnapshot voter).run d = .ok () d'
  | _ => False

/-- A first snapshot is a new one without allocations. -/
theorem takeSnapshot_cases {taken : Bool} (h : (takeSnapshot voter).run d = .ok taken d') :
    taken = false ∧ d' = d ∨
      taken = true ∧ d.engine.commitments.snapshot? voter d.engine.currentEpoch = none ∧
        ∃ power, d' = { d with engine := { d.engine with
          commitments := d.engine.commitments.putSnapshot
            (.fresh voter d.engine.currentEpoch power (d.engine.weights.seqno voter)) } } := by
  obtain ⟨e, hcall, rfl⟩ := run_onEngine_eq_ok_iff.mp h
  unfold Engine.takeSnapshot at hcall
  by_cases hsome :
      (d.engine.commitments.snapshot? voter d.engine.currentEpoch).isSome = true
  · rw [if_pos hsome] at hcall
    cases hcall
    exact Or.inl ⟨rfl, rfl⟩
  · rw [if_neg hsome] at hcall
    obtain ⟨power, -, heq⟩ := bind_eq_ok_iff.mp hcall
    have hnone := Option.not_isSome_iff_eq_none.mp hsome
    rw [Commitments.takeSnapshot_of_none hnone] at heq
    cases heq
    exact Or.inr ⟨rfl, hnone, power, rfl⟩

/-- A snapshot is taken anew as long as nothing is committed from it. -/
theorem resetSnapshot_eq_ok {u : Unit} (h : (resetSnapshot voter).run d = .ok u d') :
    ∃ s power, d.engine.commitments.snapshot? voter d.engine.currentEpoch = some s ∧
      s.allocatedPower = 0 ∧ d' = { d with engine := { d.engine with
        commitments := d.engine.commitments.putSnapshot { s with
          votingPower := power
          weightChangeSeqno := d.engine.weights.seqno voter } } } := by
  obtain ⟨e, hcall, rfl⟩ := run_changeEngine_eq_ok_iff.mp h
  obtain ⟨power, -, hpower⟩ := bind_eq_ok_iff.mp hcall
  obtain ⟨commitments, hreset, heq⟩ := bind_eq_ok_iff.mp hpower
  cases heq
  obtain ⟨s, hs, hzero, rfl⟩ := Commitments.resetSnapshot_eq_ok_iff.mp hreset
  exact ⟨s, power, hs, hzero, rfl⟩

/-- Calls that do not take snapshots leave of all snapshots what neither a commitment nor,
if it is a claim on fees, a claim writes. -/
theorem Step.snapshot?_map {operation : Operation} {reply : Reply} {β : Type}
    (f : Snapshot → β) (h : Step d operation reply d')
    (htake : ∀ v, operation ≠ .takeSnapshot v) (hreset : ∀ v, operation ≠ .resetSnapshot v)
    (hallocated : ∀ s allocatedPower closedPower closedAllocations,
      f { s with allocatedPower, closedPower, closedAllocations } = f s)
    (hclaimed : (∀ authority v target n side, operation ≠ .claimFee authority v target n side) ∨
      ∀ s feeClaims, f { s with feeClaims } = f s) (voter : Address) (epoch : Epoch) :
    (d'.engine.commitments.snapshot? voter epoch).map f =
      (d.engine.commitments.snapshot? voter epoch).map f := by
  -- A snapshot that was there is replaced by one of which `f` says the same.
  have hput {c : Commitments} {s s' : Snapshot} {v : Address} {n : Epoch}
      (hs : d.engine.commitments.snapshot? v n = some s)
      (hwrite : c.snapshots = d.engine.commitments.snapshots.insert s')
      (hkey : s'.voter = s.voter ∧ s'.epoch = s.epoch) (hsame : f s' = f s) :
      (c.snapshot? voter epoch).map f = (d.engine.commitments.snapshot? voter epoch).map f := by
    refine Commitments.snapshot?_map_insert f hwrite ?_ hsame voter epoch
    rw [hkey.1, hkey.2]
    exact Commitments.snapshot?_self hs
  have hwritten := h.epochWrite
  generalize d'.engine.commitments = c at hwritten ⊢
  cases hwritten with
  | nothing | captured | cleaned => rfl
  | taken => exact absurd rfl (htake _)
  | reset => exact absurd rfl (hreset _)
  | @committed r s x gaugeTotal voterTotal _ _ _ hs =>
    exact hput hs rfl ⟨rfl, rfl⟩ (hallocated s ..)
  | @reverted _ _ r s x gaugeTotal voterTotal _ _ _ hs =>
    exact hput hs rfl ⟨rfl, rfl⟩ (hallocated s ..)
  | @closed _ r s x gaugeClosed voterClosed _ _ _ hs =>
    exact hput hs rfl ⟨rfl, rfl⟩ (hallocated s ..)
  | @claimed _ _ _ _ _ s hs =>
    rcases hclaimed with hnever | hclaimed
    · exact absurd rfl (hnever _ _ _ _ _)
    · exact hput hs rfl ⟨rfl, rfl⟩ (hclaimed s _)

/-- An operation that does not take the snapshot leaves its terms as they are. -/
theorem terms_after {operation : Operation} (hbasic : operation.isBasic = true)
    (hnot : ¬ (d.engine.currentEpoch = epoch ∧ d.TakesSnapshot voter operation)) :
    ((d.after operation).engine.commitments.snapshot? voter epoch).map Snapshot.terms =
      (d.engine.commitments.snapshot? voter epoch).map Snapshot.terms := by
  -- A snapshot that is written for another voter or epoch.
  have hother {s : Snapshot} (hkey : ¬ (s.voter = voter ∧ s.epoch = epoch)) :
      (d.engine.commitments.putSnapshot s).snapshot? voter epoch =
        d.engine.commitments.snapshot? voter epoch :=
    (Commitments.snapshot?_insert rfl voter epoch).trans (if_neg hkey)
  cases operation with
  | takeSnapshot v =>
    have hleaves : d.after (.takeSnapshot v) = (takeSnapshot v).leaves d := by
      rw [after_eq_leaves, perform, leaves_map]
    rw [hleaves]
    cases hrun : (takeSnapshot v).run d with
    | error error d' =>
      have hsame : (takeSnapshot v).leaves d = d := leaves_of_error (atomic_onEngine _) hrun
      rw [hsame]
    | ok taken d' =>
      rw [leaves_of_ok hrun]
      rcases takeSnapshot_cases hrun with ⟨-, rfl⟩ | ⟨rfl, hnone, power, rfl⟩
      · rfl
      · refine congrArg _ (hother ?_)
        rintro ⟨rfl, hepoch⟩
        exact hnot ⟨hepoch, rfl, _, hrun⟩
  | resetSnapshot v =>
    have hleaves : d.after (.resetSnapshot v) = (resetSnapshot v).leaves d := by
      rw [after_eq_leaves, perform, leaves_bind_pure]
    rw [hleaves]
    cases hrun : (resetSnapshot v).run d with
    | error error d' =>
      have hsame : (resetSnapshot v).leaves d = d := leaves_of_error (atomic_changeEngine _) hrun
      rw [hsame]
    | ok u d' =>
      rw [leaves_of_ok hrun]
      obtain ⟨s, power, hs, -, rfl⟩ := resetSnapshot_eq_ok hrun
      obtain ⟨hvoter, hepoch⟩ := Commitments.key_of_snapshot? hs
      refine congrArg _ (hother ?_)
      rintro ⟨hsame, hnow⟩
      obtain rfl := hvoter.symm.trans hsame
      exact hnot ⟨hepoch.symm.trans hnow, rfl, _, hrun⟩
  | _ =>
    rcases engine_after_cases (d := d) hbasic with hsame | ⟨_, hstep⟩
    · rw [hsame]
    · exact hstep.snapshot?_map Snapshot.terms (by simp) (by simp) (fun _ _ _ _ => rfl)
        (Or.inr fun _ _ => rfl) voter epoch

/-- The changes of an operation that does not take the snapshot keep its terms. -/
theorem keepsSnapshot_after {operation : Operation} (hbasic : operation.isBasic = true)
    (hnot : ¬ (d.engine.currentEpoch = epoch ∧ d.TakesSnapshot voter operation)) :
    Relation.ReflTransGen (KeepsSnapshot voter epoch) d.engine (d.after operation).engine := by
  rcases change_of_after (d := d) hbasic with hsame | hchange
  · rw [hsame]
  · exact .single ⟨hchange, terms_after hbasic hnot⟩

/-- Basic operations none of which takes a snapshot. -/
theorem keepsSnapshot_afterAll {parts : List Operation}
    (hparts : ∀ part ∈ parts, part.isBasic = true ∧
      ∀ d : Deployment, ¬ d.TakesSnapshot voter part) (d : Deployment) (epoch : Epoch) :
    Relation.ReflTransGen (KeepsSnapshot voter epoch) d.engine (d.afterAll parts).engine := by
  induction parts generalizing d with
  | nil => exact .refl
  | cons part rest ih =>
    obtain ⟨hbasic, hnever⟩ := hparts part List.mem_cons_self
    exact (keepsSnapshot_after hbasic fun htakes => hnever d htakes.2).trans
      (ih (fun p hp => hparts p (List.mem_cons_of_mem part hp)) (d.after part))

/-- Creating records and committing takes no snapshot. -/
theorem keepsSnapshot_toCommit {v : Address} {gauges : List Address} {parts : List Operation}
    (hparts : ∀ part ∈ parts, Operation.MakesToCommit v gauges part) (d : Deployment)
    (voter : Address) (epoch : Epoch) :
    Relation.ReflTransGen (KeepsSnapshot voter epoch) d.engine (d.afterAll parts).engine := by
  refine keepsSnapshot_afterAll (fun part hpart => ?_) d epoch
  cases hparts part hpart with
  | record => exact ⟨rfl, fun _ => id⟩
  | commit => exact ⟨rfl, fun _ => id⟩

/-- An operation that does not take the voter's snapshot of the epoch makes only changes
that keep the terms of that snapshot. -/
theorem keepsSnapshot_of_not_taken {operation : Operation}
    (hnot : ¬ (d.engine.currentEpoch = epoch ∧ d.TakesSnapshot voter operation)) :
    Relation.ReflTransGen (KeepsSnapshot voter epoch) d.engine (d.after operation).engine := by
  by_cases hbasic : operation.isBasic = true
  · exact keepsSnapshot_after hbasic hnot
  cases operation with
  | nextEpoch =>
    obtain ⟨parts, hparts, hlast⟩ :=
      after_made (show Operation.nextEpoch.isBasic = false from rfl) d
    rw [hlast]
    refine keepsSnapshot_afterAll (fun part hpart => ?_) d epoch
    cases hparts part hpart with
    | wait => exact ⟨rfl, fun _ => id⟩
    | advance => exact ⟨rfl, fun _ => id⟩
  | addGauge target mints =>
    obtain ⟨parts, hparts, hlast⟩ :=
      after_made (show (Operation.addGauge target mints).isBasic = false from rfl) d
    rw [hlast]
    refine keepsSnapshot_afterAll (fun part hpart => ?_) d epoch
    cases hparts part hpart with
    | create => exact ⟨rfl, fun _ => id⟩
    | enable => exact ⟨rfl, fun _ => id⟩
  | voteEpoch v gauges =>
    obtain ⟨parts, hparts, hlast⟩ := after_voteEpoch d v gauges
    rw [hlast]
    -- The snapshot comes first; what is committed after it takes none.
    have hbasic : (Operation.takeSnapshot v).isBasic = true := rfl
    exact (keepsSnapshot_after hbasic hnot).trans
      (keepsSnapshot_toCommit hparts _ voter epoch)
  | _ => exact absurd rfl hbasic

/-- What is allocated from a snapshot follows the weights under which it was taken. -/
theorem follows_of_taken {operation : Operation} (hsound : d.engine.Sound)
    (htaken : d.TakesSnapshot voter operation) :
    (d.after operation).engine.Follows d.engine.weights voter d.engine.currentEpoch := by
  have hfirst (htaken : ∃ d', (takeSnapshot voter).run d = .ok true d') :
      (d.after (.takeSnapshot voter)).engine.Follows d.engine.weights voter
        d.engine.currentEpoch := by
    obtain ⟨d', hrun⟩ := htaken
    have hleaves : d.after (.takeSnapshot voter) = d' := by
      rw [after_eq_leaves, perform, leaves_map, leaves_of_ok hrun]
    rw [hleaves]
    rcases takeSnapshot_cases hrun with ⟨hfalse, -⟩ | ⟨-, hnone, power, rfl⟩
    · cases hfalse
    · refine follows_of_put hsound.power ?_ ⟨rfl, rfl⟩ rfl fun _ => rfl
      unfold Commitments.allocated
      rw [hnone]
      rfl
  cases operation with
  | takeSnapshot v =>
    obtain ⟨rfl, htaken⟩ := htaken
    exact hfirst htaken
  | voteEpoch v gauges =>
    obtain ⟨rfl, htaken⟩ := htaken
    obtain ⟨parts, hparts, hlast⟩ := after_voteEpoch d v gauges
    rw [hlast]
    have hsnapshot := Engine.sound_of_changes (changes_of_afterAll [.takeSnapshot v] d) hsound
    exact (follows_of_changes (keepsSnapshot_toCommit hparts _ v _) hsnapshot (hfirst htaken)).2
  | resetSnapshot v =>
    obtain ⟨rfl, d', hrun⟩ := htaken
    have hleaves : d.after (.resetSnapshot v) = d' := by
      rw [after_eq_leaves, perform, leaves_bind_pure, leaves_of_ok hrun]
    rw [hleaves]
    obtain ⟨s, power, hs, hzero, rfl⟩ := resetSnapshot_eq_ok hrun
    have hallocated : d.engine.commitments.allocated v d.engine.currentEpoch = 0 := by
      rw [Commitments.allocated_of_snapshot? hs, hzero]
      rfl
    have hkey := Commitments.key_of_snapshot? hs
    refine follows_of_put hsound.power hallocated ?_ ?_ ?_
    · exact hkey
    · rfl
    -- Nothing is closed in the current epoch.
    intro gauge
    have hepoch := hkey.2
    have hempty := (hsound.power.consistent.snapshot_sound hs).closed_elapsed
      (hepoch ▸ UInt32.lt_irrefl _)
    unfold Snapshot.closedAllocation?
    rw [hempty]
    rfl
  | _ => exact htaken.elim

/-! ## The history of a snapshot -/

/-- The run is made of `before`, an operation that takes the voter's snapshot of the
epoch, and `after`, in which it is not taken again. -/
structure LastSnapshot (voter : Address) (epoch : Epoch) (d : Deployment)
    (before : List Operation) (operation : Operation) (after : List Operation) : Prop where
  epoch_eq : (d.afterAll before).engine.currentEpoch = epoch
  taken : (d.afterAll before).TakesSnapshot voter operation
  last : ¬ (d.afterAll (before ++ [operation])).Occurs
    (fun d operation => d.engine.currentEpoch = epoch ∧ d.TakesSnapshot voter operation) after

/-- Every snapshot was taken once for the last time, and what is allocated from it follows
the weights that the voter had then. -/
theorem exists_lastSnapshot {foreman : Address} {params : FactoryParams}
    {maxLockSecs : UInt64} (hcreate : create foreman params maxLockSecs = .ok d)
    (run : List Operation)
    (hs : (d.afterAll run).engine.commitments.snapshot? voter epoch ≠ none) :
    ∃ before operation after, run = before ++ operation :: after ∧
      d.LastSnapshot voter epoch before operation after ∧
      (d.afterAll run).engine.Follows (d.afterAll before).engine.weights voter epoch := by
  induction run using List.reverseRecOn with
  | nil =>
    obtain ⟨engine, hengine, heq⟩ := bind_eq_ok_iff.mp hcreate
    cases heq
    obtain ⟨factory, -, heq⟩ := bind_eq_ok_iff.mp hengine
    cases heq
    exact absurd rfl hs
  | append_singleton done operation ih =>
    have hsound := sound_afterAll hcreate done
    have hstep : d.afterAll (done ++ [operation]) = (d.afterAll done).after operation :=
      afterAll_append d done [operation]
    by_cases htaken : (d.afterAll done).engine.currentEpoch = epoch ∧
        (d.afterAll done).TakesSnapshot voter operation
    · obtain ⟨rfl, htaken⟩ := htaken
      refine ⟨done, operation, [], rfl, ⟨rfl, htaken, id⟩, ?_⟩
      rw [hstep]
      exact follows_of_taken hsound htaken
    · have hkept := keepsSnapshot_of_not_taken htaken
      have hterms := terms_of_changes hkept
      rw [hstep] at hs
      have hbefore : (d.afterAll done).engine.commitments.snapshot? voter epoch ≠ none := by
        intro hnone
        rw [hnone, Option.map_none, Option.map_eq_none_iff] at hterms
        exact hs hterms
      obtain ⟨before, op, after, rfl, hlast, hfollows⟩ := ih hbefore
      refine ⟨before, op, after ++ [operation], by simp, ⟨hlast.epoch_eq, hlast.taken, ?_⟩, ?_⟩
      · rw [occurs_append_singleton, ← afterAll_append]
        rintro (hagain | hagain)
        · exact hlast.last hagain
        · refine htaken ?_
          simpa using hagain
      · rw [hstep]
        exact (follows_of_changes hkept hsound hfollows).2

/-! ## Stale weights -/

end Deployment

/-- A commitment that could be made is refused for stale weights exactly if the snapshot
was taken under another sequence number. -/
theorem Commitments.commit_stale_iff {c : Commitments} {voter : Address} {g : Gauge}
    {epoch : Epoch} {s : Snapshot} (weight : UInt32) (totalWeight seqno : UInt64)
    (henabled : g.enabled = true) (hnone : c.vote? voter g.target epoch = none)
    (hs : c.snapshot? voter epoch = some s) :
    (∃ stale present, c.commit voter g epoch weight totalWeight seqno =
      .error (.staleWeights stale present)) ↔ s.weightChangeSeqno ≠ seqno := by
  unfold commit Gauge.requireEnabled snapshot epochGauge
  simp only [bind_eq_error_iff, require_eq_error_iff, require_passes_iff, demand_eq_error_iff,
    demand_eq_ok_iff, hnone, henabled, hs, Option.isNone_none, Option.some.injEq, exists_eq_left',
    reduceCtorEq, and_false, false_or, true_and, exists_const, beq_eq_false_iff_ne, beq_iff_eq,
    VotingError.staleWeights.injEq]
  constructor
  · rintro ⟨stale, present, ⟨hne, -⟩ | ⟨-, r, -, amount, -, hrest⟩⟩
    · exact hne
    · -- After that check no step fails with this error.
      split at hrest
      · cases hrest
      · simp [bind_eq_error_iff, demand_eq_error_iff, pure, Except.pure] at hrest
  · intro hne
    exact ⟨_, _, Or.inl ⟨hne, rfl, rfl⟩⟩

namespace Deployment

open EpochVoting.Action

variable {d : Deployment} {voter gauge : Address}

/-- A call to commit, likewise. -/
theorem commit_stale_iff {g : Gauge} {s : Snapshot}
    (hgauge : d.engine.registry.gauges.find? gauge = some g) (henabled : g.enabled = true)
    (hnone : d.engine.commitments.vote? voter gauge d.engine.currentEpoch = none)
    (hs : d.engine.commitments.snapshot? voter d.engine.currentEpoch = some s) :
    (∃ stale present d', (commit voter gauge).run d = .error (.staleWeights stale present) d') ↔
      s.weightChangeSeqno ≠ d.engine.weights.seqno voter := by
  obtain rfl := Registry.target_of_find? hgauge
  have hfound : d.engine.registry.get g.target = .ok g := Registry.get_eq_ok_iff.mpr hgauge
  rw [← Commitments.commit_stale_iff (d.engine.weights.weight voter g.target)
    (d.engine.weights.totalWeight voter) (d.engine.weights.seqno voter) henabled hnone hs]
  simp only [commit, run_onEngine_eq_error_iff, Engine.commit, bind_eq_error_iff, hfound,
    reduceCtorEq, false_or, Except.ok.injEq, exists_eq_left', pure, Except.pure, and_false,
    exists_false, or_false, exists_and_left, exists_eq, and_true]

/-- Setting weights and taking snapshots are different operations. -/
theorem TakesSnapshot.weights_not_written {operation : Operation}
    (h : d.TakesSnapshot voter operation) : Book.weights ∉ operation.writes := by
  cases operation with
  | takeSnapshot | voteEpoch | resetSnapshot => simp [Operation.writes]
  | _ => exact h.elim

/-- Of the voter's snapshot of an epoch there was a last time that it was taken, and all
that is allocated from it, live or closed, follows the weights that the voter had then.
While the epoch lasts, a further commitment is refused for stale weights exactly if the
voter has set a weight since. -/
theorem allocations_follow_snapshot {foreman : Address} {params : FactoryParams}
    {maxLockSecs : UInt64} (hcreate : create foreman params maxLockSecs = .ok d)
    (run : List Operation) {epoch : Epoch} {s : Snapshot}
    (hs : (d.afterAll run).engine.commitments.snapshot? voter epoch = some s) :
    ∃ before operation after, run = before ++ operation :: after ∧
      d.LastSnapshot voter epoch before operation after ∧
      (∀ gauge a, (d.afterAll run).engine.commitments.allocation? voter gauge epoch = some a →
        0 < a.toNat ∧ a.toNat = s.votingPower.toNat *
          ((d.afterAll before).engine.weights.weight voter gauge).toNat /
            ((d.afterAll before).engine.weights.totalWeight voter).toNat) ∧
      (d.afterAll run).engine.commitments.liveOf voter epoch +
        (d.afterAll run).engine.commitments.closedOf voter epoch ≤ s.votingPower.toNat ∧
      ∀ gauge g, (d.afterAll run).engine.currentEpoch = epoch →
        (d.afterAll run).engine.registry.gauges.find? gauge = some g → g.enabled = true →
        (d.afterAll run).engine.commitments.vote? voter gauge epoch = none →
        ((∃ stale present d', (commit voter gauge).run (d.afterAll run) =
            .error (.staleWeights stale present) d') ↔
          (d.afterAll (before ++ [operation])).Occurs (SetsWeight voter) after) := by
  have hconsistent := (sound_afterAll hcreate run).power.consistent
  obtain ⟨before, operation, after, hrun, hlast, hfollows⟩ :=
    exists_lastSnapshot hcreate run (hs ▸ Option.some_ne_none s)
  refine ⟨before, operation, after, hrun, hlast, fun gauge a ha => ?_, ?_, ?_⟩
  · obtain ⟨hne, hshare⟩ := hfollows.shares s hs gauge a ha
    exact ⟨Nat.pos_of_ne_zero fun hzero => hne (UInt64.toNat_inj.mp hzero), hshare⟩
  · rw [← hconsistent.allocated_eq, Commitments.allocated_of_snapshot? hs]
    exact (hconsistent.snapshot_sound hs).allocated_le
  · intro gauge g hepoch hgauge henabled hnone
    subst hepoch
    rw [commit_stale_iff hgauge henabled hnone hs, hfollows.seqno s hs]
    -- The snapshot's number is the voter's after the call that took it.
    have htaken : (d.afterAll (before ++ [operation])).engine.weights =
        (d.afterAll before).engine.weights := by
      rw [afterAll_append]
      exact frame _ operation .weights hlast.taken.weights_not_written
    have hcounted := seqno_afterAll_eq_iff after (d.afterAll (before ++ [operation])) voter
    rw [← afterAll_append, htaken, List.append_assoc, List.singleton_append, ← hrun] at hcounted
    rw [ne_comm, ne_eq, hcounted, not_not]

end Deployment

namespace Sample

/-- The sample run up to the votes, and then a snapshot that a new weight makes stale. -/
def staleRun : List Operation :=
  run.take 6 ++ [.takeSnapshot (account 4), .setVote none (account 4) (account 1) 9]

open Deployment in
/-- The commitment is refused, and a weight was set after the snapshot. -/
theorem staleRun_follows_snapshot :
    ∃ before operation after, staleRun = before ++ operation :: after ∧
      deployment.LastSnapshot (account 4) 1 before operation after ∧
      (∃ stale present d', (commit (account 4) (account 1)).run (deployment.afterAll staleRun) =
        .error (.staleWeights stale present) d') ∧
      (deployment.afterAll (before ++ [operation])).Occurs (SetsWeight (account 4)) after := by
  have hstate : ((deployment.afterAll staleRun).engine.commitments.snapshot?
        (account 4) 1).isSome = true ∧
      ((deployment.afterAll staleRun).engine.registry.gauges.find?
        (account 1)).any Gauge.enabled = true ∧
      (deployment.afterAll staleRun).engine.currentEpoch = 1 ∧
      (deployment.afterAll staleRun).engine.commitments.vote? (account 4) (account 1) 1 = none ∧
      ((commit (account 4) (account 1)).run (deployment.afterAll staleRun) matches
        .error (.staleWeights _ _) _) = true := by
    decide +kernel
  obtain ⟨htaken, hgauge, hepoch, hnone, hrefused⟩ := hstate
  obtain ⟨s, hs⟩ := Option.isSome_iff_exists.mp htaken
  obtain ⟨g, hg, henabled⟩ := (Option.any_eq_true _ _).mp hgauge
  obtain ⟨before, operation, after, hrun, hlast, -, -, hstale⟩ :=
    allocations_follow_snapshot create_deployment staleRun hs
  split at hrefused
  case h_2 => cases hrefused
  case h_1 stale present d' hcommit =>
    refine ⟨before, operation, after, hrun, hlast, ⟨stale, present, d', hcommit⟩, ?_⟩
    exact (hstale (account 1) g hepoch hg henabled hnone).mp ⟨stale, present, d', hcommit⟩

end Sample
end EpochVoting
