import EpochVoting.Proofs.GuardedCalls
import EpochVoting.Proofs.Links
import EpochVoting.Proofs.Swept

/-!
# What a voter's calls depend on

The calls in which a voter sets weights, takes a snapshot, commits power and takes it back
look at the voter's own weights, snapshots and votes only, and at the gauges' records.  Of a
record they do not mind the power, which the voters share, as long as there is room for the
voter's own.  So between engines that are the same for the voter (`Engine.SameFor`) such a
call has the same answer and leaves engines that are the same for the voter again; and the
calls of others make no difference to the voter (`sameFor_addVote` and the like).
-/

namespace EpochVoting

/-! ## Weights -/

namespace WeightBook

variable {b b' b'' : WeightBook} {voter other gauge : Address}

theorem SameOf.refl (voter : Address) (b : WeightBook) : b.SameOf voter b :=
  ⟨rfl, fun _ => rfl⟩

theorem SameOf.symm (h : b.SameOf voter b') : b'.SameOf voter b :=
  ⟨h.1.symm, fun gauge => (h.2 gauge).symm⟩

theorem SameOf.trans (h : b.SameOf voter b') (h' : b'.SameOf voter b'') : b.SameOf voter b'' :=
  ⟨h'.1.trans h.1, fun gauge => (h'.2 gauge).trans (h.2 gauge)⟩

theorem SameOf.weight_eq (h : b.SameOf voter b') (gauge : Address) :
    b'.weight voter gauge = b.weight voter gauge := by
  rw [WeightBook.weight, WeightBook.weight, h.2 gauge]

theorem SameOf.totalWeight_eq (h : b.SameOf voter b') :
    b'.totalWeight voter = b.totalWeight voter := by
  rw [totalWeight, totalWeight, h.1]

theorem SameOf.seqno_eq (h : b.SameOf voter b') : b'.seqno voter = b.seqno voter := by
  rw [WeightBook.seqno, WeightBook.seqno, h.1]

theorem SameOf.write (h : b.SameOf voter b') (gauge : Address) (weight : UInt32)
    (total seqno : UInt64) : (b.write voter gauge weight total seqno).SameOf voter
      (b'.write voter gauge weight total seqno) := by
  refine ⟨?_, fun target => ?_⟩
  · simp [WeightBook.write, Table.find?_insert_ite, Keyed.key]
  · simp only [WeightBook.write, Table.find?_insert_ite, h.2 target]

theorem sameOf_write (hother : other ≠ voter) (weight : UInt32) (total seqno : UInt64) :
    b.SameOf voter (b.write other gauge weight total seqno) := by
  simp [SameOf, WeightBook.write, Table.find?_insert_ite, Keyed.key, hother]

/-- Books that are the same for every voter are the same. -/
theorem eq_of_sameOf (h : ∀ voter, b.SameOf voter b') : b' = b := by
  have hbooks : b'.books = b.books := Table.ext fun voter => (h voter).1
  have hweights : b'.weights = b.weights := Table.ext fun k => (h k.1).2 k.2
  cases b
  cases b'
  cases hbooks
  cases hweights
  rfl

/-- A weight change looks at the voter's own weights. -/
theorem SameOf.setVote (h : b.SameOf voter b') (g : Gauge) (weight : UInt32) :
    Agree (fun p p' => p.1 = p'.1 ∧ p.2.SameOf voter p'.2) (b.setVote voter g weight)
      (b'.setVote voter g weight) := by
  unfold WeightBook.setVote
  rw [h.weight_eq, h.totalWeight_eq, h.seqno_eq]
  exact agree_check_bind _ fun _ _ => agree_check_bind _ fun others _ =>
    agree_check_bind _ fun total _ => agree_check_bind _ fun seqno _ =>
      .ok ⟨rfl, h.write g.target weight total seqno⟩

/-- A part in proportion to one weight is no more than the whole. -/
theorem Balanced.share_le (h : b.Balanced) (voter gauge : Address) (power : Nat) :
    power * (b.weight voter gauge).toNat / (b.totalWeight voter).toNat ≤ power := by
  cases hw : b.weights.find? (voter, gauge) with
  | none => simp [WeightBook.weight, hw]
  | some w =>
    have hvoter : w.voter = voter := (Prod.mk.inj (Table.key_of_find? hw)).1
    have hle := (Table.le_total_of_mem (Table.mem_of_find? hw)).trans (h.shares_le voter power)
    simpa [WeightBook.weight, hw, hvoter] using hle

end WeightBook

/-! ## Records of epochs -/

/-- A record without its power. -/
def EpochGauge.unpowered (r : EpochGauge) : EpochGauge :=
  { r with totalPower := 0 }

theorem EpochGauge.ext_unpowered {r r' : EpochGauge} (h : r'.unpowered = r.unpowered)
    (hpower : r'.totalPower = r.totalPower) : r' = r := by
  cases r
  cases r'
  cases hpower
  simpa [unpowered] using h

namespace Commitments

variable {c c' c'' : Commitments} {voter gauge : Address} {epoch now : Epoch}
  {r r' : EpochGauge} {s : Snapshot} {x : EpochVote}
  {gaugeTotal gaugeTotal' voterTotal power seqno : UInt64}

/-- The same for the voter: the voter's snapshots and votes, and all gauges' records but for
their power. -/
structure SameFor (voter : Address) (c c' : Commitments) : Prop where
  gauges : ∀ gauge epoch, (c'.epochGauge? gauge epoch).map EpochGauge.unpowered =
    (c.epochGauge? gauge epoch).map EpochGauge.unpowered
  snapshots : c.snapshots.SameOn (fun k => k.1 = voter) c'.snapshots
  votes : c.votes.SameOn (fun k => k.1 = voter) c'.votes

/-- A record that was replaced by one with another power. -/
theorem unpowered_insert (h : c'.epochGauges = c.epochGauges.insert { r with
      totalPower := gaugeTotal })
    (hr : c.epochGauge? r.gauge r.epoch = some r) (gauge : Address) (epoch : Epoch) :
    (c'.epochGauge? gauge epoch).map EpochGauge.unpowered =
      (c.epochGauge? gauge epoch).map EpochGauge.unpowered := by
  rw [epochGauge?_insert h]
  by_cases hkey : r.gauge = gauge ∧ r.epoch = epoch
  · obtain ⟨rfl, rfl⟩ := hkey
    simp [hr, EpochGauge.unpowered]
  · simp [hkey]

theorem SameFor.refl (voter : Address) (c : Commitments) : c.SameFor voter c :=
  ⟨fun _ _ => rfl, .refl _ _, .refl _ _⟩

theorem SameFor.symm (h : c.SameFor voter c') : c'.SameFor voter c :=
  ⟨fun gauge epoch => (h.gauges gauge epoch).symm, h.snapshots.symm, h.votes.symm⟩

theorem SameFor.trans (h : c.SameFor voter c') (h' : c'.SameFor voter c'') :
    c.SameFor voter c'' :=
  ⟨fun gauge epoch => (h'.gauges gauge epoch).trans (h.gauges gauge epoch),
    h.snapshots.trans h'.snapshots, h.votes.trans h'.votes⟩

/-- Records that are the same for every voter are the same: the power of a gauge is what the
voters have allocated to it. -/
theorem eq_of_sameFor (h : ∀ voter, c.SameFor voter c') (hc : c.Consistent now)
    (hc' : c'.Consistent now) : c' = c := by
  have hsnapshots : c'.snapshots = c.snapshots := Table.ext fun k => (h k.1).snapshots k rfl
  have hvotes : c'.votes = c.votes := Table.ext fun k => (h k.1).votes k rfl
  have hpower (gauge : Address) (epoch : Epoch) : c'.power gauge epoch = c.power gauge epoch := by
    rw [hc.power_eq, hc'.power_eq, liveOn, liveOn, closedOn, closedOn, hvotes, hsnapshots]
  have hgauges : c'.epochGauges = c.epochGauges := by
    refine Table.ext fun k => ?_
    have hsame : (c'.epochGauge? k.1 k.2).map _ = (c.epochGauge? k.1 k.2).map _ :=
      (h k.1).gauges k.1 k.2
    show c'.epochGauge? k.1 k.2 = c.epochGauge? k.1 k.2
    cases hr : c.epochGauge? k.1 k.2 with
    | none => simpa [hr] using hsame
    | some r =>
      rw [hr, Option.map_some] at hsame
      obtain ⟨r', hr', hunpowered⟩ := Option.map_eq_some_iff.mp hsame
      have heq := hpower k.1 k.2
      rw [power_of_epochGauge? hr, power_of_epochGauge? hr'] at heq
      rw [hr', EpochGauge.ext_unpowered hunpowered (UInt64.toNat_inj.mp heq)]
  cases c
  cases c'
  cases hsnapshots
  cases hvotes
  cases hgauges
  rfl

/-! ### Writes of others -/

theorem sameFor_putSnapshot (hother : s.voter ≠ voter) : c.SameFor voter (c.putSnapshot s) :=
  ⟨fun _ _ => rfl, Table.sameOn_insert hother, .refl _ _⟩

theorem sameFor_addVote (hr : c.epochGauge? r.gauge r.epoch = some r) (hs : s.voter ≠ voter)
    (hx : x.voter ≠ voter) : c.SameFor voter (c.addVote r s x gaugeTotal voterTotal) :=
  ⟨unpowered_insert rfl hr, Table.sameOn_insert hs, Table.sameOn_insert hx⟩

theorem sameFor_removeVote (hr : c.epochGauge? r.gauge r.epoch = some r) (hs : s.voter ≠ voter)
    (hx : x.voter ≠ voter) : c.SameFor voter (c.removeVote r s x gaugeTotal voterTotal) :=
  ⟨unpowered_insert rfl hr, Table.sameOn_insert hs, Table.sameOn_erase hx⟩

/-! ### Writes of the voter -/

theorem SameFor.putSnapshot (h : c.SameFor voter c') (s : Snapshot) :
    (c.putSnapshot s).SameFor voter (c'.putSnapshot s) :=
  ⟨h.gauges, h.snapshots.insert s, h.votes⟩

theorem SameFor.addVote (h : c.SameFor voter c') (hr : c.epochGauge? r.gauge r.epoch = some r)
    (hr' : c'.epochGauge? r'.gauge r'.epoch = some r') (s : Snapshot) (x : EpochVote) :
    (c.addVote r s x gaugeTotal voterTotal).SameFor voter
      (c'.addVote r' s x gaugeTotal' voterTotal) where
  gauges gauge epoch := (unpowered_insert rfl hr' gauge epoch).trans
    ((h.gauges gauge epoch).trans (unpowered_insert rfl hr gauge epoch).symm)
  snapshots := h.snapshots.insert _
  votes := h.votes.insert x

theorem SameFor.removeVote (h : c.SameFor voter c')
    (hr : c.epochGauge? r.gauge r.epoch = some r)
    (hr' : c'.epochGauge? r'.gauge r'.epoch = some r') (s : Snapshot) (x : EpochVote) :
    (c.removeVote r s x gaugeTotal voterTotal).SameFor voter
      (c'.removeVote r' s x gaugeTotal' voterTotal) where
  gauges gauge epoch := (unpowered_insert rfl hr' gauge epoch).trans
    ((h.gauges gauge epoch).trans (unpowered_insert rfl hr gauge epoch).symm)
  snapshots := h.snapshots.insert _
  votes := h.votes.erase _

/-! ### Calls of the voter -/

theorem SameFor.snapshot?_eq (h : c.SameFor voter c') (epoch : Epoch) :
    c'.snapshot? voter epoch = c.snapshot? voter epoch :=
  h.snapshots (voter, epoch) rfl

theorem SameFor.vote?_eq (h : c.SameFor voter c') (gauge : Address) (epoch : Epoch) :
    c'.vote? voter gauge epoch = c.vote? voter gauge epoch :=
  h.votes (voter, gauge, epoch) rfl

theorem SameFor.takeSnapshot (h : c.SameFor voter c') (epoch : Epoch) (power seqno : UInt64) :
    (c.takeSnapshot voter epoch power seqno).2.SameFor voter
      (c'.takeSnapshot voter epoch power seqno).2 := by
  unfold Commitments.takeSnapshot
  rw [h.snapshot?_eq]
  split
  · exact h
  · exact h.putSnapshot _

theorem SameFor.resetSnapshot (h : c.SameFor voter c') (epoch : Epoch) (power seqno : UInt64) :
    Agree (SameFor voter) (c.resetSnapshot voter epoch power seqno)
      (c'.resetSnapshot voter epoch power seqno) := by
  unfold Commitments.resetSnapshot Commitments.snapshot
  rw [h.snapshot?_eq]
  exact agree_check_bind _ fun s _ => agree_check_bind _ fun _ _ => .ok (h.putSnapshot _)

/-- A voter who has not committed to the gauge yet can do so: there is room for all the
power that the voter has. -/
def HasRoom (c : Commitments) (voter gauge : Address) (epoch : Epoch) : Prop :=
  c.vote? voter gauge epoch = none → ∀ s, c.snapshot? voter epoch = some s →
    c.power gauge epoch + s.votingPower.toNat < 2 ^ 64

theorem HasRoom.add?_succeeds (h : c.HasRoom voter gauge epoch)
    (hnone : c.vote? voter gauge epoch = none) (hs : c.snapshot? voter epoch = some s)
    (hr : c.epochGauge? gauge epoch = some r) {allocated : UInt64}
    (hle : allocated.toNat ≤ s.votingPower.toNat) :
    ∃ total, Amount.add? r.totalPower allocated = some total := by
  have hroom := h hnone s hs
  rw [power_of_epochGauge? hr] at hroom
  exact Amount.add?_succeeds (by omega)

theorem SameFor.commit (h : c.SameFor voter c') {g : Gauge} {weight : UInt32}
    {total : UInt64} (hroom : c.HasRoom voter g.target epoch)
    (hroom' : c'.HasRoom voter g.target epoch)
    (hshare : ∀ power : Nat, power * weight.toNat / total.toNat ≤ power) (seqno : UInt64) :
    Agree (fun p p' => p.1 = p'.1 ∧ p.2.SameFor voter p'.2)
      (c.commit voter g epoch weight total seqno)
      (c'.commit voter g epoch weight total seqno) := by
  unfold Commitments.commit Commitments.snapshot Commitments.epochGauge
  have hvote := h.vote?_eq g.target epoch
  have hsnapshot := h.snapshot?_eq epoch
  rw [hvote, hsnapshot]
  refine agree_check_bind _ fun _ hfree => agree_check_bind _ fun _ _ =>
    agree_check_bind _ fun s hs => agree_check_bind _ fun _ _ =>
    (agree_demand_map (h.gauges g.target epoch) _).bind fun r r' hr =>
    agree_check_bind _ fun allocated hallocated => ?_
  obtain ⟨-, hr, hr'⟩ := hr
  split
  · exact .ok ⟨rfl, h⟩
  · have hnone : c.vote? voter g.target epoch = none :=
      Option.isNone_iff_eq_none.mp (require_eq_ok_iff.mp hfree)
    have hle : allocated.toNat ≤ s.votingPower.toNat := by
      rw [demand_eq_ok_iff, Amount.share?_eq_some_iff, UInt32.toNat_toUInt64] at hallocated
      rw [hallocated]
      exact hshare s.votingPower.toNat
    rw [demand_eq_ok_iff] at hs
    refine (agree_demand_some (hroom.add?_succeeds hnone hs hr hle)
      (hroom'.add?_succeeds (hvote.trans hnone) (hsnapshot.trans hs) hr' hle) _).bind
      fun _ _ _ => agree_check_bind _ fun voterTotal _ => .ok ⟨rfl, ?_⟩
    exact h.addVote (epochGauge?_self hr) (epochGauge?_self hr') s
      ⟨voter, g.target, epoch, allocated⟩

/-- The power of a gauge is that of its votes or more. -/
theorem Consistent.le_power (h : c.Consistent now) (hx : c.vote? voter gauge epoch = some x) :
    x.allocatedPower.toNat ≤ c.power gauge epoch := by
  obtain ⟨-, rfl, rfl⟩ := key_of_vote? hx
  have hle := le_liveOn (Table.mem_of_find? hx)
  have hpower := h.power_eq x.gauge x.epoch
  omega

theorem SameFor.revert (h : c.SameFor voter c') (hc : c.Consistent now)
    (hc' : c'.Consistent now) (gauge : Address) (epoch : Epoch) :
    Agree (fun p p' => p.1 = p'.1 ∧ p.2.SameFor voter p'.2) (c.revert voter gauge epoch)
      (c'.revert voter gauge epoch) := by
  unfold Commitments.revert Commitments.snapshot Commitments.epochGauge
  have hvote := h.vote?_eq gauge epoch
  rw [hvote, h.snapshot?_eq]
  refine agree_check_bind _ fun x hx =>
    (agree_demand_map (h.gauges gauge epoch) _).bind fun r r' hr =>
    agree_check_bind _ fun s _ => ?_
  obtain ⟨-, hr, hr'⟩ := hr
  rw [demand_eq_ok_iff] at hx
  have hle := hc.le_power hx
  have hle' := hc'.le_power (hvote.trans hx)
  rw [power_of_epochGauge? hr] at hle
  rw [power_of_epochGauge? hr'] at hle'
  refine (agree_demand_some (Amount.sub?_succeeds hle) (Amount.sub?_succeeds hle') _).bind
    fun gaugeTotal gaugeTotal' _ => agree_check_bind _ fun voterTotal _ => .ok ⟨rfl, ?_⟩
  have hremoved : (c.removeVote r s x gaugeTotal voterTotal).SameFor voter
      (c'.removeVote r' s x gaugeTotal' voterTotal) :=
    h.removeVote (epochGauge?_self hr) (epochGauge?_self hr') s x
  obtain ⟨rfl, rfl, rfl⟩ := key_of_vote? hx
  exact hremoved

end Commitments
end EpochVoting
