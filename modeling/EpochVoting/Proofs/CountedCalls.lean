import EpochVoting.Proofs.CountedVote
import EpochVoting.Proofs.ElapsedEpochs

/-!
# Calls beside a counted vote

A call of the engine that is not about a given vote does not notice whether that vote is
counted: it has the same answer or the same error on both engines, and it leaves engines of
which one is again the other one with the vote counted (`Engine.Counts`).  The one number
that can make a difference is the power of the vote's gauge, which must still have room for
the power that others commit.
-/

namespace EpochVoting

namespace Amount

variable {a b c more : UInt64}

theorem add?_eq_some_add (h : add? a b = some c) : c = a + b :=
  eq_add (add?_eq_some_iff.mp h)

/-- Where there is room beside more, there is room. -/
theorem add?_of_add?_more (hle : a.toNat ≤ more.toNat) (h : add? more b = some c) :
    add? a b = some (a + b) := by
  have hlt := c.toNat_lt
  rw [add?_eq_some_iff] at h
  obtain ⟨sum, hsum⟩ := add?_succeeds (a := a) (b := b) (by omega)
  rw [hsum, add?_eq_some_add hsum]

end Amount

namespace Commitments

variable {c c₁ : Commitments} {x : EpochVote} {g : Gauge} {voter gauge : Address}
  {epoch now : Epoch} {weight : UInt32} {totalWeight seqno : UInt64}

/-- The second records are the first ones with the vote counted, which these do not have. -/
structure Counts (x : EpochVote) (c c' : Commitments) : Prop where
  eq : c' = c.counting x
  free : c.vote? x.voter x.gauge x.epoch = none

/-- The same answer, and records of which one are the other ones with the vote counted. -/
def AnswersCounted {α : Type} (x : EpochVote) (p p' : α × Commitments) : Prop :=
  p.1 = p'.1 ∧ p.2.Counts x p'.2

/-! ## Consistent records -/

section

variable (hc : c.Consistent now) (hc' : (c.counting x).Consistent now)
include hc hc'

/-- The power of the gauges is what it is without the vote, and the vote's. -/
theorem power_counting (hfree : c.vote? x.voter x.gauge x.epoch = none) (gauge : Address) :
    (c.counting x).power gauge now = c.power gauge now + (x.powerOn gauge now).toNat := by
  have hclosed := (hc.closed_of_not_elapsed (UInt32.lt_irrefl now)).2 gauge
  have hclosed' := (hc'.closed_of_not_elapsed (UInt32.lt_irrefl now)).2 gauge
  have hlive : (c.counting x).liveOn gauge now = _ := liveOn_insert rfl hfree gauge now
  rw [hc.power_eq, hc'.power_eq, hclosed, hclosed', hlive, EpochVote.toNat_powerOn, Nat.add_zero,
    Nat.add_zero]

/-- The allocated power of the voters is what it is without the vote, and the vote's. -/
theorem allocated_counting (hfree : c.vote? x.voter x.gauge x.epoch = none) (voter : Address) :
    (c.counting x).allocated voter now = c.allocated voter now + (x.powerOf voter now).toNat := by
  have hclosed := (hc.closed_of_not_elapsed (UInt32.lt_irrefl now)).1 voter
  have hclosed' := (hc'.closed_of_not_elapsed (UInt32.lt_irrefl now)).1 voter
  have hlive : (c.counting x).liveOf voter now = _ := liveOf_insert rfl hfree voter now
  rw [hc.allocated_eq, hc'.allocated_eq, hclosed, hclosed', hlive, EpochVote.toNat_powerOf,
    Nat.add_zero, Nat.add_zero]

omit hc in
/-- The records that the vote is counted in are there. -/
theorem found_of_counting : (∃ r, c.epochGauge? x.gauge x.epoch = some r) ∧
    ∃ s, c.snapshot? x.voter x.epoch = some s := by
  have hx := Table.mem_of_find? (vote?_counting_self c x)
  obtain ⟨r', hr'⟩ := hc'.epochGauge?_of_vote hx
  obtain ⟨s', hs'⟩ := hc'.snapshot?_of_vote hx
  rw [epochGauge?_counting, Option.map_eq_some_iff] at hr'
  rw [snapshot?_counting, Option.map_eq_some_iff] at hs'
  obtain ⟨r, hr, -⟩ := hr'
  obtain ⟨s, hs, -⟩ := hs'
  exact ⟨⟨r, hr⟩, ⟨s, hs⟩⟩

end

/-! ## Calls -/

/-- Where there is no vote, erasing one does not make one. -/
theorem vote?_free_of_erase {voter gauge v g : Address} {epoch n : Epoch}
    (hfree : c.vote? voter gauge epoch = none) (herase : c₁.votes = c.votes.erase (v, g, n)) :
    c₁.vote? voter gauge epoch = none :=
  Option.eq_none_iff_forall_ne_some.mpr fun _ hy => by
    cases hfree.symm.trans (vote?_of_erase herase hy)

/-- Once all else is checked, what can overflow are the two totals. -/
theorem commit_eq_overflow_iff {s : Snapshot} {r : EpochGauge} {allocated : UInt64}
    (hnone : c.vote? voter g.target epoch = none) (henabled : g.enabled = true)
    (hs : c.snapshot? voter epoch = some s) (hr : c.epochGauge? g.target epoch = some r)
    (hshare : Amount.share? s.votingPower weight.toUInt64 totalWeight = some allocated)
    (hpositive : allocated ≠ 0) :
    c.commit voter g epoch weight totalWeight s.weightChangeSeqno = .error .overflow ↔
      Amount.add? r.totalPower allocated = none ∨ ∃ gaugeTotal,
        Amount.add? r.totalPower allocated = some gaugeTotal ∧
          Amount.add? s.allocatedPower allocated = none := by
  simp only [commit, Commitments.snapshot, Commitments.epochGauge, Gauge.requireEnabled,
    bind_eq_error_iff, demand_eq_ok_iff, demand_eq_error_iff, require_eq_error_iff,
    require_passes_iff, hnone, henabled, hs, hr, hshare, hpositive, Option.isNone_none,
    beq_self_eq_true, Option.some.injEq, exists_eq_left', exists_const, true_and, reduceCtorEq,
    false_or, if_false, pure_ne_error, Bool.true_eq_false, and_true, and_false, or_false]

/-- A commitment that overflows neither total overflows neither without the vote. -/
theorem commit_counting (hc : c.Consistent epoch) (hc' : (c.counting x).Consistent epoch)
    (hfree : c.vote? x.voter x.gauge x.epoch = none)
    (hother : ¬ (voter = x.voter ∧ g.target = x.gauge))
    (hfits : (c.counting x).commit voter g epoch weight totalWeight seqno ≠ .error .overflow) :
    Agree (AnswersCounted x) (c.commit voter g epoch weight totalWeight seqno)
      ((c.counting x).commit voter g epoch weight totalWeight seqno) := by
  have hvote : (c.counting x).vote? voter g.target epoch = c.vote? voter g.target epoch :=
    vote?_counting_of_ne hother
  unfold commit Commitments.snapshot Commitments.epochGauge
  rw [hvote]
  refine agree_check_bind _ fun _ hnone => agree_check_bind _ fun _ henabled =>
    (agree_demand_of_map (snapshot?_counting c x voter epoch) _).bind fun s s' hs => ?_
  obtain ⟨rfl, hs⟩ := hs
  refine agree_check_bind (require (s.weightChangeSeqno == seqno) _) fun _ hseqno =>
    (agree_demand_of_map (epochGauge?_counting c x g.target epoch) _).bind fun r r' hr => ?_
  obtain ⟨rfl, hr⟩ := hr
  refine agree_check_bind (demand _ (Amount.share? s.votingPower weight.toUInt64 totalWeight))
    fun allocated hshare => ?_
  split
  · exact .ok ⟨rfl, rfl, hfree⟩
  next hpositive =>
  rw [require_eq_ok_iff] at hnone hseqno
  rw [Option.isNone_iff_eq_none] at hnone
  rw [beq_iff_eq] at hseqno
  rw [Gauge.requireEnabled_eq_ok_iff] at henabled
  rw [demand_eq_ok_iff] at hshare
  have hs' : (c.counting x).snapshot? voter epoch = some (s.counting x) := by
    rw [snapshot?_counting, hs, Option.map_some]
  have hr' : (c.counting x).epochGauge? g.target epoch = some (r.counting x) := by
    rw [epochGauge?_counting, hr, Option.map_some]
  -- With the vote counted both totals have room, and without it they are no larger.
  subst hseqno
  have hroom := (commit_eq_overflow_iff (hvote.trans hnone) henabled hs' hr' hshare
    hpositive).not.mp hfits
  obtain ⟨gaugeTotal, hgauge'⟩ := Option.ne_none_iff_exists'.mp fun hfull => hroom (Or.inl hfull)
  obtain ⟨voterTotal, hvoter'⟩ := Option.ne_none_iff_exists'.mp fun hfull =>
    hroom (Or.inr ⟨gaugeTotal, hgauge', hfull⟩)
  have hpower := power_counting hc hc' hfree g.target
  have hallocated := allocated_counting hc hc' hfree voter
  rw [power_of_epochGauge? hr, power_of_epochGauge? hr'] at hpower
  rw [allocated_of_snapshot? hs, allocated_of_snapshot? hs'] at hallocated
  have hgauge := Amount.add?_of_add?_more (hpower ▸ Nat.le_add_right ..) hgauge'
  have hvoter := Amount.add?_of_add?_more (hallocated ▸ Nat.le_add_right ..) hvoter'
  rw [hgauge, hvoter, hgauge', hvoter']
  refine .ok ⟨rfl, ?_, ?_⟩
  · rw [Amount.add?_eq_some_add hgauge', Amount.add?_eq_some_add hvoter', EpochGauge.counting,
      Snapshot.counting, Amount.add_right_comm, Amount.add_right_comm s.allocatedPower]
    exact addVote_counting fun heq =>
      hother ⟨(Prod.mk.inj heq).1, (Prod.mk.inj (Prod.mk.inj heq).2).1⟩
  · rw [vote?_insert rfl, if_neg fun hkey => hother ⟨hkey.1, hkey.2.1⟩]
    exact hfree

/-- Both totals cover every other vote, with the vote counted or not. -/
theorem revert_counting (hc : c.Consistent now) (hc' : (c.counting x).Consistent now)
    (hfree : c.vote? x.voter x.gauge x.epoch = none)
    (hother : ¬ (voter = x.voter ∧ gauge = x.gauge)) :
    Agree (AnswersCounted x) (c.revert voter gauge epoch)
      ((c.counting x).revert voter gauge epoch) := by
  have hvote : (c.counting x).vote? voter gauge epoch = c.vote? voter gauge epoch :=
    vote?_counting_of_ne hother
  cases hy : c.vote? voter gauge epoch with
  | none =>
    unfold revert
    rw [hvote, hy]
    exact .error _
  | some y =>
    obtain ⟨c₁, hreverted⟩ := hc.revert_eq_ok hy
    obtain ⟨c₁', hreverted'⟩ := hc'.revert_eq_ok (hvote.trans hy)
    obtain ⟨y₁, r, s, hy₁, hr, hs, -, gaugeTotal, voterTotal, hgauge, hvoter, rfl⟩ :=
      revert_eq_ok_iff.mp hreverted
    obtain ⟨y₂, r', s', hy₂, hr', hs', -, gaugeTotal', voterTotal', hgauge', hvoter', rfl⟩ :=
      revert_eq_ok_iff.mp hreverted'
    cases hy.symm.trans hy₁
    cases (hvote.trans hy).symm.trans hy₂
    rw [epochGauge?_counting, hr, Option.map_some, Option.some.injEq] at hr'
    rw [snapshot?_counting, hs, Option.map_some, Option.some.injEq] at hs'
    subst hr' hs'
    have hkey : Keyed.key y ≠ Keyed.key x := by
      obtain ⟨rfl, rfl, rfl⟩ := key_of_vote? hy
      exact fun heq => hother ⟨(Prod.mk.inj heq).1, (Prod.mk.inj (Prod.mk.inj heq).2).1⟩
    have hgaugeTotal : gaugeTotal' = gaugeTotal + x.powerOn r.gauge r.epoch := by
      rw [← UInt64.add_left_inj y.allocatedPower, ← Amount.eq_add hgauge',
        Amount.add_right_comm, ← Amount.eq_add hgauge]
      rfl
    have hvoterTotal : voterTotal' = voterTotal + x.powerOf s.voter s.epoch := by
      rw [← UInt64.add_left_inj y.allocatedPower, ← Amount.eq_add hvoter',
        Amount.add_right_comm, ← Amount.eq_add hvoter]
      rfl
    refine agree_of_ok hreverted hreverted' ⟨rfl, ?_, vote?_free_of_erase hfree rfl⟩
    show Commitments.removeVote _ _ _ y gaugeTotal' voterTotal' = _
    rw [hgaugeTotal, hvoterTotal]
    exact removeVote_counting hkey

/-- Taking back the counted vote leaves the records without it. -/
theorem revert_counting_self (hc' : (c.counting x).Consistent now)
    (hfree : c.vote? x.voter x.gauge x.epoch = none) :
    (c.counting x).revert x.voter x.gauge x.epoch = .ok (x.allocatedPower, c) := by
  obtain ⟨⟨r, hr⟩, s, hs⟩ := found_of_counting hc'
  have hx := vote?_counting_self c x
  obtain ⟨c₁, hreverted⟩ := hc'.revert_eq_ok hx
  obtain ⟨y, r', s', hy, hr', hs', -, gaugeTotal, voterTotal, hgauge, hvoter, rfl⟩ :=
    revert_eq_ok_iff.mp hreverted
  cases hx.symm.trans hy
  rw [epochGauge?_counting, hr, Option.map_some, Option.some.injEq] at hr'
  rw [snapshot?_counting, hs, Option.map_some, Option.some.injEq] at hs'
  subst hr' hs'
  obtain ⟨hrgauge, hrepoch⟩ := key_of_epochGauge? hr
  obtain ⟨hsvoter, hsepoch⟩ := key_of_snapshot? hs
  have hgaugeTotal : r.totalPower = gaugeTotal := by
    have heq := Amount.eq_add hgauge
    rw [EpochGauge.counting, EpochVote.powerOn, if_pos ⟨hrgauge.symm, hrepoch.symm⟩] at heq
    exact (UInt64.add_left_inj x.allocatedPower).mp heq
  have hvoterTotal : s.allocatedPower = voterTotal := by
    have heq := Amount.eq_add hvoter
    rw [Snapshot.counting, EpochVote.powerOf, if_pos ⟨hsvoter.symm, hsepoch.symm⟩] at heq
    exact (UInt64.add_left_inj x.allocatedPower).mp heq
  rw [← hgaugeTotal, ← hvoterTotal, removeVote_counting_self hfree hr hs] at hreverted
  exact hreverted

section

variable (hne : epoch ≠ x.epoch) (hfree : c.vote? x.voter x.gauge x.epoch = none)
include hne hfree

/-- A vote of another epoch is closed as without the vote. -/
theorem close_counting : Agree (AnswersCounted x) (c.close voter gauge epoch)
    ((c.counting x).close voter gauge epoch) := by
  have hsame := sameAt_counting (c := c) hne
  unfold close Commitments.snapshot Commitments.epochGauge
  rw [hsame.vote?_eq, hsame.snapshot?_eq, hsame.epochGauge?_eq]
  refine agree_check_bind _ fun y hy => agree_check_bind _ fun r hr =>
    agree_check_bind _ fun s hs => agree_check_bind _ fun gaugeClosed _ =>
    agree_check_bind _ fun voterClosed _ => ?_
  rw [demand_eq_ok_iff] at hy hr hs
  -- The vote is found on both sides, so both calls can take it out.
  have hy' : (c.counting x).vote? voter gauge epoch = some y :=
    (hsame.vote?_eq voter gauge).trans hy
  rw [Table.take?_of_find? hy, Table.take?_of_find? hy']
  refine .ok ⟨rfl, ?_, vote?_free_of_erase hfree rfl⟩
  have hrother : r.counting x = r := EpochGauge.counting_of_ne fun hkey =>
    hne ((key_of_epochGauge? hr).2.symm.trans (Prod.mk.inj hkey).2)
  have hsother : s.counting x = s := Snapshot.counting_of_ne fun hkey =>
    hne ((key_of_snapshot? hs).2.symm.trans (Prod.mk.inj hkey).2)
  obtain ⟨rfl, rfl, rfl⟩ := key_of_vote? hy
  have hclosed : _ = (c.closeVote r s y gaugeClosed voterClosed).counting x :=
    closeVote_counting fun heq => hne (Prod.mk.inj (Prod.mk.inj heq).2).2
  rw [hrother, hsother] at hclosed
  exact hclosed

theorem removeEmptyEpochGauge_counting :
    Agree (AnswersCounted x) (c.removeEmptyEpochGauge gauge epoch)
      ((c.counting x).removeEmptyEpochGauge gauge epoch) := by
  unfold removeEmptyEpochGauge Commitments.epochGauge
  have hsame := (sameAt_counting (c := c) hne).epochGauge?_eq
  rw [hsame]
  refine agree_check_bind _ fun r hr => agree_check_bind _ fun _ _ => ?_
  rw [demand_eq_ok_iff] at hr
  have hr' : (c.counting x).epochGauge? gauge epoch = some r :=
    (hsame gauge).trans hr
  rw [Table.take?_of_find? hr, Table.take?_of_find? hr']
  exact .ok ⟨rfl, eraseEpochGauge_counting c x gauge epoch, hfree⟩

/-- A change of a snapshot of another epoch. -/
theorem updateSnapshot_counting {change : Snapshot → Snapshot}
    (hkey : ∀ s, Keyed.key (change s) = Keyed.key s) :
    Agree (Counts x) (c.updateSnapshot voter epoch change)
      ((c.counting x).updateSnapshot voter epoch change) := by
  unfold updateSnapshot Commitments.snapshot
  rw [(sameAt_counting (c := c) hne).snapshot?_eq]
  refine agree_check_bind _ fun s hs => .ok ⟨?_, hfree⟩
  have hchanged : (change s).counting x = change s := Snapshot.counting_of_ne fun heq =>
    hne ((key_of_snapshot? (demand_eq_ok_iff.mp hs)).2.symm.trans
      (Prod.mk.inj ((hkey s).symm.trans heq)).2)
  have hput := putSnapshot_counting c x (change s)
  rw [hchanged] at hput
  exact hput

end

end Commitments

/-! ## Calls of the engine -/

namespace Engine

variable {e e' : Engine} {x : EpochVote} {voter gauge : Address}

/-- The second engine is the first one with a vote of the current epoch counted, which the
first one does not have. -/
inductive Counts (x : EpochVote) (e : Engine) : Engine → Prop
  | of {commitments} (counts : e.commitments.Counts x commitments)
      (epoch : x.epoch = e.currentEpoch) : Counts x e { e with commitments }

/-- The same answer, and engines of which one is the other one with the vote counted. -/
def AnswersCounted {α : Type} (x : EpochVote) (p p' : α × Engine) : Prop :=
  p.1 = p'.1 ∧ p.2.Counts x p'.2

namespace Counts

/-- Epochs that are over have the same records. -/
theorem sameAt (h : e.Counts x e') {epoch : Epoch} (helapsed : epoch < e.currentEpoch) :
    Commitments.SameAt epoch e.commitments e'.commitments := by
  obtain ⟨⟨rfl, -⟩, hepoch⟩ := h
  refine Commitments.sameAt_counting ?_
  rintro rfl
  exact UInt32.lt_irrefl _ (hepoch ▸ helapsed)

theorem finalBefore (h : e.Counts x e') : FinalBefore e.currentEpoch e e' where
  totalPower gauge epoch hlt := by
    unfold totalPower
    rw [(h.sameAt hlt).epochGauge?_eq]
  allocation voter gauge epoch hlt := (h.sameAt hlt).allocation?_eq voter gauge
  fees gauge epoch r hlt hr _ := ⟨r, ((h.sameAt hlt).epochGauge?_eq gauge).trans hr, rfl⟩
  stakes voter epoch hlt := congrArg _ ((h.sameAt hlt).snapshot?_eq voter)
  noGauge gauge epoch hlt hr := ((h.sameAt hlt).epochGauge?_eq gauge).trans hr
  noVote voter gauge epoch hlt hx := ((h.sameAt hlt).vote?_eq voter gauge).trans hx

theorem rewardShare_eq (h : e.Counts x e') (gauge : Address) :
    e'.rewardShare gauge = e.rewardShare gauge := by
  refine h.finalBefore.rewardShare ?_ gauge
  obtain ⟨-, -⟩ := h
  rfl

/-- Whether the vote is counted does not matter to bribes. -/
theorem bribeBlind (x : EpochVote) : BribeBlind (Counts x) where
  same {e e'} he := by
    have hfinal := he.finalBefore
    obtain ⟨-, -⟩ := he
    exact {
      factory := rfl
      bribes := rfl
      registered := fun target => agree_refl _ fun _ => trivial
      totalPower := hfinal.totalPower
      allocation := hfinal.allocation }
  write _ he := by
    obtain ⟨hc, hepoch⟩ := he
    exact .of hc hepoch
  create {e e'} factory bribes he hsame := by
    obtain @⟨commitments, hc, hepoch⟩ := he
    have hepoch' : x.epoch = factory.currentEpoch := hepoch.trans hsame.symm
    exact .of hc hepoch'

/-! ### Administration and weights -/

/-- An advance that is refused is refused in both. -/
theorem advanceEpoch (h : e.Counts x e') {now : Timestamp}
    (hstays : ∀ p, e'.advanceEpoch now ≠ .ok p) :
    Agree (AnswersCounted x) (e.advanceEpoch now) (e'.advanceEpoch now) := by
  obtain @⟨commitments, -, -⟩ := h
  refine agree_check_bind (e.factory.advance now) fun factory hadvance =>
    absurd ?_ (hstays (factory.currentEpoch, { e with commitments, factory }))
  exact bind_eq_ok_iff.mpr ⟨factory, hadvance, rfl⟩

theorem setForeman (h : e.Counts x e') (authority newForeman : Address) :
    Agree (Counts x) (e.setForeman authority newForeman) (e'.setForeman authority newForeman) := by
  obtain ⟨hc, hepoch⟩ := h
  refine agree_check_bind (e.factory.setForeman authority newForeman) fun factory hset => ?_
  obtain ⟨-, rfl⟩ := Factory.setForeman_eq_ok_iff.mp hset
  exact .ok (.of hc hepoch)

theorem setEpochDuration (h : e.Counts x e') (authority : Address) (secs : UInt64) :
    Agree (Counts x) (e.setEpochDuration authority secs) (e'.setEpochDuration authority secs) := by
  obtain ⟨hc, hepoch⟩ := h
  refine agree_check_bind (e.factory.setEpochDuration authority secs) fun factory hset => ?_
  obtain ⟨-, -, rfl⟩ := Factory.setEpochDuration_eq_ok_iff.mp hset
  exact .ok (.of hc hepoch)

theorem createGauge (h : e.Counts x e') (target : Address) (mints : PerSide Address)
    (totals : PerSide UInt64) :
    Agree (Counts x) (e.createGauge target mints totals) (e'.createGauge target mints totals) := by
  obtain ⟨hc, hepoch⟩ := h
  exact agree_check_bind (e.registry.create target mints totals) fun _ _ => .ok (.of hc hepoch)

theorem setGaugeEnabled (h : e.Counts x e') (authority target : Address) (enabled : Bool) :
    Agree (AnswersCounted x) (e.setGaugeEnabled authority target enabled)
      (e'.setGaugeEnabled authority target enabled) := by
  obtain ⟨hc, hepoch⟩ := h
  exact agree_check_bind _ fun _ _ => agree_check_bind (e.registry.setEnabled target enabled)
    fun _ _ => .ok ⟨rfl, .of hc hepoch⟩

theorem setVote (h : e.Counts x e') (escrow : Escrow) (authority voter gauge : Address)
    (weight : UInt32) :
    Agree (AnswersCounted x) (e.setVote escrow authority voter gauge weight)
      (e'.setVote escrow authority voter gauge weight) := by
  obtain ⟨hc, hepoch⟩ := h
  exact agree_check_bind _ fun _ _ => agree_check_bind _ fun _ _ =>
    agree_check_bind (e.registry.get gauge) fun g _ =>
    agree_check_bind (e.weights.setVote voter g weight) fun _ _ => .ok ⟨rfl, .of hc hepoch⟩

/-! ### Snapshots and votes -/

theorem takeSnapshot (h : e.Counts x e') (hsound : e'.PowerSound) (escrow : Escrow)
    (now : Timestamp) (voter : Address) :
    Agree (AnswersCounted x) (e.takeSnapshot escrow now voter)
      (e'.takeSnapshot escrow now voter) := by
  obtain ⟨⟨rfl, hfree⟩, hepoch⟩ := h
  have hfound := Commitments.snapshot?_counting e.commitments x voter e.currentEpoch
  obtain ⟨-, s, hs⟩ := Commitments.found_of_counting hsound.consistent
  unfold Engine.takeSnapshot
  show Agree _ _ (if ((e.commitments.counting x).snapshot? voter e.currentEpoch).isSome then _
    else _)
  rw [hfound, Option.isSome_map]
  split
  · exact .ok ⟨rfl, .of ⟨rfl, hfree⟩ hepoch⟩
  · next hnone =>
    rw [Option.not_isSome_iff_eq_none] at hnone
    refine agree_check_bind _ fun power _ => ?_
    rw [Commitments.takeSnapshot_of_none hnone]
    show Agree _ _ (.ok (true, { e with
      commitments := ((e.commitments.counting x).takeSnapshot voter e.currentEpoch power _).2 }))
    rw [Commitments.takeSnapshot_of_none (by rw [hfound, hnone]; rfl)]
    refine .ok ⟨rfl, .of ⟨?_, hfree⟩ hepoch⟩
    -- The voter of the vote has a snapshot, so this one is another voter's.
    have hother : Keyed.key (Snapshot.fresh voter e.currentEpoch power (e.weights.seqno voter)) ≠
        (x.voter, x.epoch) := by
      intro hkey
      obtain ⟨rfl, hsame⟩ := Prod.mk.inj hkey
      cases hs.symm.trans (hepoch ▸ hnone)
    have hput := Commitments.putSnapshot_counting e.commitments x
      (Snapshot.fresh voter e.currentEpoch power (e.weights.seqno voter))
    rw [Snapshot.counting_of_ne hother] at hput
    exact hput

theorem resetSnapshot (h : e.Counts x e') (escrow : Escrow) (now : Timestamp)
    (hother : voter ≠ x.voter) :
    Agree (Counts x) (e.resetSnapshot escrow now voter) (e'.resetSnapshot escrow now voter) := by
  obtain ⟨⟨rfl, hfree⟩, hepoch⟩ := h
  have hsame (s : Snapshot) (hs : s.voter = voter) : s.counting x = s :=
    Snapshot.counting_of_ne fun hkey => hother (hs.symm.trans (Prod.mk.inj hkey).1)
  have hfound : (e.commitments.counting x).snapshot? voter e.currentEpoch =
      e.commitments.snapshot? voter e.currentEpoch := by
    rw [Commitments.snapshot?_counting]
    cases hs : e.commitments.snapshot? voter e.currentEpoch with
    | none => rfl
    | some s => rw [Option.map_some, hsame s (Commitments.key_of_snapshot? hs).1]
  refine agree_check_bind _ fun power _ => ?_
  show Agree _ _ ((e.commitments.counting x).resetSnapshot voter e.currentEpoch power _ >>= _)
  unfold Commitments.resetSnapshot Commitments.snapshot
  rw [hfound]
  simp only [bind_assoc, pure_bind]
  refine agree_check_bind _ fun s hs => agree_check_bind _ fun _ _ =>
    .ok (.of ⟨?_, hfree⟩ hepoch)
  have hvoter := (Commitments.key_of_snapshot? (demand_eq_ok_iff.mp hs)).1
  have hput := Commitments.putSnapshot_counting e.commitments x
    { s with votingPower := power, weightChangeSeqno := e.weights.seqno voter }
  rw [hsame { s with votingPower := power, weightChangeSeqno := e.weights.seqno voter } hvoter]
    at hput
  exact hput

theorem commit (h : e.Counts x e') (hsound : e.PowerSound) (hsound' : e'.PowerSound)
    (hother : ¬ (voter = x.voter ∧ gauge = x.gauge))
    (hfits : e'.commit voter gauge ≠ .error .overflow) :
    Agree (AnswersCounted x) (e.commit voter gauge) (e'.commit voter gauge) := by
  obtain ⟨⟨rfl, hfree⟩, hepoch⟩ := h
  refine agree_check_bind (e.registry.get gauge) fun g hg => ?_
  have htarget := Registry.target_of_find? (Registry.get_eq_ok_iff.mp hg)
  refine (Commitments.commit_counting hsound.consistent hsound'.consistent hfree
    (htarget ▸ hother) fun hoverflow => hfits ?_).bind fun _ _ hp =>
    .ok ⟨hp.1, .of hp.2 hepoch⟩
  exact bind_eq_error_iff.mpr (Or.inr ⟨g, hg, bind_eq_error_iff.mpr (Or.inl hoverflow)⟩)

/-- A vote other than the counted one is taken back in both.  That one is there in the second
engine only, so for it the call must be one that is refused. -/
theorem revert (h : e.Counts x e') (hsound : e.PowerSound) (hsound' : e'.PowerSound)
    (escrow : Escrow) (authority : Address) (epoch : Epoch)
    (hother : ¬ (voter = x.voter ∧ gauge = x.gauge) ∨
      ∀ p, e'.revert escrow authority voter gauge epoch ≠ .ok p) :
    Agree (AnswersCounted x) (e.revert escrow authority voter gauge epoch)
      (e'.revert escrow authority voter gauge epoch) := by
  obtain ⟨⟨rfl, hfree⟩, hepoch⟩ := h
  refine agree_check_bind _ fun lock hlock => agree_check_bind _ fun _ hlive => ?_
  by_cases hself : voter = x.voter ∧ gauge = x.gauge
  · -- Past these checks the counted vote is taken back.
    obtain ⟨rfl, rfl⟩ := hself
    obtain rfl : epoch = x.epoch := (Factory.requireLive_eq_ok_iff.mp hlive).trans hepoch.symm
    obtain ⟨c, hreverted⟩ := hsound'.consistent.revert_eq_ok
      (Commitments.vote?_counting_self e.commitments x)
    refine absurd ?_ (hother.resolve_left (fun hne => hne ⟨rfl, rfl⟩)
      (x.allocatedPower, { e with commitments := c }))
    exact bind_eq_ok_iff.mpr ⟨lock, hlock, bind_eq_ok_iff.mpr ⟨(), hlive,
      bind_eq_ok_iff.mpr ⟨_, hreverted, rfl⟩⟩⟩
  · exact (Commitments.revert_counting hsound.consistent hsound'.consistent hfree hself).bind
      fun _ _ hp => .ok ⟨hp.1, .of hp.2 hepoch⟩

theorem close (h : e.Counts x e') (escrow : Escrow) (authority voter gauge : Address)
    (epoch : Epoch) :
    Agree (AnswersCounted x) (e.close escrow authority voter gauge epoch)
      (e'.close escrow authority voter gauge epoch) := by
  obtain ⟨⟨rfl, hfree⟩, hepoch⟩ := h
  refine agree_check_bind _ fun _ _ => agree_check_bind _ fun _ helapsed => ?_
  rw [Factory.requireElapsed_eq_ok_iff] at helapsed
  refine (Commitments.close_counting ?_ hfree).bind fun p p' hp =>
    .ok ⟨congrArg EpochVote.allocatedPower hp.1, .of hp.2 hepoch⟩
  rintro rfl
  exact UInt32.lt_irrefl _ (hepoch ▸ helapsed)

/-- The record of a gauge's epoch is created in both. -/
theorem createEpochGauge (h : e.Counts x e') (hsound : e'.PowerSound) (target : Address)
    (fees : PerSide UInt64) :
    (e.commitments.createEpochGauge target e.currentEpoch fees).2.Counts x
      (e'.commitments.createEpochGauge target e.currentEpoch fees).2 := by
  obtain ⟨⟨rfl, hfree⟩, hepoch⟩ := h
  have hfound := Commitments.epochGauge?_counting e.commitments x target e.currentEpoch
  obtain ⟨⟨r, hr⟩, -⟩ := Commitments.found_of_counting hsound.consistent
  show Commitments.Counts x _ ((e.commitments.counting x).createEpochGauge target _ fees).2
  unfold Commitments.createEpochGauge
  rw [hfound, Option.isSome_map]
  split
  · exact ⟨rfl, hfree⟩
  · next hnone =>
    rw [Option.not_isSome_iff_eq_none] at hnone
    -- The gauge of the vote has a record, so this one is another gauge's.
    have hother : Keyed.key (EpochGauge.fresh target e.currentEpoch fees) ≠ (x.gauge, x.epoch) := by
      intro hkey
      obtain ⟨rfl, hsame⟩ := Prod.mk.inj hkey
      cases hr.symm.trans (hepoch ▸ hnone)
    have hput := Commitments.putEpochGauge_counting e.commitments x
      (EpochGauge.fresh target e.currentEpoch fees)
    rw [EpochGauge.counting_of_ne hother] at hput
    exact ⟨hput, hfree⟩

end Counts
end Engine
end EpochVoting
