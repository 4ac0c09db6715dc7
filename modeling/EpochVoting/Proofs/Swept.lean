import EpochVoting.Proofs.Lockstep

/-!
# Swept records

Votes of elapsed epochs can be closed, and records of unvoted epochs can be cleaned.  The
records of an engine that was swept in this way differ from those of one that was not only
in where an allocation is found, in closed powers and pruned fees, and in records of elapsed
epochs without power that are missing (`Commitments.Swept`, `Registry.SameButPruned`).
Closing and cleaning lead from one such pair to another, and so does any write that both
make in the current epoch.
-/

namespace EpochVoting

open Std

/-! ## Tables -/

namespace Table

variable {ρ κ : Type} [Keyed ρ κ] [Ord κ] {P : κ → Prop} {t t' : Table ρ}

/-- The same records under the keys of a kind. -/
def SameOn (P : κ → Prop) (t t' : Table ρ) : Prop :=
  ∀ k, P k → t'.find? k = t.find? k

theorem SameOn.refl (P : κ → Prop) (t : Table ρ) : t.SameOn P t :=
  fun _ _ => rfl

theorem SameOn.symm (h : t.SameOn P t') : t'.SameOn P t :=
  fun k hk => (h k hk).symm

theorem SameOn.trans {t'' : Table ρ} (h : t.SameOn P t') (h' : t'.SameOn P t'') :
    t.SameOn P t'' :=
  fun k hk => (h' k hk).trans (h k hk)

variable [TransOrd κ] [LawfulEqOrd κ]

theorem SameOn.insert (h : t.SameOn P t') (r : ρ) : (t.insert r).SameOn P (t'.insert r) := by
  intro k hk
  rw [find?_insert, find?_insert, h k hk]

theorem SameOn.erase (h : t.SameOn P t') (k : κ) : (t.erase k).SameOn P (t'.erase k) := by
  intro j hj
  rw [find?_erase, find?_erase, h j hj]

theorem sameOn_insert {r : ρ} (h : ¬ P (Keyed.key r)) : t.SameOn P (t.insert r) :=
  fun _ hk => find?_insert_of_ne fun heq => h (heq ▸ hk)

theorem sameOn_erase {k : κ} (h : ¬ P k) : t.SameOn P (t.erase k) :=
  fun _ hj => find?_erase_of_ne fun heq => h (heq ▸ hj)

end Table

/-! ## Gauges -/

namespace Gauge

variable {g : Gauge} {p q : PerSide UInt64}

theorem ext_fee {g g' : Gauge} (htarget : g'.target = g.target) (henabled : g'.enabled = g.enabled)
    (hfees : ∀ side, g'.fee side = g.fee side) : g' = g := by
  cases g
  cases g'
  cases htarget
  cases henabled
  congr 1
  exact PerSide.ext_get hfees

/-- Another gauge that is the same up to its pruned fees. -/
def SameButPruned (g g' : Gauge) : Prop :=
  ∃ pruned, g' = g.setPruned pruned

theorem SameButPruned.refl (g : Gauge) : g.SameButPruned g := by
  refine ⟨PerSide.ofFn fun side => (g.fee side).prunedAccrued, ?_⟩
  refine ext_fee rfl rfl fun side => ?_
  rw [fee_setPruned, PerSide.get_ofFn]

theorem setPruned_setPruned : (g.setPruned p).setPruned q = g.setPruned q := by
  refine ext_fee rfl rfl fun side => ?_
  rw [fee_setPruned, fee_setPruned, fee_setPruned]

/-- Pruning more does not matter. -/
theorem SameButPruned.prune {g' : Gauge} (h : g.SameButPruned g') (p : PerSide UInt64) :
    (g.setPruned p).SameButPruned g' := by
  obtain ⟨q, rfl⟩ := h
  exact ⟨q, setPruned_setPruned.symm⟩

theorem SameButPruned.setEnabled {g' : Gauge} (h : g.SameButPruned g') (enabled : Bool) :
    ({ g with enabled } : Gauge).SameButPruned { g' with enabled } := by
  obtain ⟨q, rfl⟩ := h
  exact ⟨q, rfl⟩

/-- A capture does not look at pruned fees and leaves them alone. -/
theorem SameButPruned.capture {g' : Gauge} (h : g.SameButPruned g') (c : FeeCapture) :
    (c.apply g).SameButPruned (c.apply g') := by
  obtain ⟨q, rfl⟩ := h
  refine ⟨q, ext_fee rfl rfl fun side => ?_⟩
  rw [FeeCapture.fee_apply, fee_setPruned, fee_setPruned, FeeCapture.fee_apply]

/-- A claim does not look at pruned fees and leaves them alone. -/
theorem SameButPruned.claim {g' : Gauge} (h : g.SameButPruned g') (c : FeeClaim) :
    (c.applyToGauge g).SameButPruned (c.applyToGauge g') := by
  obtain ⟨q, rfl⟩ := h
  refine ⟨q, ext_fee rfl rfl fun side => ?_⟩
  rw [fee_setPruned]
  by_cases hside : c.side = side
  · subst hside
    rw [FeeClaim.fee_applyToGauge_self, fee_setPruned, FeeClaim.fee_applyToGauge_self]
  · rw [FeeClaim.fee_applyToGauge_of_ne hside, fee_setPruned,
      FeeClaim.fee_applyToGauge_of_ne hside]

theorem SameButPruned.mint_eq {g' : Gauge} (h : g.SameButPruned g') (side : FeeSide) :
    (g'.fee side).mint = (g.fee side).mint := by
  obtain ⟨q, rfl⟩ := h
  rw [fee_setPruned]

theorem SameButPruned.compute_eq {g' : Gauge} (h : g.SameButPruned g') (totals : PerSide UInt64) :
    FeeCapture.compute g' totals = FeeCapture.compute g totals := by
  obtain ⟨q, rfl⟩ := h
  have hside (side : FeeSide) : FeeCapture.computeSide (g.setPruned q) totals side =
      FeeCapture.computeSide g totals side := by
    unfold FeeCapture.computeSide
    rw [fee_setPruned]
    rfl
  unfold FeeCapture.compute
  rw [funext hside]

end Gauge

namespace Registry

variable {r r' : Registry} {target : Address}

/-- The same gauges up to their pruned fees. -/
def SameButPruned (r r' : Registry) : Prop :=
  ∀ target, Option.Rel Gauge.SameButPruned (r.gauges.find? target) (r'.gauges.find? target)

theorem SameButPruned.refl (r : Registry) : r.SameButPruned r := by
  intro target
  cases r.gauges.find? target with
  | none => exact .none
  | some g => exact .some (.refl g)

theorem SameButPruned.get (h : r.SameButPruned r') (target : Address) :
    Agree Gauge.SameButPruned (r.get target) (r'.get target) :=
  agree_demand (h target) _

theorem SameButPruned.put {g g' : Gauge} (h : r.SameButPruned r') (hg : g.SameButPruned g') :
    (r.put g).SameButPruned (r'.put g') := by
  intro target
  have hkey : Keyed.key g' = Keyed.key g := by
    obtain ⟨p, rfl⟩ := hg
    rfl
  unfold Registry.put
  rw [Table.find?_insert, Table.find?_insert, hkey]
  split
  · exact .some hg
  · exact h target

/-- Pruning one of the two does not matter. -/
theorem SameButPruned.prune {g : Gauge} (h : r.SameButPruned r')
    (hg : r.gauges.find? target = some g) (p : PerSide UInt64) :
    (r.put (g.setPruned p)).SameButPruned r' := by
  intro name
  have hrel := h name
  unfold Registry.put
  rw [Table.find?_insert_ite]
  split
  · next hname =>
    have htarget : g.target = target := target_of_find? hg
    rw [← show target = name from htarget.symm.trans hname, hg] at hrel
    rw [← show target = name from htarget.symm.trans hname]
    generalize r'.gauges.find? target = o at hrel
    cases hrel with
    | some hg' => exact .some (hg'.prune p)
  · exact hrel

theorem SameButPruned.contains_eq (h : r.SameButPruned r') (target : Address) :
    r'.gauges.contains target = r.gauges.contains target := by
  have hrel := h target
  unfold Table.contains
  generalize r.gauges.find? target = o at hrel
  generalize r'.gauges.find? target = o' at hrel
  cases hrel with
  | none => rfl
  | some hg => rfl

/-- A change of one gauge that leaves pruned fees alone. -/
theorem SameButPruned.update (h : r.SameButPruned r') (target : Address) {change : Gauge → Gauge}
    (hchange : ∀ g g' : Gauge, g.SameButPruned g' → (change g).SameButPruned (change g')) :
    Agree SameButPruned (r.update target change) (r'.update target change) :=
  (h.get target).bind fun g g' hg => .ok (h.put (hchange g g' hg))

end Registry

/-! ## Records of epochs -/

/-- Another record that is the same up to its closed power. -/
def EpochGauge.SameButClosed (r r' : EpochGauge) : Prop :=
  ∃ closedPower, r' = { r with closedPower }

/-- Another snapshot that is the same up to what is closed. -/
def Snapshot.SameButClosed (s s' : Snapshot) : Prop :=
  ∃ closedPower closedAllocations, s' = { s with closedPower, closedAllocations }

namespace Commitments

variable {K K' : Address → Epoch → Prop} {c c' c₁ c₁' : Commitments} {now epoch : Epoch}

/-- The same records of an epoch. -/
structure SameAt (epoch : Epoch) (c c' : Commitments) : Prop where
  gauges : c.epochGauges.SameOn (fun k => k.2 = epoch) c'.epochGauges
  snapshots : c.snapshots.SameOn (fun k => k.2 = epoch) c'.snapshots
  votes : c.votes.SameOn (fun k => k.2.2 = epoch) c'.votes

namespace SameAt

theorem symm (h : SameAt epoch c c') : SameAt epoch c' c :=
  ⟨h.gauges.symm, h.snapshots.symm, h.votes.symm⟩

theorem trans (h : SameAt epoch c c') (h' : SameAt epoch c' c₁) : SameAt epoch c c₁ :=
  ⟨h.gauges.trans h'.gauges, h.snapshots.trans h'.snapshots, h.votes.trans h'.votes⟩

theorem epochGauge?_eq (h : SameAt epoch c c') (gauge : Address) :
    c'.epochGauge? gauge epoch = c.epochGauge? gauge epoch :=
  h.gauges (gauge, epoch) rfl

theorem snapshot?_eq (h : SameAt epoch c c') (voter : Address) :
    c'.snapshot? voter epoch = c.snapshot? voter epoch :=
  h.snapshots (voter, epoch) rfl

theorem vote?_eq (h : SameAt epoch c c') (voter gauge : Address) :
    c'.vote? voter gauge epoch = c.vote? voter gauge epoch :=
  h.votes (voter, gauge, epoch) rfl

theorem epochGauge_eq (h : SameAt epoch c c') (gauge : Address) :
    c'.epochGauge gauge epoch = c.epochGauge gauge epoch := by
  unfold epochGauge
  rw [h.epochGauge?_eq]

theorem snapshot_eq (h : SameAt epoch c c') (voter : Address) :
    c'.snapshot voter epoch = c.snapshot voter epoch := by
  unfold Commitments.snapshot
  rw [h.snapshot?_eq]

theorem allocation?_eq (h : SameAt epoch c c') (voter gauge : Address) :
    c'.allocation? voter gauge epoch = c.allocation? voter gauge epoch := by
  unfold allocation?
  rw [h.vote?_eq, h.snapshot?_eq]

end SameAt

/-- Nothing is written in any other epoch. -/
def WrittenAt (now : Epoch) (c c₁ : Commitments) : Prop :=
  ∀ epoch, epoch ≠ now → SameAt epoch c c₁

/-- The records of `c` are those of `c'`, swept: in elapsed epochs votes may have been closed,
and the records without power of the gauges and epochs in `K` may have been cleaned. -/
structure Swept (K : Address → Epoch → Prop) (now : Epoch) (c c' : Commitments) : Prop where
  live : ∀ epoch, ¬ epoch < now → SameAt epoch c c'
  gauges : ∀ gauge epoch, Option.Rel EpochGauge.SameButClosed (c.epochGauge? gauge epoch)
      (c'.epochGauge? gauge epoch) ∨
    c.epochGauge? gauge epoch = none ∧ K gauge epoch ∧
      ∃ r, c'.epochGauge? gauge epoch = some r ∧ r.totalPower = 0
  snapshots : ∀ voter epoch, Option.Rel Snapshot.SameButClosed (c.snapshot? voter epoch)
    (c'.snapshot? voter epoch)
  allocation : ∀ voter gauge epoch,
    c'.allocation? voter gauge epoch = c.allocation? voter gauge epoch

namespace Swept

theorem refl (K : Address → Epoch → Prop) (now : Epoch) (c : Commitments) : Swept K now c c where
  live _ _ := ⟨.refl _ _, .refl _ _, .refl _ _⟩
  gauges gauge epoch := by
    refine Or.inl ?_
    cases c.epochGauge? gauge epoch with
    | none => exact .none
    | some r => exact .some ⟨r.closedPower, rfl⟩
  snapshots voter epoch := by
    cases c.snapshot? voter epoch with
    | none => exact .none
    | some s => exact .some ⟨s.closedPower, s.closedAllocations, rfl⟩
  allocation _ _ _ := rfl

theorem mono (h : Swept K now c c') (hK : ∀ gauge epoch, K gauge epoch → K' gauge epoch) :
    Swept K' now c c' where
  live := h.live
  gauges gauge epoch := (h.gauges gauge epoch).imp_right fun ⟨hnone, hcleaned, hr⟩ =>
    ⟨hnone, hK gauge epoch hcleaned, hr⟩
  snapshots := h.snapshots
  allocation := h.allocation

/-- The epoch advances. -/
theorem advance (h : Swept K now c c') {later : Epoch} (hle : now ≤ later) :
    Swept K later c c' where
  live epoch hlive := h.live epoch fun helapsed => hlive (UInt32.lt_of_lt_of_le helapsed hle)
  gauges := h.gauges
  snapshots := h.snapshots
  allocation := h.allocation

theorem current (h : Swept K now c c') : SameAt now c c' :=
  h.live now (UInt32.lt_irrefl now)

theorem totalPower_eq (h : Swept K now c c') (gauge : Address) (epoch : Epoch) :
    ((c'.epochGauge? gauge epoch).map EpochGauge.totalPower).getD 0 =
      ((c.epochGauge? gauge epoch).map EpochGauge.totalPower).getD 0 := by
  rcases h.gauges gauge epoch with hrel | ⟨hnone, -, r, hr, hzero⟩
  · generalize c.epochGauge? gauge epoch = o at hrel
    generalize c'.epochGauge? gauge epoch = o' at hrel
    cases hrel with
    | none => rfl
    | some hr =>
      obtain ⟨closedPower, rfl⟩ := hr
      rfl
  · rw [hnone, hr]
    exact hzero

/-- Both write the same in the current epoch. -/
theorem write (h : Swept K now c c') (hw : WrittenAt now c c₁) (hw' : WrittenAt now c' c₁')
    (hnow : SameAt now c₁ c₁') : Swept K now c₁ c₁' where
  live epoch hlive := by
    by_cases heq : epoch = now
    · subst heq
      exact hnow
    · exact (hw epoch heq).symm.trans ((h.live epoch hlive).trans (hw' epoch heq))
  gauges gauge epoch := by
    by_cases heq : epoch = now
    · subst heq
      rw [hnow.epochGauge?_eq]
      exact (refl K epoch c₁).gauges gauge epoch
    · rw [(hw epoch heq).epochGauge?_eq, (hw' epoch heq).epochGauge?_eq]
      exact h.gauges gauge epoch
  snapshots voter epoch := by
    by_cases heq : epoch = now
    · subst heq
      rw [hnow.snapshot?_eq]
      exact (refl K epoch c₁).snapshots voter epoch
    · rw [(hw epoch heq).snapshot?_eq, (hw' epoch heq).snapshot?_eq]
      exact h.snapshots voter epoch
  allocation voter gauge epoch := by
    by_cases heq : epoch = now
    · subst heq
      exact hnow.allocation?_eq voter gauge
    · rw [(hw epoch heq).allocation?_eq, (hw' epoch heq).allocation?_eq]
      exact h.allocation voter gauge epoch

end Swept

/-! ## Writes in the current epoch -/

section

variable {r : EpochGauge} {s : Snapshot} {x : EpochVote} {gaugeTotal voterTotal : UInt64}

/-- The records after a gauge's record was written. -/
def putEpochGauge (c : Commitments) (r : EpochGauge) : Commitments :=
  { c with epochGauges := c.epochGauges.insert r }

theorem Swept.putEpochGauge (h : Swept K now c c') (hr : r.epoch = now) :
    Swept K now (c.putEpochGauge r) (c'.putEpochGauge r) := by
  have hwritten (c : Commitments) : WrittenAt now c (c.putEpochGauge r) := fun epoch hne =>
    ⟨Table.sameOn_insert fun heq => hne (heq.symm.trans hr), .refl _ _, .refl _ _⟩
  have hnow := h.current
  exact h.write (hwritten c) (hwritten c') ⟨hnow.gauges.insert r, hnow.snapshots, hnow.votes⟩

theorem Swept.putSnapshot (h : Swept K now c c') (hs : s.epoch = now) :
    Swept K now (c.putSnapshot s) (c'.putSnapshot s) := by
  have hwritten (c : Commitments) : WrittenAt now c (c.putSnapshot s) := fun epoch hne =>
    ⟨.refl _ _, Table.sameOn_insert fun heq => hne (heq.symm.trans hs), .refl _ _⟩
  have hnow := h.current
  exact h.write (hwritten c) (hwritten c') ⟨hnow.gauges, hnow.snapshots.insert s, hnow.votes⟩

theorem Swept.addVote (h : Swept K now c c') (hr : r.epoch = now) (hs : s.epoch = now)
    (hx : x.epoch = now) : Swept K now (c.addVote r s x gaugeTotal voterTotal)
      (c'.addVote r s x gaugeTotal voterTotal) := by
  have hwritten (c : Commitments) : WrittenAt now c (c.addVote r s x gaugeTotal voterTotal) :=
    fun epoch hne =>
      ⟨Table.sameOn_insert fun heq => hne (heq.symm.trans hr),
        Table.sameOn_insert fun heq => hne (heq.symm.trans hs),
        Table.sameOn_insert fun heq => hne (heq.symm.trans hx)⟩
  have hnow := h.current
  exact h.write (hwritten c) (hwritten c')
    ⟨hnow.gauges.insert _, hnow.snapshots.insert _, hnow.votes.insert _⟩

theorem Swept.removeVote (h : Swept K now c c') (hr : r.epoch = now) (hs : s.epoch = now)
    (hx : x.epoch = now) : Swept K now (c.removeVote r s x gaugeTotal voterTotal)
      (c'.removeVote r s x gaugeTotal voterTotal) := by
  have hwritten (c : Commitments) : WrittenAt now c (c.removeVote r s x gaugeTotal voterTotal) :=
    fun epoch hne =>
      ⟨Table.sameOn_insert fun heq => hne (heq.symm.trans hr),
        Table.sameOn_insert fun heq => hne (heq.symm.trans hs),
        Table.sameOn_erase fun heq => hne (heq.symm.trans hx)⟩
  have hnow := h.current
  exact h.write (hwritten c) (hwritten c')
    ⟨hnow.gauges.insert _, hnow.snapshots.insert _, hnow.votes.erase _⟩

end

/-! ## Sweeping -/

/-- Closing a vote of an elapsed epoch in one of the two. -/
theorem Swept.closeVote {r : EpochGauge} {s : Snapshot} {x : EpochVote}
    {gaugeClosed voterClosed : UInt64} (h : Swept K now c c') (helapsed : x.epoch < now)
    (hx : c.vote? x.voter x.gauge x.epoch = some x)
    (hr : c.epochGauge? x.gauge x.epoch = some r)
    (hs : c.snapshot? x.voter x.epoch = some s) :
    Swept K now (c.closeVote r s x gaugeClosed voterClosed) c' := by
  obtain ⟨hrgauge, hrepoch⟩ := key_of_epochGauge? hr
  obtain ⟨hsvoter, hsepoch⟩ := key_of_snapshot? hs
  constructor
  case live =>
    intro epoch hlive
    have hne : x.epoch ≠ epoch := fun heq => hlive (heq ▸ helapsed)
    have hsame : SameAt epoch c (c.closeVote r s x gaugeClosed voterClosed) :=
      ⟨Table.sameOn_insert fun heq => hne (hrepoch.symm.trans heq),
        Table.sameOn_insert fun heq => hne (hsepoch.symm.trans heq),
        Table.sameOn_erase fun heq => hne heq⟩
    exact hsame.symm.trans (h.live epoch hlive)
  case gauges =>
    intro gauge epoch
    have hrel := h.gauges gauge epoch
    have hwritten : (c.closeVote r s x gaugeClosed voterClosed).epochGauge? gauge epoch = _ :=
      epochGauge?_insert rfl gauge epoch
    rw [hwritten]
    split
    · next hkey =>
      obtain ⟨rfl, rfl⟩ := hkey
      rw [show c.epochGauge? r.gauge r.epoch = some r by rw [hrgauge, hrepoch]; exact hr] at hrel
      rcases hrel with hrel | ⟨hnone, -⟩
      · refine Or.inl ?_
        generalize c'.epochGauge? r.gauge r.epoch = o at hrel
        cases hrel with
        | some hr' =>
          obtain ⟨closedPower, rfl⟩ := hr'
          exact .some ⟨closedPower, rfl⟩
      · cases hnone
    · exact hrel
  case snapshots =>
    intro voter epoch
    have hrel := h.snapshots voter epoch
    have hwritten : (c.closeVote r s x gaugeClosed voterClosed).snapshot? voter epoch = _ :=
      snapshot?_insert rfl voter epoch
    rw [hwritten]
    split
    · next hkey =>
      obtain ⟨rfl, rfl⟩ := hkey
      rw [show c.snapshot? _ _ = some s by
        rw [Snapshot.withClosed_voter, Snapshot.withClosed_epoch, hsvoter, hsepoch]
        exact hs] at hrel
      generalize c'.snapshot? _ _ = o at hrel ⊢
      cases hrel with
      | some hs' =>
        obtain ⟨closedPower, closedAllocations, rfl⟩ := hs'
        exact .some ⟨closedPower, closedAllocations, rfl⟩
    · exact hrel
  case allocation =>
    intro voter gauge epoch
    rw [allocation?_closeVote hx hs]
    exact h.allocation voter gauge epoch

/-- Cleaning the record of an elapsed epoch without power in one of the two. -/
theorem Swept.eraseEpochGauge {target : Address} {wanted : Epoch} {r : EpochGauge}
    (h : Swept K now c c') (helapsed : wanted < now)
    (hr : c.epochGauge? target wanted = some r) (hzero : r.totalPower = 0)
    (hK : K target wanted) :
    Swept K now { c with epochGauges := c.epochGauges.erase (target, wanted) } c' := by
  constructor
  case live =>
    intro epoch hlive
    have hne : wanted ≠ epoch := fun heq => hlive (heq ▸ helapsed)
    have hsame : SameAt epoch c { c with epochGauges := c.epochGauges.erase (target, wanted) } :=
      ⟨Table.sameOn_erase fun heq => hne heq, .refl _ _, .refl _ _⟩
    exact hsame.symm.trans (h.live epoch hlive)
  case gauges =>
    intro gauge epoch
    have hrel := h.gauges gauge epoch
    have herased : epochGauge? { c with epochGauges := c.epochGauges.erase (target, wanted) }
        gauge epoch = _ :=
      epochGauge?_erase rfl gauge epoch
    rw [herased]
    split
    · next hkey =>
      obtain ⟨rfl, rfl⟩ := hkey
      rw [hr] at hrel
      refine Or.inr ⟨rfl, hK, ?_⟩
      rcases hrel with hrel | ⟨hnone, -⟩
      · generalize c'.epochGauge? target wanted = o at hrel ⊢
        cases hrel with
        | some hr' =>
          obtain ⟨closedPower, rfl⟩ := hr'
          exact ⟨_, rfl, hzero⟩
      · cases hnone
    · exact hrel
  case snapshots => exact h.snapshots
  case allocation => exact h.allocation

end Commitments
end EpochVoting
