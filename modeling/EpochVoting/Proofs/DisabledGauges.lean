import EpochVoting.Proofs.Authority
import EpochVoting.Proofs.FlagBlind

/-!
# Disabled gauges

While a gauge is disabled nothing is added to it: it gets no new records and no new votes, its
power in the current epoch and the voters' weights on it only fall, and no fees are captured
for it (`Engine.FrozenSince`).  What was there before is settled as if the gauge were enabled
(`disabled_gauge_frozen`).
-/

namespace EpochVoting

/-- The weight on a disabled gauge can only be lowered. -/
theorem WeightBook.weight_le_of_setVote {b b' : WeightBook} {voter : Address} {g : Gauge}
    {weight : UInt32} {change : VoteChange} (h : b.setVote voter g weight = .ok (change, b'))
    (hdisabled : g.enabled = false) : weight ≤ b.weight voter g.target := by
  obtain ⟨_, hallowed, -⟩ := bind_eq_ok_iff.mp h
  rw [require_eq_ok_iff, hdisabled, Bool.false_or, decide_eq_true_iff] at hallowed
  exact hallowed

namespace Engine

variable {e e' e'' : Engine} {target : Address}

/-- Nothing was added to a gauge, which is disabled: no records, votes, power or weights, and
no fees. -/
structure FrozenSince (target : Address) (e e' : Engine) : Prop where
  /-- The gauge is disabled, and its counters of captured fees have not moved. -/
  gauge : ∃ g g', e.registry.gauges.find? target = some g ∧
    e'.registry.gauges.find? target = some g' ∧ g'.enabled = false ∧
    ∀ side, (g'.fee side).lastPoolTotal = (g.fee side).lastPoolTotal ∧
      (g'.fee side).cumulativeAccrued = (g.fee side).cumulativeAccrued
  /-- Its records of epochs were there before, with at least their power. -/
  epochGauge : ∀ epoch r', e'.commitments.epochGauge? target epoch = some r' →
    ∃ r, e.commitments.epochGauge? target epoch = some r ∧ r'.totalPower ≤ r.totalPower
  /-- The votes for it were there before. -/
  vote : ∀ voter epoch x, e'.commitments.vote? voter target epoch = some x →
    e.commitments.vote? voter target epoch = some x
  /-- No voter's weight on it has risen. -/
  weight : ∀ voter, e'.weights.weight voter target ≤ e.weights.weight voter target

namespace FrozenSince

theorem refl {g : Gauge} (hgauge : e.registry.gauges.find? target = some g)
    (hdisabled : g.enabled = false) : FrozenSince target e e where
  gauge := ⟨g, g, hgauge, hgauge, hdisabled, fun _ => ⟨rfl, rfl⟩⟩
  epochGauge _ r' hr := ⟨r', hr, UInt64.le_refl _⟩
  vote _ _ _ hx := hx
  weight _ := UInt32.le_refl _

theorem trans (h : FrozenSince target e e') (h' : FrozenSince target e' e'') :
    FrozenSince target e e'' where
  gauge := by
    obtain ⟨g, g', hg, hg', -, hcounters⟩ := h.gauge
    obtain ⟨g₁, g'', hg₁, hg'', hdisabled, hcounters'⟩ := h'.gauge
    cases hg'.symm.trans hg₁
    exact ⟨g, g'', hg, hg'', hdisabled, fun side =>
      ⟨(hcounters' side).1.trans (hcounters side).1, (hcounters' side).2.trans (hcounters side).2⟩⟩
  epochGauge epoch r'' hr'' := by
    obtain ⟨r', hr', hle'⟩ := h'.epochGauge epoch r'' hr''
    obtain ⟨r, hr, hle⟩ := h.epochGauge epoch r' hr'
    exact ⟨r, hr, UInt64.le_trans hle' hle⟩
  vote voter epoch x hx := h.vote voter epoch x (h'.vote voter epoch x hx)
  weight voter := UInt32.le_trans (h'.weight voter) (h.weight voter)

/-- The gauge's power in the current epoch has not risen, also if the epoch has advanced: in a
new epoch the gauge has no record. -/
theorem currentPower_le (h : FrozenSince target e e') (hsound : e.PowerSound)
    (hclock : e.currentEpoch ≤ e'.currentEpoch) :
    e'.totalPower target e'.currentEpoch ≤ e.totalPower target e.currentEpoch := by
  unfold totalPower
  cases hr' : e'.commitments.epochGauge? target e'.currentEpoch with
  | none => exact UInt64.zero_le
  | some r' =>
    obtain ⟨r, hr, hle⟩ := h.epochGauge _ r' hr'
    -- The record was there before, so it is not of a later epoch.
    have hpast := hsound.consistent.gauges r (Table.mem_of_find? hr)
    rw [(Commitments.key_of_epochGauge? hr).2] at hpast
    rw [← UInt32.le_antisymm hpast hclock, hr]
    exact hle

end FrozenSince

/-- A gauge is put that, if it is the disabled one, is as disabled and has captured as much as
the one it replaces. -/
theorem frozen_put {r : Registry} {g old new : Gauge} (hgauge : r.gauges.find? target = some g)
    (hdisabled : g.enabled = false) (hold : r.gauges.find? new.target = some old)
    (hnew : new.target = target → new.enabled = false) (hcounters : ∀ side,
      (new.fee side).lastPoolTotal = (old.fee side).lastPoolTotal ∧
        (new.fee side).cumulativeAccrued = (old.fee side).cumulativeAccrued) :
    ∃ g g', r.gauges.find? target = some g ∧ (r.put new).gauges.find? target = some g' ∧
      g'.enabled = false ∧ ∀ side, (g'.fee side).lastPoolTotal = (g.fee side).lastPoolTotal ∧
        (g'.fee side).cumulativeAccrued = (g.fee side).cumulativeAccrued := by
  by_cases hname : new.target = target
  · refine ⟨old, new, hname ▸ hold, ?_, hnew hname, hcounters⟩
    rw [Registry.find?_put, if_pos hname]
  · refine ⟨g, g, hgauge, ?_, hdisabled, fun _ => ⟨rfl, rfl⟩⟩
    rw [Registry.find?_put, if_neg hname, hgauge]

/-- A record is replaced by one without more power. -/
theorem frozen_insert {c c' : Commitments} {old r : EpochGauge}
    (hinsert : c'.epochGauges = c.epochGauges.insert r)
    (hr : c.epochGauge? r.gauge r.epoch = some old) (hle : r.totalPower ≤ old.totalPower)
    (epoch : Epoch) (r' : EpochGauge) (hr' : c'.epochGauge? target epoch = some r') :
    ∃ r, c.epochGauge? target epoch = some r ∧ r'.totalPower ≤ r.totalPower := by
  rw [Commitments.epochGauge?_insert hinsert] at hr'
  split at hr'
  · next hkey =>
    cases hr'
    exact ⟨old, by rw [← hkey.1, ← hkey.2, hr], hle⟩
  · exact ⟨r', hr', UInt64.le_refl _⟩

/-- Every change that leaves a disabled gauge disabled adds nothing to it. -/
theorem Change.frozen {g : Gauge} (h : e.Change e')
    (hgauge : e.registry.gauges.find? target = some g) (hdisabled : g.enabled = false)
    (hstill : e'.registry.isEnabled target = false) : FrozenSince target e e' := by
  have hsame := FrozenSince.refl hgauge hdisabled
  cases h with
  | clock hepoch hnext hcount => exact { hsame with }
  | @gaugeCreated new mints totals hnone =>
    have hne : new ≠ target := by
      rintro rfl
      cases hnone.symm.trans hgauge
    refine { hsame with gauge := ⟨g, g, hgauge, ?_, hdisabled, fun _ => ⟨rfl, rfl⟩⟩ }
    exact (Registry.find?_put ..).trans ((if_neg hne).trans hgauge)
  | @gaugeSwitched name old enabled hold =>
    obtain rfl := Registry.target_of_find? hold
    refine { hsame with gauge := frozen_put hgauge hdisabled hold ?_ fun _ => ⟨rfl, rfl⟩ }
    rintro rfl
    rw [Registry.isEnabled_put, if_pos rfl] at hstill
    exact hstill
  | @weightSet voter name other weight change weights hother hset =>
    refine { hsame with weight := fun v => ?_ }
    obtain ⟨total, seqno, rfl, -⟩ := WeightBook.write_of_setVote hset
    change (e.weights.write voter other.target weight total seqno).weight v target ≤ _
    rw [WeightBook.weight_write]
    split
    · next hkey =>
      obtain ⟨rfl, rfl⟩ := hkey
      rw [Registry.target_of_find? hother] at hgauge
      cases hother.symm.trans hgauge
      exact WeightBook.weight_le_of_setVote hset hdisabled
    · exact UInt32.le_refl _
  | snapshotTaken hnone => exact { hsame with }
  | snapshotReset hs hzero => exact { hsame with }
  | @captured name other totals capture hother henabled hnone hcapture =>
    obtain rfl := Registry.target_of_find? hother
    have hne : other.target ≠ target := by
      rintro rfl
      cases hother.symm.trans hgauge
      cases henabled.symm.trans hdisabled
    refine { hsame with
      gauge := ⟨g, g, hgauge, ?_, hdisabled, fun _ => ⟨rfl, rfl⟩⟩
      epochGauge := fun epoch r' hr' => ⟨r', ?_, UInt64.le_refl _⟩ }
    · exact (Registry.find?_put ..).trans ((if_neg hne).trans hgauge)
    · refine Eq.trans ?_ hr'
      exact (Table.find?_insert_of_ne fun hkey => hne (Prod.mk.inj hkey).1).symm
  | @committed other r s x gaugeTotal voterTotal hepoch hother henabled hnone hs hseqno hr =>
    have hname := (Commitments.key_of_epochGauge? hr).1
    have hne : x.gauge ≠ target := by
      rintro rfl
      cases hother.symm.trans hgauge
      cases henabled.symm.trans hdisabled
    refine { hsame with
      epochGauge := fun epoch r' hr' => ⟨r', ?_, UInt64.le_refl _⟩
      vote := fun voter epoch y hy => ?_ }
    · have hother : ¬ (r.gauge = target ∧ r.epoch = epoch) :=
        fun hkey => hne (hname.symm.trans hkey.1)
      rw [Commitments.epochGauge?_insert rfl] at hr'
      exact (if_neg hother).symm.trans hr'
    · have hother : ¬ (x.voter = voter ∧ x.gauge = target ∧ x.epoch = epoch) :=
        fun hkey => hne hkey.2.1
      rw [Commitments.vote?_insert rfl] at hy
      exact (if_neg hother).symm.trans hy
  | @reverted r s x gaugeTotal voterTotal hepoch hx hr hs hgaugeTotal =>
    have hrecord := Commitments.epochGauge?_self hr
    refine { hsame with
      epochGauge := frozen_insert (r := { r with totalPower := gaugeTotal }) rfl hrecord ?_
      vote := fun voter epoch y hy => ?_ }
    · rw [UInt64.le_iff_toNat_le, hgaugeTotal]
      exact Nat.le_add_right ..
    · exact Commitments.vote?_of_erase rfl hy
  | @closed r s x gaugeClosed voterClosed helapsed hx hr hs =>
    have hrecord := Commitments.epochGauge?_self hr
    refine { hsame with
      epochGauge := frozen_insert (r := { r with closedPower := gaugeClosed }) rfl hrecord
        (UInt64.le_refl _)
      vote := fun voter epoch y hy => ?_ }
    exact Commitments.vote?_of_erase rfl hy
  | @cleaned name epoch old r pruned helapsed hr hzero hold =>
    obtain rfl := Registry.target_of_find? hold
    refine { hsame with
      gauge := frozen_put hgauge hdisabled hold ?_ fun side => ?_
      epochGauge := fun n r' hr' => ⟨r', ?_, UInt64.le_refl _⟩ }
    · rintro rfl
      cases hold.symm.trans hgauge
      exact hdisabled
    · rw [Gauge.fee_setPruned]
      exact ⟨rfl, rfl⟩
    · rw [Commitments.epochGauge?_erase rfl] at hr'
      split at hr'
      · cases hr'
      · exact hr'
  | @feeClaimed voter name epoch side old r s claim helapsed hold =>
    obtain rfl := Registry.target_of_find? hold
    refine { hsame with gauge := frozen_put hgauge hdisabled hold ?_ fun side => ?_ }
    · rintro rfl
      cases hold.symm.trans hgauge
      exact hdisabled
    · by_cases hside : claim.side = side
      · subst hside
        rw [FeeClaim.fee_applyToGauge_self]
        exact ⟨rfl, rfl⟩
      · rw [FeeClaim.fee_applyToGauge_of_ne hside]
        exact ⟨rfl, rfl⟩
  | bribeCreated => exact { hsame with }
  | bribeClaimed => exact { hsame with }
  | bribeReturned => exact { hsame with }

end Engine

/-! ## While a gauge is disabled -/

namespace Deployment

open Engine EpochVoting.Action

variable {d : Deployment} {operation : Operation} {target : Address}

/-- The foreman enables the gauge. -/
def Enables (target : Address) (d : Deployment) (operation : Operation) : Prop :=
  (∃ authority, operation = .setGaugeEnabled authority target true) ∧
    operation.caller? d = some d.engine.factory.foreman

/-- A step that does not enable a disabled gauge adds nothing to it. -/
theorem Step.frozen {reply : Reply} {d' : Deployment} (h : Step d operation reply d')
    {e : Engine} (hfrozen : FrozenSince target e d.engine) :
    FrozenSince target e d'.engine ∨ d.Enables target operation := by
  obtain ⟨_, g, -, hgauge, hdisabled, -⟩ := hfrozen.gauge
  rcases h.change with hsame | hchange
  · exact Or.inl (hsame ▸ hfrozen)
  have hwas : d.engine.registry.isEnabled target = false := by
    simp [Registry.isEnabled, hgauge, hdisabled]
  refine or_iff_not_imp_right.mpr fun hnot => ?_
  refine hfrozen.trans (hchange.frozen hgauge hdisabled ?_)
  rcases h.isEnabled_cases target with hsame | ⟨hcaller, authority, enabled, rfl⟩
  · exact hsame.trans hwas
  · cases enabled with
    | true => exact absurd ⟨⟨authority, rfl⟩, hcaller⟩ hnot
    | false =>
      cases h with
      | setGaugeEnabled hcall =>
        obtain ⟨old, hold, rfl⟩ := setGaugeEnabled_eq_ok hcall
        rw [Registry.isEnabled_put, Registry.target_of_find? hold, if_pos rfl]

/-- A gauge that is there cannot be added again. -/
theorem after_addGauge_of_registered {g : Gauge} {mints : PerSide Address}
    (hgauge : d.engine.registry.gauges.find? target = some g) :
    d.after (.addGauge target mints) = d := by
  have hrefused : d.engine.createGauge target mints (d.pool.totals target) =
      .error (.gaugeExists target) := by
    unfold Engine.createGauge Registry.create Table.contains
    rw [hgauge]
    rfl
  have hfails : (Deployment.createGauge target mints).run d = .error (.gaugeExists target) d := by
    refine run_onEngine_eq_error_iff.mpr ⟨?_, rfl⟩
    dsimp only
    rw [hrefused]
    rfl
  calc d.after (.addGauge target mints)
    _ = (Deployment.addGauge target mints).leaves d :=
        (after_eq_leaves ..).trans (leaves_bind_pure ..)
    _ = (Deployment.createGauge target mints).leaves d := leaves_bind_error hfails
    _ = d := leaves_of_error (atomic_changeEngine _) hfails

/-- No operation but the foreman's adds anything to a disabled gauge. -/
theorem frozen_after {e : Engine} (hfrozen : FrozenSince target e d.engine)
    (hnot : ¬ d.Enables target operation) : FrozenSince target e (d.after operation).engine := by
  by_cases hadds : ∃ mints, operation = .addGauge target mints
  · obtain ⟨mints, rfl⟩ := hadds
    obtain ⟨_, g, -, hgauge, -⟩ := hfrozen.gauge
    rw [after_addGauge_of_registered hgauge]
    exact hfrozen
  · refine (kept_unless (P := FrozenSince target e) (Q := Enables target)
      (fun hstep h => hstep.frozen h) ?_ hfrozen).resolve_right hnot
    rintro x part hmade ⟨⟨authority, rfl⟩, -⟩
    cases hmade with
    | enable => exact hadds ⟨_, rfl⟩
    | commit hpart => cases hpart

theorem frozen_afterAll {g : Gauge} (hgauge : d.engine.registry.gauges.find? target = some g)
    (hdisabled : g.enabled = false) {run : List Operation}
    (hstill : ¬ d.Occurs (Enables target) run) :
    FrozenSince target d.engine (d.afterAll run).engine :=
  kept_along_run (P := fun x => FrozenSince target d.engine x.engine)
    (fun _ _ hfrozen hnot => frozen_after hfrozen hnot) hstill (.refl hgauge hdisabled)

/-- What it means for a gauge to be disabled. -/
structure DisablingFreezes (d : Deployment) (target : Address) : Prop where
  /-- Until the gauge is enabled, nothing is added to it, and its power in the current epoch
  does not rise. -/
  frozen : ∀ g during, d.engine.registry.gauges.find? target = some g → g.enabled = false →
    ¬ d.Occurs (Enables target) during →
    FrozenSince target d.engine (d.afterAll during).engine ∧
      (d.afterAll during).engine.totalPower target (d.afterAll during).engine.currentEpoch ≤
        d.engine.totalPower target d.engine.currentEpoch
  /-- Settling and lowering weights have the answers and make the changes that they would with
  the gauge enabled. -/
  settles : ∀ operation, d.ignoresFlag operation = true →
    (d.enabling target).answer operation = d.answer operation ∧
      (d.enabling target).after operation = (d.after operation).enabling target

/-- Wherever a run has led, disabling a gauge freezes it for what is new and for nothing
else. -/
theorem disabled_gauge_frozen {foreman : Address} {params : FactoryParams} {maxLockSecs : UInt64}
    (hcreate : create foreman params maxLockSecs = .ok d) (run : List Operation)
    (target : Address) : (d.afterAll run).DisablingFreezes target where
  frozen g during hgauge hdisabled hstill := by
    have hfrozen := frozen_afterAll hgauge hdisabled hstill
    exact ⟨hfrozen, hfrozen.currentPower_le (sound_afterAll hcreate run).power
      (currentEpoch_le_afterAll during _)⟩
  settles _ hignores := flag_blind _ target hignores

end Deployment

namespace Sample

open Deployment

/-- The sample run up to the vote of the first epoch, after which the gauge is disabled. -/
def disabled : Deployment :=
  deployment.afterAll (run.take 7 ++ [.setGaugeEnabled none (account 1) false])

/-- What still happens to the gauge: its voter lowers the weight, takes the vote back and
fails to commit again, its pool earns fees, and the epoch ends. -/
def whileDisabled : List Operation :=
  [.setVote none (account 4) (account 1) 3, .revert none (account 4) (account 1) none,
    .commit (account 4) (account 1), .accrueFees (account 1) .a 5, .nextEpoch,
    .ensureEpochGauge (account 1) none]

theorem disabled_gauge_frozen_whileDisabled :
    Engine.FrozenSince (account 1) disabled.engine (disabled.afterAll whileDisabled).engine ∧
    (disabled.enabling (account 1)).answer (.revert none (account 4) (account 1) none) =
      disabled.answer (.revert none (account 4) (account 1) none) := by
  have hfreezes : disabled.DisablingFreezes (account 1) :=
    disabled_gauge_frozen create_deployment _ (account 1)
  have hflag : (disabled.engine.registry.gauges.find? (account 1)).map Gauge.enabled =
      some false := by
    decide +kernel
  obtain ⟨g, hgauge, hdisabled⟩ := Option.map_eq_some_iff.mp hflag
  refine ⟨(hfreezes.frozen g whileDisabled hgauge hdisabled (not_occurs ?_ _)).1,
    (hfreezes.settles (.revert none (account 4) (account 1) none) rfl).1⟩
  rintro operation hop d ⟨⟨authority, rfl⟩, -⟩
  simp [whileDisabled] at hop

end Sample
end EpochVoting
