import EpochVoting.Proofs.Persistence

/-!
# What only grows

No record that settles anything is ever lost, and nothing that it says is ever unsaid:
flags stay set, claims and clawbacks stay as they were written, and the totals of gauges
and bribes, the sequence numbers and the factory's counters never fall (`Engine.Grows`).
One change of the records keeps this (`Engine.Change.grows`), and so does every run with
restarts from a new deployment (`Deployment.grows_afterEvents`).
-/

namespace EpochVoting

open Std

namespace Table

variable {ρ κ : Type} [Keyed ρ κ] [Ord κ] {R : ρ → ρ → Prop} {t t' t'' : Table ρ}

/-- Every record has a successor under its key, in the relation `R` to it. -/
def Extends (R : ρ → ρ → Prop) (t t' : Table ρ) : Prop :=
  ∀ k r, t.find? k = some r → ∃ r', t'.find? k = some r' ∧ R r r'

theorem extends_refl (hrefl : ∀ r, R r r) (t : Table ρ) : t.Extends R t :=
  fun _ r hr => ⟨r, hr, hrefl r⟩

theorem Extends.trans (htrans : ∀ r r' r'', R r r' → R r' r'' → R r r'')
    (h : t.Extends R t') (h' : t'.Extends R t'') : t.Extends R t'' := by
  intro k r hr
  obtain ⟨r', hr', hfirst⟩ := h k r hr
  obtain ⟨r'', hr'', hsecond⟩ := h' k r' hr'
  exact ⟨r'', hr'', htrans r r' r'' hfirst hsecond⟩

theorem find?_eq_none_of_contains {k : κ} (h : t.contains k = false) : t.find? k = none :=
  Option.isNone_iff_eq_none.mp (Option.isSome_eq_false_iff.mp h)

variable [TransOrd κ] [LawfulEqOrd κ] [DecidableEq κ]

/-- A record that takes the place of one it is a successor of, or of none. -/
theorem extends_insert (hrefl : ∀ r, R r r) {new : ρ}
    (h : ∀ r, t.find? (Keyed.key new) = some r → R r new) :
    t.Extends R (t.insert new) := by
  intro k r hr
  rw [find?_insert_ite]
  split
  · next hkey =>
    subst hkey
    exact ⟨new, rfl, h r hr⟩
  · exact ⟨r, hr, hrefl r⟩

/-- A record under a new key. -/
theorem extends_insert_new (hrefl : ∀ r, R r r) {new : ρ}
    (hnone : t.find? (Keyed.key new) = none) : t.Extends R (t.insert new) := by
  refine extends_insert hrefl fun r hr => ?_
  rw [hnone] at hr
  cases hr

end Table

/-! ## Growing records -/

/-- Neither what was captured, nor what was claimed, nor what was pruned has fallen. -/
structure FeeCounter.Grows (c c' : FeeCounter) : Prop where
  accrued : c.cumulativeAccrued ≤ c'.cumulativeAccrued
  claimed : c.cumulativeClaimed ≤ c'.cumulativeClaimed
  pruned : c.prunedAccrued ≤ c'.prunedAccrued

/-- The counters of both sides grow. -/
def Gauge.Grows (g g' : Gauge) : Prop :=
  ∀ side, (g.fee side).Grows (g'.fee side)

/-- No flag is unset, and the sequence number does not fall. -/
structure Snapshot.Grows (s s' : Snapshot) : Prop where
  flags : ∀ gauge side, s.feeClaimed gauge side = true → s'.feeClaimed gauge side = true
  seqno : s.weightChangeSeqno ≤ s'.weightChangeSeqno

/-- Neither what was claimed nor what was clawed back has fallen. -/
structure Bribe.Grows (b b' : Bribe) : Prop where
  claimed : b.claimedAmount ≤ b'.claimedAmount
  clawedBack : b.clawedBackAmount ≤ b'.clawedBackAmount

theorem FeeCounter.Grows.refl (c : FeeCounter) : c.Grows c :=
  ⟨UInt64.le_refl _, UInt64.le_refl _, UInt64.le_refl _⟩

theorem FeeCounter.Grows.trans {c c' c'' : FeeCounter} (h : c.Grows c') (h' : c'.Grows c'') :
    c.Grows c'' :=
  ⟨UInt64.le_trans h.accrued h'.accrued, UInt64.le_trans h.claimed h'.claimed,
    UInt64.le_trans h.pruned h'.pruned⟩

theorem Gauge.Grows.refl (g : Gauge) : g.Grows g :=
  fun _ => .refl _

theorem Gauge.Grows.trans {g g' g'' : Gauge} (h : g.Grows g') (h' : g'.Grows g'') :
    g.Grows g'' :=
  fun side => (h side).trans (h' side)

theorem Snapshot.Grows.refl (s : Snapshot) : s.Grows s :=
  ⟨fun _ _ h => h, UInt64.le_refl _⟩

theorem Snapshot.Grows.trans {s s' s'' : Snapshot} (h : s.Grows s') (h' : s'.Grows s'') :
    s.Grows s'' :=
  ⟨fun gauge side hflag => h'.flags gauge side (h.flags gauge side hflag),
    UInt64.le_trans h.seqno h'.seqno⟩

theorem Bribe.Grows.refl (b : Bribe) : b.Grows b :=
  ⟨UInt64.le_refl _, UInt64.le_refl _⟩

theorem Bribe.Grows.trans {b b' b'' : Bribe} (h : b.Grows b') (h' : b'.Grows b'') :
    b.Grows b'' :=
  ⟨UInt64.le_trans h.claimed h'.claimed, UInt64.le_trans h.clawedBack h'.clawedBack⟩

/-! ## Writes -/

/-- A capture adds to what was captured. -/
theorem FeeCapture.grows_apply {g : Gauge} {totals : PerSide UInt64} {c : FeeCapture}
    (h : compute g totals = .ok c) : g.Grows (c.apply g) := by
  obtain ⟨-, hsides⟩ := compute_eq_ok_iff.mp h
  intro side
  obtain ⟨-, htotal⟩ := hsides side
  rw [fee_apply]
  refine ⟨?_, UInt64.le_refl _, UInt64.le_refl _⟩
  rw [UInt64.le_iff_toNat_le, htotal]
  exact Nat.le_add_right _ _

/-- A clean adds to what was pruned. -/
theorem Gauge.grows_setPruned {g : Gauge} {record : EpochGauge} {pruned : PerSide UInt64}
    (h : g.prunedTotals record = .ok pruned) : g.Grows (g.setPruned pruned) := by
  intro side
  have htotal := Gauge.prunedTotals_eq_ok_iff.mp h side
  rw [Gauge.fee_setPruned]
  refine ⟨UInt64.le_refl _, UInt64.le_refl _, ?_⟩
  rw [UInt64.le_iff_toNat_le, htotal]
  exact Nat.le_add_right _ _

/-- A claim adds to what was claimed. -/
theorem FeeClaim.grows_applyToGauge {g : Gauge} {record : EpochGauge} {s : Snapshot}
    {allocation : Option UInt64} {side : FeeSide} {c : FeeClaim}
    (h : compute g record s allocation side = .ok (some c)) : g.Grows (c.applyToGauge g) := by
  obtain ⟨-, -, a, -, rfl, -, htotal⟩ := compute_eq_ok_some_iff.mp h
  intro other
  by_cases hside : c.side = other
  · subst hside
    rw [fee_applyToGauge_self]
    refine ⟨UInt64.le_refl _, ?_, UInt64.le_refl _⟩
    rw [UInt64.le_iff_toNat_le, htotal]
    exact Nat.le_add_right _ _
  · rw [fee_applyToGauge_of_ne hside]
    exact .refl _

/-- A claim sets a flag and leaves the others. -/
theorem Snapshot.grows_markFeeClaimed (s : Snapshot) (gauge : Address) (side : FeeSide) :
    s.Grows (s.markFeeClaimed gauge side) := by
  refine ⟨fun gauge' side' hflag => ?_, UInt64.le_refl _⟩
  rw [feeClaimed_markFeeClaimed]
  split
  · rfl
  · exact hflag

theorem Snapshot.grows_of_same {s s' : Snapshot} (hflags : s'.feeClaims = s.feeClaims)
    (hseqno : s'.weightChangeSeqno = s.weightChangeSeqno) : s.Grows s' := by
  refine ⟨fun gauge side hflag => ?_, ?_⟩
  · rw [feeClaimed_congr hflags]
    exact hflag
  · rw [hseqno]
    exact UInt64.le_refl _

/-! ## Engines -/

namespace Engine

variable {e e' e'' : Engine}

/-- Nothing that only grows has fallen, and no record of a settlement is lost. -/
structure Grows (e e' : Engine) : Prop where
  epoch : e.factory.currentEpoch ≤ e'.factory.currentEpoch
  due : e.factory.nextEpochStartsAt.secs ≤ e'.factory.nextEpochStartsAt.secs
  bribeCount : e.factory.bribeCount ≤ e'.factory.bribeCount
  seqno : ∀ voter, e.weights.seqno voter ≤ e'.weights.seqno voter
  gauges : e.registry.gauges.Extends Gauge.Grows e'.registry.gauges
  snapshots : e.commitments.snapshots.Extends Snapshot.Grows e'.commitments.snapshots
  bribes : e.bribes.bribes.Extends Bribe.Grows e'.bribes.bribes
  claims : e.bribes.claims.Extends Eq e'.bribes.claims
  clawbacks : e.bribes.clawbacks.Extends Eq e'.bribes.clawbacks

theorem Grows.refl (e : Engine) : e.Grows e where
  epoch := UInt32.le_refl _
  due := UInt64.le_refl _
  bribeCount := UInt64.le_refl _
  seqno _ := UInt64.le_refl _
  gauges := Table.extends_refl .refl _
  snapshots := Table.extends_refl .refl _
  bribes := Table.extends_refl .refl _
  claims := Table.extends_refl .refl _
  clawbacks := Table.extends_refl .refl _

theorem Grows.trans (h : e.Grows e') (h' : e'.Grows e'') : e.Grows e'' where
  epoch := UInt32.le_trans h.epoch h'.epoch
  due := UInt64.le_trans h.due h'.due
  bribeCount := UInt64.le_trans h.bribeCount h'.bribeCount
  seqno voter := UInt64.le_trans (h.seqno voter) (h'.seqno voter)
  gauges := h.gauges.trans (fun _ _ _ => .trans) h'.gauges
  snapshots := h.snapshots.trans (fun _ _ _ => .trans) h'.snapshots
  bribes := h.bribes.trans (fun _ _ _ => .trans) h'.bribes
  claims := h.claims.trans (fun _ _ _ => .trans) h'.claims
  clawbacks := h.clawbacks.trans (fun _ _ _ => .trans) h'.clawbacks

/-- A gauge that takes the place of the one it grew from. -/
theorem extends_put {target : Address} {g g' : Gauge}
    (hgauge : e.registry.gauges.find? target = some g) (hname : g'.target = g.target)
    (hgrows : g.Grows g') :
    e.registry.gauges.Extends Gauge.Grows (e.registry.put g').gauges := by
  refine Table.extends_insert .refl fun old hold => ?_
  obtain rfl := Registry.target_of_find? hgauge
  rw [show Keyed.key g' = g.target from hname, hgauge] at hold
  cases hold
  exact hgrows

/-- A snapshot that takes the place of the one it grew from. -/
theorem extends_snapshot {voter : Address} {epoch : Epoch} {s s' : Snapshot}
    (hs : e.commitments.snapshot? voter epoch = some s)
    (hkey : (s'.voter, s'.epoch) = (s.voter, s.epoch)) (hgrows : s.Grows s') :
    e.commitments.snapshots.Extends Snapshot.Grows (e.commitments.snapshots.insert s') := by
  refine Table.extends_insert .refl fun old hold => ?_
  have hself : e.commitments.snapshots.find? (s.voter, s.epoch) = some s :=
    Commitments.snapshot?_self hs
  rw [show Keyed.key s' = (s.voter, s.epoch) from hkey, hself] at hold
  cases hold
  exact hgrows

/-- A bribe that takes the place of the one it grew from. -/
theorem extends_bribe {id : UInt64} {b b' : Bribe} (hb : e.bribes.bribes.find? id = some b)
    (hkey : b'.id = b.id) (hgrows : b.Grows b') :
    e.bribes.bribes.Extends Bribe.Grows (e.bribes.bribes.insert b') := by
  refine Table.extends_insert .refl fun old hold => ?_
  have hself : e.bribes.bribes.find? b'.id = some b := by
    rw [hkey, show b.id = id from Table.key_of_find? hb]
    exact hb
  rw [show Keyed.key b' = b'.id from rfl, hself] at hold
  cases hold
  exact hgrows

/-- A change of the records by which the epoch's end is not moved back. -/
theorem Change.grows (h : e.Change e') (hsound : e.Sound)
    (hdue : e.factory.nextEpochStartsAt.secs ≤ e'.factory.nextEpochStartsAt.secs) :
    e.Grows e' := by
  cases h with
  | clock hepoch _ hcount =>
    exact { Grows.refl e with
      epoch := hepoch, due := hdue, bribeCount := UInt64.le_of_eq hcount.symm }
  | gaugeCreated hnone =>
    exact { Grows.refl e with gauges := Table.extends_insert_new .refl hnone }
  | gaugeSwitched hgauge =>
    exact { Grows.refl e with gauges := extends_put hgauge rfl (.refl _) }
  | @weightSet voter _ _ _ _ _ _ hset =>
    obtain ⟨total, seqno, rfl, -, hseqno⟩ := WeightBook.write_of_setVote hset
    refine { Grows.refl e with seqno := fun v => ?_ }
    rw [WeightBook.seqno_write]
    split
    · next hv =>
      subst hv
      rw [UInt64.le_iff_toNat_le, hseqno]
      exact Nat.le_add_right _ _
    · exact UInt64.le_refl _
  | snapshotTaken hnone =>
    exact { Grows.refl e with snapshots := Table.extends_insert_new .refl hnone }
  | snapshotReset hs hzero =>
    -- A snapshot is never newer than the weights that it is taken under again.
    have hpinned := (hsound.power.pinned _ (Table.mem_of_find? hs)).1
    rw [(Commitments.key_of_snapshot? hs).1, ← UInt64.le_iff_toNat_le] at hpinned
    exact { Grows.refl e with
      snapshots := extends_snapshot hs rfl ⟨fun _ _ hflag => hflag, hpinned⟩ }
  | captured hgauge _ _ hcapture =>
    exact { Grows.refl e with
      gauges := extends_put hgauge rfl (FeeCapture.grows_apply hcapture) }
  | committed _ _ _ _ hs =>
    exact { Grows.refl e with
      snapshots := extends_snapshot hs rfl (Snapshot.grows_of_same rfl rfl) }
  | reverted _ _ _ hs =>
    exact { Grows.refl e with
      snapshots := extends_snapshot hs rfl (Snapshot.grows_of_same rfl rfl) }
  | closed _ _ _ hs =>
    exact { Grows.refl e with
      snapshots := extends_snapshot hs rfl (Snapshot.grows_of_same rfl rfl) }
  | cleaned _ _ _ hgauge hpruned =>
    exact { Grows.refl e with
      gauges := extends_put hgauge rfl (Gauge.grows_setPruned hpruned) }
  | feeClaimed _ hgauge _ hs hclaim =>
    exact { Grows.refl e with
      gauges := extends_put hgauge rfl (FeeClaim.grows_applyToGauge hclaim)
      snapshots := extends_snapshot hs rfl (Snapshot.grows_markFeeClaimed ..) }
  | bribeCreated _ hid hbribe =>
    have hfree := hsound.bribes.next_id_free hid
    obtain ⟨hfits, rfl⟩ := Factory.nextBribeId_eq_ok_iff.mp hid
    obtain ⟨rfl, -⟩ := Bribe.prepare_eq_ok_iff.mp hbribe
    refine { Grows.refl e with
      bribeCount := ?_
      bribes := Table.extends_insert_new .refl hfree }
    show e.factory.bribeCount ≤ e.factory.bribeCount + 1
    have hone : (1 : UInt64).toNat = 1 := rfl
    rw [UInt64.le_iff_toNat_le, UInt64.toNat_add, hone]
    omega
  | bribeClaimed _ hbribe hclaim hrecorded =>
    obtain ⟨rfl, rfl, rfl, -, hnew, -⟩ := (BribeLedger.checkClaim_eq_ok_iff hbribe).mp hclaim
    obtain ⟨total, htotal, rfl⟩ := (BribeLedger.recordClaim_eq_ok_iff hbribe).mp hrecorded
    refine { Grows.refl e with
      bribes := extends_bribe hbribe rfl ⟨?_, UInt64.le_refl _⟩
      claims := Table.extends_insert_new Eq.refl (Table.find?_eq_none_of_contains hnew) }
    rw [UInt64.le_iff_toNat_le, htotal]
    exact Nat.le_add_right _ _
  | bribeReturned _ hbribe hclawback hrecorded =>
    obtain ⟨rfl, -, -, -, hnew, -⟩ := (BribeLedger.checkClawback_eq_ok_iff hbribe).mp hclawback
    obtain ⟨total, htotal, rfl⟩ := (BribeLedger.recordClawback_eq_ok_iff hbribe).mp hrecorded
    refine { Grows.refl e with
      bribes := extends_bribe hbribe rfl ⟨UInt64.le_refl _, ?_⟩
      clawbacks := Table.extends_insert_new Eq.refl (Table.find?_eq_none_of_contains hnew) }
    rw [UInt64.le_iff_toNat_le, htotal]
    exact Nat.le_add_right _ _

end Engine

/-! ## Runs -/

namespace Deployment

open Engine EpochVoting.Action

variable {d d' : Deployment} {operation : Operation} {reply : Reply}

/-- The end of the epoch is never moved back, also not when its duration is changed. -/
theorem Step.due_le (h : Step d operation reply d') :
    d.engine.factory.nextEpochStartsAt.secs ≤ d'.engine.factory.nextEpochStartsAt.secs := by
  by_cases hwrites : Book.factory ∈ operation.writes
  case neg =>
    have hsame : d'.engine.factory = d.engine.factory := h.keeps .factory hwrites
    rw [hsame]
    exact UInt64.le_refl _
  case pos =>
    cases h with
    | advanceEpoch hcall =>
      obtain ⟨factory, hadvance, heq⟩ := bind_eq_ok_iff.mp hcall
      cases heq
      obtain ⟨-, next, due, -, hlater, rfl⟩ := Factory.advance_eq_ok_iff.mp hadvance
      obtain ⟨secs, hsum, rfl⟩ := Option.map_eq_some_iff.mp hlater
      have htotal := Amount.add?_eq_some_iff.mp hsum
      show d.engine.factory.nextEpochStartsAt.secs ≤ secs
      rw [UInt64.le_iff_toNat_le, htotal]
      exact Nat.le_add_right _ _
    | setForeman hcall =>
      obtain ⟨factory, hset, heq⟩ := bind_eq_ok_iff.mp hcall
      cases heq
      obtain ⟨-, rfl⟩ := Factory.setForeman_eq_ok_iff.mp hset
      exact UInt64.le_refl _
    | setEpochDuration hcall =>
      obtain ⟨factory, hset, heq⟩ := bind_eq_ok_iff.mp hcall
      cases heq
      obtain ⟨-, -, rfl⟩ := Factory.setEpochDuration_eq_ok_iff.mp hset
      exact UInt64.le_refl _
    | bribeCreated => exact UInt64.le_refl _
    | _ => simp [Operation.writes] at hwrites

theorem grows_after_basic (hbasic : operation.isBasic = true) (hsound : d.engine.Sound) :
    d.engine.Grows (d.after operation).engine := by
  rcases engine_after_cases (d := d) hbasic with hsame | ⟨_, hstep⟩
  · rw [hsame]
    exact .refl _
  · rcases hstep.change with hsame | hchange
    · rw [hsame]
      exact .refl _
    · exact hchange.grows hsound hstep.due_le

/-- Nothing that only grows falls on a run. -/
theorem grows_afterAll (run : List Operation) (hsound : d.engine.Sound) :
    d.engine.Grows (d.afterAll run).engine := by
  have hparts (parts : List Operation) (hbasic : ∀ part ∈ parts, part.isBasic = true)
      {d : Deployment} (hsound : d.engine.Sound) :
      d.engine.Grows (d.afterAll parts).engine := by
    induction parts generalizing d with
    | nil => exact .refl _
    | cons part rest ih =>
      have hnext := sound_of_changes (changes_of_afterAll [part] d) hsound
      rw [afterAll_cons]
      exact (grows_after_basic (hbasic part List.mem_cons_self) hsound).trans
        (ih (fun p hp => hbasic p (List.mem_cons_of_mem part hp)) hnext)
  induction run generalizing d with
  | nil => exact .refl _
  | cons operation rest ih =>
    obtain ⟨parts, hparts', -, hlast⟩ := after_parts d operation
    have hnext := sound_of_changes (changes_of_afterAll [operation] d) hsound
    have hfirst := hparts parts (fun part hpart => (hparts' part hpart).1) hsound
    rw [← hlast] at hfirst
    rw [afterAll_cons]
    exact hfirst.trans (ih hnext)

theorem calls_append (first rest : List Event) :
    calls (first ++ rest) = calls first ++ calls rest := by
  induction first with
  | nil => rfl
  | cons event first ih =>
    cases event with
    | call operation => exact congrArg (operation :: ·) ih
    | restart store => exact ih

/-- Nothing that only grows falls between two points of a history with restarts. -/
theorem grows_afterEvents {foreman : Address} {params : FactoryParams} {maxLockSecs : UInt64}
    (h : create foreman params maxLockSecs = .ok d) (first rest : List Event) :
    (d.afterEvents first).engine.Grows (d.afterEvents (first ++ rest)).engine := by
  rw [afterEvents_eq h, afterEvents_eq h, calls_append, afterAll_append]
  exact grows_afterAll _ (sound_afterAll h _)

end Deployment
end EpochVoting
