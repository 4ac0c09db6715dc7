import EpochVoting.Proofs.Calls

/-!
# What the checks establish

One statement for each lookup and each guard of the components: when it passes, and
with which record.  A call that has been taken apart into its links is brought with
these into the plain terms of tables and numbers.
-/

namespace EpochVoting

namespace Factory

variable {f : Factory} {epoch : Epoch} {authority : Address} {u : Unit}

@[simp] theorem requireLive_eq_ok_iff :
    f.requireLive epoch = .ok u ↔ epoch = f.currentEpoch := by
  unfold requireLive isLive
  rw [require_eq_ok_iff, beq_iff_eq]

@[simp] theorem requireElapsed_eq_ok_iff :
    f.requireElapsed epoch = .ok u ↔ epoch < f.currentEpoch := by
  unfold requireElapsed isElapsed
  rw [require_eq_ok_iff, decide_eq_true_iff]

@[simp] theorem requireForeman_eq_ok_iff :
    f.requireForeman authority = .ok u ↔ authority = f.foreman := by
  unfold requireForeman
  rw [require_eq_ok_iff, beq_iff_eq]

/-- A new factory is in its first epoch, which ends one duration after the genesis. -/
theorem create_eq_ok_iff {foreman : Address} {params : FactoryParams} :
    create foreman params = .ok f ↔ params.epochDurationSecs ≠ 0 ∧
      ∃ due, params.genesis.add? params.epochDurationSecs = some due ∧
        f = { foreman, epochDurationSecs := params.epochDurationSecs,
              currentEpoch := Epoch.first, nextEpochStartsAt := due, bribeCount := 0 } := by
  unfold create
  simp only [bind_eq_ok_iff, require_passes_iff, bne_iff_ne, demand_eq_ok_iff, pure_eq_ok_iff,
    exists_const]
  constructor
  · rintro ⟨hsecs, due, hdue, rfl⟩
    exact ⟨hsecs, due, hdue, rfl⟩
  · rintro ⟨hsecs, due, hdue, rfl⟩
    exact ⟨hsecs, due, hdue, rfl⟩

/-- The next epoch can start once it is due, and the one after it is due one duration
later. -/
theorem advance_eq_ok_iff {f' : Factory} {now : Timestamp} :
    f.advance now = .ok f' ↔ f.nextEpochStartsAt.secs ≤ now.secs ∧
      ∃ next due, next.toNat = f.currentEpoch.toNat + 1 ∧
        f.nextEpochStartsAt.add? f.epochDurationSecs = some due ∧
        f' = { f with currentEpoch := next, nextEpochStartsAt := due } := by
  unfold advance
  simp only [bind_eq_ok_iff, require_passes_iff, decide_eq_true_iff, demand_eq_ok_iff,
    Epoch.next?_eq_some_iff, pure_eq_ok_iff, exists_const]
  constructor
  · rintro ⟨hdue, next, hnext, due, hlater, rfl⟩
    exact ⟨hdue, next, due, hnext, hlater, rfl⟩
  · rintro ⟨hdue, next, due, hnext, hlater, rfl⟩
    exact ⟨hdue, next, hnext, due, hlater, rfl⟩

theorem setForeman_eq_ok_iff {f' : Factory} {newForeman : Address} :
    f.setForeman authority newForeman = .ok f' ↔
      authority = f.foreman ∧ f' = { f with foreman := newForeman } := by
  unfold setForeman
  simp only [bind_eq_ok_iff, requireForeman_eq_ok_iff, pure_eq_ok_iff, exists_const]
  exact and_congr_right fun _ => eq_comm

theorem setEpochDuration_eq_ok_iff {f' : Factory} {secs : UInt64} :
    f.setEpochDuration authority secs = .ok f' ↔
      authority = f.foreman ∧ secs ≠ 0 ∧ f' = { f with epochDurationSecs := secs } := by
  unfold setEpochDuration
  simp only [bind_eq_ok_iff, requireForeman_eq_ok_iff, require_passes_iff, bne_iff_ne,
    pure_eq_ok_iff, exists_const]
  exact and_congr_right fun _ => and_congr_right fun _ => eq_comm

theorem nextBribeId_eq_ok_iff {id : UInt64} :
    f.nextBribeId = .ok id ↔ f.bribeCount.toNat + 1 < 2 ^ 64 ∧ id = f.bribeCount := by
  unfold nextBribeId
  simp only [bind_eq_ok_iff, demand_eq_ok_iff, Amount.add?_eq_some_iff, pure_eq_ok_iff]
  constructor
  · rintro ⟨next, hnext, rfl⟩
    have h1 : (1 : UInt64).toNat = 1 := rfl
    have hlt := next.toNat_lt
    exact ⟨by omega, rfl⟩
  · rintro ⟨hlt, rfl⟩
    exact ⟨UInt64.ofNat (f.bribeCount.toNat + 1), Amount.toNat_ofNat hlt, rfl⟩

/-- The counter after a bribe's id was handed out. -/
theorem takeBribeId_of_nextBribeId {id : UInt64} (h : f.nextBribeId = .ok id) :
    f.takeBribeId = .ok (id, { f with bribeCount := id + 1 }) := by
  unfold takeBribeId
  rw [h]
  rfl

end Factory

namespace Registry

variable {r r' : Registry} {target : Address} {g : Gauge}

@[simp] theorem get_eq_ok_iff : r.get target = .ok g ↔ r.gauges.find? target = some g :=
  demand_eq_ok_iff

theorem target_of_find? (h : r.gauges.find? target = some g) : g.target = target :=
  Table.key_of_find? h

theorem update_of_find? {change : Gauge → Gauge} (h : r.gauges.find? target = some g) :
    r.update target change = .ok (r.put (change g)) := by
  unfold update
  rw [get_eq_ok_iff.mpr h]
  rfl

end Registry

@[simp] theorem Gauge.requireEnabled_eq_ok_iff {g : Gauge} {u : Unit} :
    g.requireEnabled = .ok u ↔ g.enabled = true :=
  require_eq_ok_iff

namespace Commitments

variable {c : Commitments} {gauge voter : Address} {epoch : Epoch}

@[simp] theorem epochGauge_eq_ok_iff {g : EpochGauge} :
    c.epochGauge gauge epoch = .ok g ↔ c.epochGauge? gauge epoch = some g :=
  demand_eq_ok_iff

@[simp] theorem snapshot_eq_ok_iff {s : Snapshot} :
    c.snapshot voter epoch = .ok s ↔ c.snapshot? voter epoch = some s :=
  demand_eq_ok_iff

theorem updateSnapshot_of_snapshot? {s : Snapshot} {change : Snapshot → Snapshot}
    (h : c.snapshot? voter epoch = some s) :
    c.updateSnapshot voter epoch change =
      .ok { c with snapshots := c.snapshots.insert (change s) } := by
  unfold updateSnapshot
  rw [snapshot_eq_ok_iff.mpr h]
  rfl

end Commitments

namespace Escrow

variable {e : Escrow} {authority voter : Address} {l : Lock}

@[simp] theorem lock_eq_ok_iff : e.lock voter = .ok l ↔ e.lock? voter = some l :=
  demand_eq_ok_iff

@[simp] theorem requireDelegate_eq_ok_iff :
    e.requireDelegate authority voter = .ok l ↔
      e.lock? voter = some l ∧ authority = l.delegate := by
  unfold requireDelegate Lock.isDelegate
  simp only [bind_eq_ok_iff, lock_eq_ok_iff, require_passes_iff, pure_eq_ok_iff, beq_iff_eq]
  constructor
  · rintro ⟨l', hl, _, hdelegate, rfl⟩
    exact ⟨hl, hdelegate⟩
  · rintro ⟨hl, hdelegate⟩
    exact ⟨l, hl, (), hdelegate, rfl⟩

end Escrow

namespace BribeLedger

variable {l : BribeLedger} {id : UInt64} {b : Bribe}

@[simp] theorem get_eq_ok_iff : l.get id = .ok b ↔ l.bribes.find? id = some b :=
  demand_eq_ok_iff

theorem id_of_find? (h : l.bribes.find? id = some b) : b.id = id :=
  Table.key_of_find? h

end BribeLedger

namespace Bribe

variable {b : Bribe} {epoch : Epoch} {amount : UInt64} {u : Unit}

theorem covers_eq_true_iff :
    b.covers epoch = true ↔ b.epochStart ≤ epoch ∧ epoch < b.epochEnd := by
  unfold covers
  rw [Bool.and_eq_true, decide_eq_true_iff, decide_eq_true_iff]

@[simp] theorem requireCovers_eq_ok_iff :
    b.requireCovers epoch = .ok u ↔ b.covers epoch = true :=
  require_eq_ok_iff

theorem totalEscrow_eq_ok_iff :
    b.totalEscrow = .ok amount ↔
      amount.toNat = b.rewardPerEpoch.toNat * b.numEpochs.toNat := by
  unfold totalEscrow
  rw [demand_eq_ok_iff, Amount.mul?_eq_some_iff, UInt32.toNat_toUInt64]

/-- What is left of the escrow, as numbers: total, claims and clawbacks balance. -/
theorem remaining_eq_ok_iff {left : UInt64} :
    b.remaining = .ok left ↔
      b.rewardPerEpoch.toNat * b.numEpochs.toNat < 2 ^ 64 ∧
      left.toNat + b.claimedAmount.toNat + b.clawedBackAmount.toNat =
        b.rewardPerEpoch.toNat * b.numEpochs.toNat := by
  unfold remaining
  simp only [bind_eq_ok_iff, totalEscrow_eq_ok_iff, demand_eq_ok_iff, Amount.sub?_eq_some_iff]
  constructor
  · rintro ⟨total, htotal, unclaimed, hunclaimed, hleft⟩
    have hlt := total.toNat_lt
    omega
  · rintro ⟨hlt, hleft⟩
    refine ⟨UInt64.ofNat (b.rewardPerEpoch.toNat * b.numEpochs.toNat),
      Amount.toNat_ofNat hlt, UInt64.ofNat (left.toNat + b.clawedBackAmount.toNat), ?_, ?_⟩
    · rw [Amount.toNat_ofNat hlt, Amount.toNat_ofNat (by omega)]
      omega
    · rw [Amount.toNat_ofNat (by omega)]

end Bribe
end EpochVoting
