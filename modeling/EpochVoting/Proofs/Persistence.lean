import EpochVoting.Proofs.History
import EpochVoting.Proofs.Saving
import EpochVoting.Proofs.Segregation

/-!
# Persistence

The tables nested in a snapshot stay small: every entry of the flags stands for an
allocation of the voter, every closed allocation counts, and the voter's allocations add
up to a word of 64 bits.  So every engine that a run from a new deployment leaves can be
saved, whatever the store held before, and is loaded back as it was
(`saved_engine_loads_back`).  A deployment whose engine is replaced by its saved and
loaded copy between two calls therefore goes on as if nothing had happened
(`afterEvents_eq`).
-/

namespace EpochVoting

open Std

namespace Table

variable {ρ κ : Type} [Keyed ρ κ] [Ord κ]

/-- A table has no more records than they count together, if each of them counts. -/
theorem size_le_total {t : Table ρ} {f : ρ → Nat} (h : ∀ r ∈ t.records, 0 < f r) :
    t.size ≤ t.total f := by
  have hlength : t.records.length ≤ (t.records.map f).sum := by
    generalize t.records = records at h
    induction records with
    | nil => exact Nat.le_refl 0
    | cons r rest ih =>
      have hr := h r List.mem_cons_self
      have hrest := ih fun s hs => h s (List.mem_cons_of_mem r hs)
      rw [List.length_cons, List.map_cons, List.sum_cons]
      omega
  exact hlength

end Table

/-! ## The tables nested in a snapshot -/

namespace Snapshot

/-- Flags are kept only for gauges of which a side's fees have been claimed. -/
def Marked (s : Snapshot) : Prop :=
  ∀ f ∈ s.feeClaims.records, ∃ side, f.claimed.get side = true

theorem marked_of_empty {s : Snapshot} (h : s.feeClaims = Table.empty) : s.Marked := by
  intro f hf
  rw [h] at hf
  cases hf

theorem Marked.congr {s s' : Snapshot} (h : s.Marked) (hsame : s'.feeClaims = s.feeClaims) :
    s'.Marked := by
  unfold Marked
  rw [hsame]
  exact h

theorem Marked.markFeeClaimed {s : Snapshot} (h : s.Marked) (gauge : Address)
    (side : FeeSide) : (s.markFeeClaimed gauge side).Marked :=
  Table.forall_insert ⟨side, PerSide.get_set_self ..⟩ h

/-- Whoever has flags for a gauge has claimed a side of its fees. -/
theorem Marked.feeClaimed {s : Snapshot} (h : s.Marked) {f : FeeClaimFlags}
    (hf : f ∈ s.feeClaims.records) : ∃ side, s.feeClaimed f.gauge side = true := by
  obtain ⟨side, hside⟩ := h f hf
  refine ⟨side, ?_⟩
  have hfound : s.feeClaims.find? f.gauge = some f := Table.find?_key_of_mem hf
  unfold Snapshot.feeClaimed flags
  rw [hfound]
  exact hside

end Snapshot

/-- All snapshots are marked. -/
def Commitments.Marked (c : Commitments) : Prop :=
  ∀ s ∈ c.snapshots.records, s.Marked

/-- Only a claim of fees adds to the flags, and it sets one. -/
theorem Engine.Change.marked {e e' : Engine} (h : e.Change e') (hmarked : e.commitments.Marked) :
    e'.commitments.Marked := by
  have hold {voter : Address} {epoch : Epoch} {s : Snapshot}
      (hs : e.commitments.snapshot? voter epoch = some s) : s.Marked :=
    hmarked s (Table.mem_of_find? hs)
  cases h with
  | snapshotTaken => exact Table.forall_insert (Snapshot.marked_of_empty rfl) hmarked
  | snapshotReset hs => exact Table.forall_insert ((hold hs).congr rfl) hmarked
  | committed _ _ _ _ hs => exact Table.forall_insert ((hold hs).congr rfl) hmarked
  | reverted _ _ _ hs => exact Table.forall_insert ((hold hs).congr rfl) hmarked
  | closed _ _ _ hs => exact Table.forall_insert ((hold hs).congr rfl) hmarked
  | @feeClaimed _ _ _ _ g _ s claim _ _ _ hs =>
    have hnew : (claim.applyToSnapshot g.target s).Marked :=
      (hold hs).markFeeClaimed g.target claim.side
    exact Table.forall_insert hnew hmarked
  | _ => exact hmarked

namespace Commitments

variable {c : Commitments} {now : Epoch}

/-- What is allocated is more than nothing. -/
theorem Consistent.allocationOf_pos (h : c.Consistent now) {voter gauge : Address}
    {epoch : Epoch} {a : UInt64} (ha : c.allocation? voter gauge epoch = some a) :
    0 < c.allocationOf voter gauge epoch := by
  unfold allocationOf
  rw [ha]
  show 0 < a.toNat
  unfold allocation? at ha
  cases hx : c.vote? voter gauge epoch with
  | some x =>
    rw [hx] at ha
    cases ha
    exact h.vote_toNat_pos (Table.mem_of_find? hx)
  | none =>
    rw [hx] at ha
    obtain ⟨s, hs, hclosed⟩ := Option.bind_eq_some_iff.mp ha
    obtain ⟨x, hx, rfl⟩ := Option.map_eq_some_iff.mp hclosed
    have hne := (h.snapshot_sound hs).closed_pos x (Table.mem_of_find? hx)
    exact Nat.pos_of_ne_zero fun hzero => hne (UInt64.toNat_inj.mp hzero)

/-- A voter's allocations to the gauges that the voter has flags for stay within what
the voter has allocated. -/
theorem Consistent.flagged_le (h : c.Consistent now) {s : Snapshot}
    (hs : s ∈ c.snapshots.records) :
    (s.feeClaims.total fun f => c.allocationOf s.voter f.gauge s.epoch) ≤
      s.allocatedPower.toNat := by
  have hfound : c.snapshot? s.voter s.epoch = some s := snapshot?_of_mem hs
  have hinj : ∀ f ∈ s.feeClaims.records, ∀ f' ∈ s.feeClaims.records,
      f.gauge = f'.gauge → f = f' := fun f hf f' hf' hgauge => Table.eq_of_key_eq hf hf' hgauge
  have hlive : (s.feeClaims.total fun f =>
      (c.vote? s.voter f.gauge s.epoch).elim 0 fun x => x.allocatedPower.toNat) ≤
      c.liveOf s.voter s.epoch := by
    refine Table.total_le_total (fun f => (s.voter, f.gauge, s.epoch)) ?_ ?_
    · intro f hf f' hf' _ _ hkey
      exact hinj f hf f' hf' (Prod.mk.inj (Prod.mk.inj hkey).2).1
    · intro f _
      show (c.vote? s.voter f.gauge s.epoch).elim 0 _ ≤
        (c.vote? s.voter f.gauge s.epoch).elim 0 _
      cases hx : c.vote? s.voter f.gauge s.epoch with
      | none => exact Nat.le_refl 0
      | some x =>
        obtain ⟨hvoter, -, hepoch⟩ := key_of_vote? hx
        exact Nat.le_of_eq (if_pos ⟨hvoter, hepoch⟩).symm
  have hclosed : (s.feeClaims.total fun f => s.closedTo f.gauge) ≤ s.closedSum := by
    refine Table.total_le_total FeeClaimFlags.gauge ?_ ?_
    · intro f hf f' hf' _ _ hkey
      exact hinj f hf f' hf' hkey
    · intro f _
      unfold Snapshot.closedTo Snapshot.closedAllocation?
      cases s.closedAllocations.find? f.gauge <;> exact Nat.le_refl _
  have hsplit : (s.feeClaims.total fun f => c.allocationOf s.voter f.gauge s.epoch) =
      (s.feeClaims.total fun f =>
        (c.vote? s.voter f.gauge s.epoch).elim 0 fun x => x.allocatedPower.toNat) +
      s.feeClaims.total fun f => s.closedTo f.gauge := by
    rw [← Table.total_add]
    refine Table.total_congr fun f _ => ?_
    rw [h.allocationOf_eq, hfound]
    rfl
  have hallocated := h.allocated_eq s.voter s.epoch
  rw [allocated_of_snapshot? hfound, closedOf_of_snapshot? hfound] at hallocated
  omega

/-- Every entry of the flags, and every closed allocation, stands for allocated power. -/
theorem Consistent.countable (h : c.Consistent now) (hflags : c.FlagsSound now)
    (hmarked : c.Marked) : c.Countable := by
  intro s hs
  constructor
  · have hsize : s.feeClaims.size ≤
        s.feeClaims.total fun f => c.allocationOf s.voter f.gauge s.epoch := by
      refine Table.size_le_total fun f hf => ?_
      obtain ⟨side, hclaimed⟩ := (hmarked s hs).feeClaimed hf
      obtain ⟨-, -, a, ha⟩ := hflags s hs f.gauge side hclaimed
      exact h.allocationOf_pos ha
    have hle := h.flagged_le hs
    have hlt := s.allocatedPower.toNat_lt_size
    omega
  · have hsize : s.closedAllocations.size ≤ s.closedSum := by
      refine Table.size_le_total fun a ha => ?_
      have hne := (h.snapshots s hs).closed_pos a ha
      exact Nat.pos_of_ne_zero fun hzero => hne (UInt64.toNat_inj.mp hzero)
    have heq := (h.snapshots s hs).closed_eq
    have hlt := s.closedPower.toNat_lt_size
    omega

end Commitments

namespace Deployment

/-! ## Restarts -/

/-- What can happen to a deployment: a call is made, or the engine is saved to a store,
whatever the store holds, and replaced by what is loaded from it. -/
inductive Event where
  | call (operation : Operation)
  | restart (store : Store)

/-- The calls among the events, in order. -/
def calls : List Event → List Operation
  | [] => []
  | .call operation :: rest => operation :: calls rest
  | .restart _ :: rest => calls rest

/-- The deployment after an event.  An engine that cannot be loaded is not replaced. -/
def afterEvent (d : Deployment) : Event → Deployment
  | .call operation => d.after operation
  | .restart store =>
    match Engine.load (d.engine.save store) with
    | .ok engine => { d with engine }
    | .error _ => d

/-- The deployment after a list of events. -/
def afterEvents (d : Deployment) (events : List Event) : Deployment :=
  events.foldl afterEvent d

variable {foreman : Address} {params : FactoryParams} {maxLockSecs : UInt64}
  {d : Deployment}

theorem marked_afterAll (h : create foreman params maxLockSecs = .ok d)
    (run : List Operation) : (d.afterAll run).engine.commitments.Marked := by
  have hstart : d.engine.commitments.Marked := by
    obtain ⟨engine, hengine, heq⟩ := bind_eq_ok_iff.mp h
    cases heq
    obtain ⟨factory, -, heq⟩ := bind_eq_ok_iff.mp hengine
    cases heq
    intro s hs
    cases hs
  have hchanges := changes_of_afterAll run d
  generalize (d.afterAll run).engine = e at hchanges
  induction hchanges with
  | refl => exact hstart
  | tail _ hchange ih => exact hchange.marked ih

theorem countable_afterAll (h : create foreman params maxLockSecs = .ok d)
    (run : List Operation) : (d.afterAll run).engine.commitments.Countable :=
  have hsound := sound_afterAll h run
  hsound.power.consistent.countable hsound.fees.flags (marked_afterAll h run)

/-- A restart changes nothing at all. -/
theorem afterEvent_restart (h : create foreman params maxLockSecs = .ok d)
    (run : List Operation) (store : Store) :
    (d.afterAll run).afterEvent (.restart store) = d.afterAll run := by
  show (match Engine.load ((d.afterAll run).engine.save store) with
    | .ok engine => { d.afterAll run with engine }
    | .error _ => d.afterAll run) = _
  rw [Engine.load_save (countable_afterAll h run)]

/-- A history with restarts leaves what its calls alone leave. -/
theorem afterEvents_eq (h : create foreman params maxLockSecs = .ok d)
    (events : List Event) : d.afterEvents events = d.afterAll (calls events) := by
  suffices hfrom : ∀ run : List Operation, (d.afterAll run).afterEvents events =
      (d.afterAll run).afterAll (calls events) from hfrom []
  induction events with
  | nil => exact fun _ => rfl
  | cons event rest ih =>
    intro run
    cases event with
    | call operation =>
      have hrest := ih (run ++ [operation])
      rw [afterAll_append] at hrest
      exact hrest
    | restart store =>
      show ((d.afterAll run).afterEvent (.restart store)).afterEvents rest = _
      rw [afterEvent_restart h run store]
      exact ih run

end Deployment

/-! ## Saved engines -/

/-- A store holds the rows of an engine, one for each record and no others, and the
engine's factory record; its other settings are those of the store before. -/
structure Store.Holds (saved : Store) (e : Engine) (before : Store) : Prop where
  rows : saved.rows.records.Perm e.rows
  factory : saved.setting? Engine.factorySetting = some (Codec.factory.write e.factory)
  settings : ∀ name, name ≠ Engine.factorySetting → saved.setting? name = before.setting? name

theorem Engine.holds_save (e : Engine) (store : Store) : (e.save store).Holds e store where
  rows := (List.perm_ext_iff_of_nodup (Table.nodup_records _) nodup_rows).mpr
    fun _ => mem_save_iff
  factory := by rw [setting_save, if_pos rfl]
  settings name hname := by rw [setting_save, if_neg hname]

namespace Deployment

variable {foreman : Address} {params : FactoryParams} {maxLockSecs : UInt64}
  {d : Deployment}

/-- Whatever happened since the start and whatever a store held: after the engine was
saved to it, the store holds the records of the engine and no others, and the engine is
loaded back as it was.  So the loaded engine answers every later run as the saved one
does and leaves the same, and saving it, into whatever store, writes the same rows and
the same factory record. -/
theorem saved_engine_loads_back (h : create foreman params maxLockSecs = .ok d)
    (events : List Event) (store : Store) :
    let kept := d.afterEvents events
    (kept.engine.save store).Holds kept.engine store ∧
    ∃ loaded, Engine.load (kept.engine.save store) = .ok loaded ∧ loaded = kept.engine ∧
      (∀ later, answers { kept with engine := loaded } later = kept.answers later ∧
        afterAll { kept with engine := loaded } later = kept.afterAll later) ∧
      ∀ other : Store, (loaded.save other).rows = (kept.engine.save store).rows ∧
        (loaded.save other).setting? Engine.factorySetting =
          (kept.engine.save store).setting? Engine.factorySetting := by
  intro kept
  have hkept : kept = d.afterAll (calls events) := afterEvents_eq h events
  have hload : Engine.load (kept.engine.save store) = .ok kept.engine := by
    rw [hkept]
    exact Engine.load_save (countable_afterAll h (calls events))
  refine ⟨Engine.holds_save _ store, kept.engine, hload, rfl, fun _ => ⟨rfl, rfl⟩,
    fun other => ⟨?_, ?_⟩⟩
  · rw [Engine.rows_save, Engine.rows_save]
  · rw [(Engine.holds_save _ other).factory, (Engine.holds_save _ store).factory]

end Deployment

namespace Sample

open Deployment

/-- The sample run with a restart on the way, and the claimed vote closed at the end. -/
def history : List Event :=
  (run.take 9).map .call ++ .restart .empty ::
    ((run.drop 9).map .call ++ [.call (.close none (account 4) (account 1) 1)])

/-- A store with a record of every kind and a factory record, none of which can be read. -/
def dusty : Store :=
  let named := (Store.empty.putSetting Engine.factorySetting [255]).putSetting [1] [2]
  RecordKind.all.foldl (fun store kind => store.put kind (account 1).bytes [255]) named

/-- An engine with a claimed and closed vote takes the place of everything in the store,
the other setting excepted, and goes on when it is loaded. -/
theorem history_loads_back :
    (∃ s ∈ (deployment.afterEvents history).engine.commitments.snapshots.records,
      s.feeClaims.size = 1 ∧ s.closedAllocations.size = 1) ∧
    (deployment.afterEvents history).engine.rows.length = 8 ∧
    ∃ loaded, Engine.load ((deployment.afterEvents history).engine.save dusty) = .ok loaded ∧
      ((deployment.afterEvents history).engine.save dusty).rows.size = 8 ∧
      ((deployment.afterEvents history).engine.save dusty).setting? [1] = some [2] ∧
      answers { deployment.afterEvents history with engine := loaded } [.advanceEpoch none] =
        (deployment.afterEvents history).answers [.advanceEpoch none] := by
  have hstate : (∃ s ∈ (deployment.afterAll (calls history)).engine.commitments.snapshots.records,
        s.feeClaims.size = 1 ∧ s.closedAllocations.size = 1) ∧
      (deployment.afterAll (calls history)).engine.rows.length = 8 ∧
      dusty.setting? [1] = some [2] ∧ [1] ≠ Engine.factorySetting := by
    decide +kernel
  rw [← afterEvents_eq create_deployment] at hstate
  obtain ⟨hnested, hcount, hother, hname⟩ := hstate
  obtain ⟨hholds, loaded, hload, -, hlater, -⟩ :=
    saved_engine_loads_back create_deployment history dusty
  refine ⟨hnested, hcount, loaded, hload, ?_, ?_, (hlater _).1⟩
  · exact hholds.rows.length_eq.trans hcount
  · exact (hholds.settings [1] hname).trans hother

end Sample
end EpochVoting
