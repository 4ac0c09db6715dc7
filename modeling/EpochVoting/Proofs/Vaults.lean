import EpochVoting.Proofs.Run
import Mathlib.Data.Set.Function

/-!
# Accounts in custody

The engine and the pool dispose of derived accounts: fee vaults, pool fee accounts and
bribe vaults.  What is in a vault follows from the books if two things are granted: the
accounts in use are told apart by their addresses, and nobody else uses one of them.
Both are said of a set `S` of accounts, which need only contain those that actually come
up.

This file names the accounts and what is granted about them (`Deployment.Guarded`), and
shows that every step keeps it.
-/

namespace EpochVoting

/-- An account of which the engine or the pool disposes. -/
inductive Custody where
  | feeVault (target : Address) (side : FeeSide)
  | poolFees (target : Address) (side : FeeSide)
  | bribeVault (id : UInt64)
deriving DecidableEq

namespace Custody

/-- The account itself. -/
def address : Custody → Address
  | feeVault target side => Account.feeVault target side
  | poolFees target side => Account.poolFees target side
  | bribeVault id => Account.bribeVault id

/-- Whether the books of the engine say what the account holds. -/
def isVault : Custody → Bool
  | poolFees .. => false
  | _ => true

/-- The accounts of a target. -/
def ofTarget (target : Address) : List Custody :=
  [feeVault target .a, feeVault target .b, poolFees target .a, poolFees target .b]

theorem feeVault_mem_ofTarget (target : Address) (side : FeeSide) :
    feeVault target side ∈ ofTarget target := by
  cases side <;> simp [ofTarget]

theorem poolFees_mem_ofTarget (target : Address) (side : FeeSide) :
    poolFees target side ∈ ofTarget target := by
  cases side <;> simp [ofTarget]

end Custody

/-- An address that is none of the accounts in custody. -/
def Outside (S : Set Custody) (account : Address) : Prop :=
  ∀ c ∈ S, c.address ≠ account

/-- An operation that brings in nothing but what is granted. -/
structure Operation.Guarded (S : Set Custody) (d : Deployment) (operation : Operation) :
    Prop where
  targets : ∀ target ∈ operation.targets, ∀ c ∈ Custody.ofTarget target, c ∈ S
  outsiders : ∀ account ∈ operation.outsiders, Outside S account
  bribe : operation.newBribes ≠ 0 → Custody.bribeVault d.engine.factory.bribeCount ∈ S

/-! ## Calls that leave gauges and bribes alone -/

namespace Engine

variable {e e' : Engine}

/-- The same gauges and the same bribes. -/
structure SameBooks (e e' : Engine) : Prop where
  registry : e'.registry = e.registry
  bribes : e'.bribes = e.bribes
  bribeCount : e'.factory.bribeCount = e.factory.bribeCount

theorem SameBooks.refl (e : Engine) : e.SameBooks e :=
  ⟨rfl, rfl, rfl⟩

variable {authority voter target : Address} {escrow : Escrow} {now : Timestamp} {epoch : Epoch}

theorem sameBooks_of_advanceEpoch (h : e.advanceEpoch now = .ok (epoch, e')) :
    e.SameBooks e' := by
  obtain ⟨_, hadvance, heq⟩ := bind_eq_ok_iff.mp h
  cases heq
  obtain ⟨-, _, _, -, -, rfl⟩ := Factory.advance_eq_ok_iff.mp hadvance
  exact ⟨rfl, rfl, rfl⟩

theorem sameBooks_of_setForeman {newForeman : Address}
    (h : e.setForeman authority newForeman = .ok e') : e.SameBooks e' := by
  obtain ⟨_, hset, heq⟩ := bind_eq_ok_iff.mp h
  cases heq
  obtain ⟨-, rfl⟩ := Factory.setForeman_eq_ok_iff.mp hset
  exact ⟨rfl, rfl, rfl⟩

theorem sameBooks_of_setEpochDuration {secs : UInt64}
    (h : e.setEpochDuration authority secs = .ok e') : e.SameBooks e' := by
  obtain ⟨_, hset, heq⟩ := bind_eq_ok_iff.mp h
  cases heq
  obtain ⟨-, -, rfl⟩ := Factory.setEpochDuration_eq_ok_iff.mp hset
  exact ⟨rfl, rfl, rfl⟩

theorem sameBooks_of_setVote {weight : UInt32} {change : VoteChange}
    (h : e.setVote escrow authority voter target weight = .ok (change, e')) :
    e.SameBooks e' := by
  obtain ⟨_, -, hlocked⟩ := bind_eq_ok_iff.mp h
  obtain ⟨_, -, hallowed⟩ := bind_eq_ok_iff.mp hlocked
  obtain ⟨_, -, hfound⟩ := bind_eq_ok_iff.mp hallowed
  obtain ⟨_, -, heq⟩ := bind_eq_ok_iff.mp hfound
  cases heq
  exact ⟨rfl, rfl, rfl⟩

theorem sameBooks_of_takeSnapshot {taken : Bool}
    (h : e.takeSnapshot escrow now voter = .ok (taken, e')) : e.SameBooks e' := by
  unfold takeSnapshot at h
  split at h
  · cases h
    exact ⟨rfl, rfl, rfl⟩
  · obtain ⟨_, -, heq⟩ := bind_eq_ok_iff.mp h
    cases heq
    exact ⟨rfl, rfl, rfl⟩

theorem sameBooks_of_resetSnapshot (h : e.resetSnapshot escrow now voter = .ok e') :
    e.SameBooks e' := by
  obtain ⟨_, -, hpower⟩ := bind_eq_ok_iff.mp h
  obtain ⟨_, -, heq⟩ := bind_eq_ok_iff.mp hpower
  cases heq
  exact ⟨rfl, rfl, rfl⟩

theorem sameBooks_of_commit {outcome : CommitOutcome}
    (h : e.commit voter target = .ok (outcome, e')) : e.SameBooks e' := by
  obtain ⟨_, -, hfound⟩ := bind_eq_ok_iff.mp h
  obtain ⟨_, -, heq⟩ := bind_eq_ok_iff.mp hfound
  cases heq
  exact ⟨rfl, rfl, rfl⟩

theorem sameBooks_of_revert {released : UInt64}
    (h : e.revert escrow authority voter target epoch = .ok (released, e')) :
    e.SameBooks e' := by
  obtain ⟨_, -, hallowed⟩ := bind_eq_ok_iff.mp h
  obtain ⟨_, -, hlive⟩ := bind_eq_ok_iff.mp hallowed
  obtain ⟨_, -, heq⟩ := bind_eq_ok_iff.mp hlive
  cases heq
  exact ⟨rfl, rfl, rfl⟩

theorem sameBooks_of_close {allocated : UInt64}
    (h : e.close escrow authority voter target epoch = .ok (allocated, e')) :
    e.SameBooks e' := by
  obtain ⟨_, -, hallowed⟩ := bind_eq_ok_iff.mp h
  obtain ⟨_, -, helapsed⟩ := bind_eq_ok_iff.mp hallowed
  obtain ⟨_, -, heq⟩ := bind_eq_ok_iff.mp helapsed
  cases heq
  exact ⟨rfl, rfl, rfl⟩

end Engine

/-- An operation on the clock, the weights or the committed power: it neither touches a
gauge or a bribe nor moves tokens. -/
def Operation.isVoting : Operation → Bool
  | .advanceEpoch .. | .setForeman .. | .setEpochDuration .. | .setVote ..
  | .takeSnapshot .. | .resetSnapshot .. | .commit .. | .revert .. | .close .. => true
  | _ => false

namespace Deployment

variable {S : Set Custody} {d d' : Deployment} {operation : Operation} {reply : Reply}

theorem Step.sameBooks (hstep : Step d operation reply d')
    (hvoting : operation.isVoting = true) :
    d.engine.SameBooks d'.engine ∧ d'.tokens = d.tokens ∧ d'.escrow = d.escrow := by
  cases hstep with
  | advanceEpoch hcall => exact ⟨Engine.sameBooks_of_advanceEpoch hcall, rfl, rfl⟩
  | setForeman hcall => exact ⟨Engine.sameBooks_of_setForeman hcall, rfl, rfl⟩
  | setEpochDuration hcall => exact ⟨Engine.sameBooks_of_setEpochDuration hcall, rfl, rfl⟩
  | setVote hcall => exact ⟨Engine.sameBooks_of_setVote hcall, rfl, rfl⟩
  | takeSnapshot hcall => exact ⟨Engine.sameBooks_of_takeSnapshot hcall, rfl, rfl⟩
  | resetSnapshot hcall => exact ⟨Engine.sameBooks_of_resetSnapshot hcall, rfl, rfl⟩
  | commit hcall => exact ⟨Engine.sameBooks_of_commit hcall, rfl, rfl⟩
  | revert hcall => exact ⟨Engine.sameBooks_of_revert hcall, rfl, rfl⟩
  | close hcall => exact ⟨Engine.sameBooks_of_close hcall, rfl, rfl⟩
  | _ => cases hvoting

/-! ## What is granted stays granted -/

/-- The accounts of all gauges and bribes are in `S`, and no owner of a lock and no
briber uses an account of `S`. -/
structure Guarded (S : Set Custody) (d : Deployment) : Prop where
  gauges : ∀ target g, d.engine.registry.gauges.find? target = some g →
    ∀ c ∈ Custody.ofTarget target, c ∈ S
  bribes : ∀ id b, d.engine.bribes.bribes.find? id = some b →
    Custody.bribeVault id ∈ S ∧ Outside S b.briber
  owners : ∀ voter l, d.escrow.lock? voter = some l → Outside S l.owner

theorem Guarded.of_sameBooks (h : Guarded S d) (hbooks : d.engine.SameBooks d'.engine)
    (hescrow : d'.escrow = d.escrow) : Guarded S d' where
  gauges := by
    rw [hbooks.registry]
    exact h.gauges
  bribes := by
    rw [hbooks.bribes]
    exact h.bribes
  owners := by
    rw [hescrow]
    exact h.owners

/-- A gauge that is registered already is put again. -/
theorem Guarded.gauges_put (h : Guarded S d) {g g₀ : Gauge} {name : Address}
    (hname : g.target = name) (hold : d.engine.registry.gauges.find? name = some g₀) :
    ∀ target g', (d.engine.registry.put g).gauges.find? target = some g' →
      ∀ c ∈ Custody.ofTarget target, c ∈ S := by
  intro target g' hg'
  rcases Registry.of_find?_put hname hg' with ⟨rfl, -⟩ | ⟨-, hg'⟩
  · exact h.gauges _ _ hold
  · exact h.gauges target g' hg'

/-- A bribe keeps its briber, whatever its totals are. -/
theorem Guarded.bribes_keep (h : Guarded S d) {id claimed clawedBack : UInt64} {b : Bribe}
    {l : BribeLedger} (hb : d.engine.bribes.bribes.find? id = some b)
    (hbribes : l.bribes = d.engine.bribes.bribes.insert (b.withTotals claimed clawedBack)) :
    ∀ id b, l.bribes.find? id = some b → Custody.bribeVault id ∈ S ∧ Outside S b.briber := by
  obtain rfl := BribeLedger.id_of_find? hb
  intro id b' hb'
  rw [hbribes, Table.find?_insert_ite] at hb'
  by_cases hkey : b.id = id
  · replace hb' := (if_pos hkey).symm.trans hb'
    cases hb'
    rw [← hkey]
    exact h.bribes b.id b hb
  · exact h.bribes id b' ((if_neg hkey).symm.trans hb')

/-- A lock is put into the escrow. -/
theorem Guarded.owners_put (h : Guarded S d) {lock : Lock} (howner : Outside S lock.owner) :
    ∀ v l, (d.escrow.locks.insert lock).find? v = some l → Outside S l.owner := by
  intro v l hl
  rw [Table.find?_insert_ite] at hl
  split at hl
  · cases hl
    exact howner
  · exact h.owners v l hl

theorem Guarded.owners_setLock (h : Guarded S d) {voter : Address} {amount : UInt64}
    {unlockAt : Option Timestamp} (hvoter : Outside S voter) :
    ∀ v l, (d.escrow.setLock voter amount unlockAt).lock? v = some l →
      Outside S l.owner := by
  -- A further lock keeps its owner; a first one belongs to the voter.
  refine h.owners_put ?_
  cases hold : d.escrow.lock? voter with
  | none => exact hvoter
  | some old => exact h.owners voter old hold

theorem Guarded.owners_setDelegate (h : Guarded S d) {voter delegate : Address} :
    ∀ v l, (d.escrow.setDelegate voter delegate).2.lock? v = some l → Outside S l.owner := by
  unfold Escrow.setDelegate
  cases hold : d.escrow.lock? voter with
  | none => exact h.owners
  | some old => exact h.owners_put (h.owners voter old hold)

theorem Guarded.owners_setOwner (h : Guarded S d) {voter owner : Address}
    (howner : Outside S owner) :
    ∀ v l, (d.escrow.setOwner voter owner).2.lock? v = some l → Outside S l.owner := by
  unfold Escrow.setOwner
  cases d.escrow.lock? voter with
  | none => exact h.owners
  | some old => exact h.owners_put howner

theorem Guarded.owners_unlock (h : Guarded S d) {voter : Address} :
    ∀ v l, (d.escrow.unlock voter).lock? v = some l → Outside S l.owner := by
  intro v l hl
  unfold Escrow.unlock Escrow.lock? at hl
  rw [Table.find?_erase_ite] at hl
  split at hl
  · cases hl
  · exact h.owners v l hl

/-- A step that brings in nothing else keeps the accounts guarded. -/
theorem Step.guarded (hstep : Step d operation reply d') (hop : operation.Guarded S d)
    (h : Guarded S d) : Guarded S d' := by
  by_cases hvoting : operation.isVoting = true
  · obtain ⟨hbooks, -, hescrow⟩ := hstep.sameBooks hvoting
    exact h.of_sameBooks hbooks hescrow
  cases hstep with
  | advanceEpoch | setForeman | setEpochDuration | setVote | takeSnapshot | resetSnapshot
  | commit | revert | close => exact absurd rfl hvoting
  | @createGauge target mints engine hcall =>
    obtain ⟨hnone, rfl⟩ := Engine.createGauge_eq_ok_iff.mp hcall
    refine ⟨fun target' g hg => ?_, h.bribes, h.owners⟩
    have hname : (Gauge.starting target mints (d.pool.totals target)).target = target := rfl
    rcases Registry.of_find?_put hname hg with ⟨rfl, -⟩ | ⟨-, hg⟩
    · exact hop.targets target (List.mem_singleton.mpr rfl)
    · exact h.gauges target' g hg
  | @setGaugeEnabled authority target enabled changed engine hcall =>
    obtain ⟨g, hgauge, rfl⟩ := Engine.setGaugeEnabled_eq_ok hcall
    have hname : g.target = target := Registry.target_of_find? hgauge
    exact ⟨h.gauges_put (g := { g with enabled }) hname hgauge, h.bribes, h.owners⟩
  | captured _ hgauge _ _ _ _ =>
    have hname := Registry.target_of_find? hgauge
    exact ⟨h.gauges_put (FeeCapture.apply_target.trans hname) hgauge, h.bribes, h.owners⟩
  | cleaned _ _ _ hgauge _ =>
    have hname := Registry.target_of_find? hgauge
    exact ⟨h.gauges_put (Gauge.setPruned_target.trans hname) hgauge, h.bribes, h.owners⟩
  | feePaid _ _ _ hgauge _ _ _ _ =>
    have hname := Registry.target_of_find? hgauge
    exact ⟨h.gauges_put (FeeClaim.applyToGauge_target.trans hname) hgauge, h.bribes, h.owners⟩
  | @bribeCreated briber target mint reward epochEnd g id b escrowed tokens hgauge hid hbribe =>
    refine ⟨h.gauges, fun id' b' hb' => ?_, h.owners⟩
    obtain ⟨-, hcount⟩ := Factory.nextBribeId_eq_ok_iff.mp hid
    obtain ⟨rfl, -⟩ := Bribe.prepare_eq_ok_iff.mp hbribe
    replace hb' := (Table.find?_insert_ite ..).symm.trans hb'
    by_cases hkey : id = id'
    · replace hb' := (if_pos hkey).symm.trans hb'
      cases hb'
      rw [← hkey, hcount]
      exact ⟨hop.bribe (Nat.succ_ne_zero 0), hop.outsiders briber (List.mem_singleton.mpr rfl)⟩
    · exact h.bribes id' b' ((if_neg hkey).symm.trans hb')
  | bribePaid _ _ _ hbribe hclaim _ hrecorded =>
    obtain ⟨-, hid, -⟩ := (BribeLedger.checkClaim_eq_ok_iff hbribe).mp hclaim
    obtain ⟨total, -, rfl⟩ := (BribeLedger.recordClaim_eq_ok_iff (hid ▸ hbribe)).mp hrecorded
    exact ⟨h.gauges, h.bribes_keep hbribe rfl, h.owners⟩
  | bribeReturned _ hbribe hclawback _ hrecorded =>
    obtain ⟨rfl, -⟩ := (BribeLedger.checkClawback_eq_ok_iff hbribe).mp hclawback
    obtain ⟨total, -, rfl⟩ := (BribeLedger.recordClawback_eq_ok_iff hbribe).mp hrecorded
    exact ⟨h.gauges, h.bribes_keep hbribe rfl, h.owners⟩
  | lock =>
    have hvoter := hop.outsiders _ (List.mem_singleton.mpr rfl)
    exact ⟨h.gauges, h.bribes, h.owners_setLock hvoter⟩
  | unlock => exact ⟨h.gauges, h.bribes, h.owners_unlock⟩
  | setDelegate => exact ⟨h.gauges, h.bribes, h.owners_setDelegate⟩
  | setOwner =>
    have howner := hop.outsiders _ (List.mem_singleton.mpr rfl)
    exact ⟨h.gauges, h.bribes, h.owners_setOwner howner⟩
  | _ => exact h.of_sameBooks (.refl _) rfl

end Deployment
end EpochVoting
