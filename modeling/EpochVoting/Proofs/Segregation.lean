import EpochVoting.Proofs.Solvency

/-!
# Runs that keep out of the vaults

What is in a vault follows from the books only if nobody else has a hand in it.  A run
is segregated if the accounts of its gauges and bribes have different addresses and none
of the accounts that its operations move tokens of, or pay to, is one of them.  Distinct
addresses are asked only of accounts that come up in the run: there are more bribes and
gauges than addresses, so some derived addresses do coincide.

Main statement: every deployment on the way of a segregated run has sound books and
solvent vaults (`Segregated.inCustody`).
-/

namespace EpochVoting

namespace Operation

/-- The accounts in custody that can come up in a run. -/
def custodies (run : List Operation) : List Custody :=
  (run.flatMap targets).flatMap Custody.ofTarget ++
    (List.range (run.map newBribes).sum).map fun n => .bribeVault (UInt64.ofNat n)

theorem ofTarget_mem_custodies {run : List Operation} {operation : Operation}
    (hrun : operation ∈ run) {target : Address} (htarget : target ∈ operation.targets)
    {c : Custody} (hc : c ∈ Custody.ofTarget target) : c ∈ custodies run :=
  List.mem_append_left _ (List.mem_flatMap.mpr
    ⟨target, List.mem_flatMap.mpr ⟨operation, hrun, htarget⟩, hc⟩)

theorem bribeVault_mem_custodies {run : List Operation} {n : Nat}
    (hn : n < (run.map newBribes).sum) : .bribeVault (UInt64.ofNat n) ∈ custodies run :=
  List.mem_append_right _ (List.mem_map.mpr ⟨n, List.mem_range.mpr hn, rfl⟩)

end Operation

/-- The derived accounts of a run are told apart by their addresses, and no account that
its operations bring in is one of them. -/
structure Segregated (run : List Operation) : Prop where
  distinct : ∀ c ∈ Operation.custodies run, ∀ c' ∈ Operation.custodies run,
    c.address = c'.address → c = c'
  outsiders : ∀ operation ∈ run, ∀ account ∈ operation.outsiders,
    ∀ c ∈ Operation.custodies run, c.address ≠ account

instance (run : List Operation) : Decidable (Segregated run) :=
  decidable_of_iff
    ((∀ c ∈ Operation.custodies run, ∀ c' ∈ Operation.custodies run,
      c.address = c'.address → c = c') ∧
    ∀ operation ∈ run, ∀ account ∈ operation.outsiders,
      ∀ c ∈ Operation.custodies run, c.address ≠ account)
    ⟨fun h => ⟨h.1, h.2⟩, fun h => ⟨h.distinct, h.outsiders⟩⟩

namespace Sample

/-- An address of one byte, 32 times. -/
def account (byte : UInt8) : Address :=
  ⟨List.replicate 32 byte, List.length_replicate⟩

/-- A gauge with fees and a bribe, voted on in the first epoch and not in the second.
The voter claims both, the fees a second time in vain, and the briber takes the reward
of the second epoch back. -/
def run : List Operation :=
  [.addGauge (account 1) ⟨account 2, account 3⟩, .lock (account 4) 100 none,
    .setVote none (account 4) (account 1) 7, .fund (account 5) (account 6) 60,
    .createBribe (account 6) (account 1) (account 5) 20 4, .accrueFees (account 1) .a 30,
    .voteEpoch (account 4) [account 1], .nextEpoch,
    .claimFee none (account 4) (account 1) 1 .a, .claimBribe none (account 4) 0 1,
    .claimFee none (account 4) (account 1) 1 .a, .nextEpoch, .clawBackBribe (account 6) 0 2]

theorem segregated_run : Segregated run := by
  decide +kernel

/-- A new deployment with weekly epochs. -/
def deployment : Deployment where
  foreman := account 0
  now := Timestamp.zero
  escrow := Escrow.create 1000
  pool := FeePool.empty
  sink := RewardSink.empty
  tokens := TokenLedger.empty
  engine := {
    factory := {
      foreman := account 0
      epochDurationSecs := 604800
      currentEpoch := 1
      nextEpochStartsAt := ⟨604800⟩
      bribeCount := 0 }
    registry := Registry.empty
    weights := WeightBook.empty
    commitments := Commitments.empty
    bribes := BribeLedger.empty }

theorem create_deployment :
    Deployment.create (account 0) FactoryParams.default 1000 = .ok deployment :=
  rfl

end Sample

namespace Deployment

open Operation

variable {S : Set Custody} {d d' : Deployment}

/-! ## The number of bribes -/

/-- A step creates at most the bribes its operation can create. -/
theorem Step.bribeCount_le {operation : Operation} {reply : Reply}
    (hstep : Step d operation reply d') :
    d'.engine.factory.bribeCount.toNat ≤
      d.engine.factory.bribeCount.toNat + operation.newBribes := by
  by_cases hvoting : operation.isVoting = true
  · obtain ⟨hbooks, -⟩ := hstep.sameBooks hvoting
    rw [hbooks.bribeCount]
    exact Nat.le_add_right ..
  cases hstep with
  | advanceEpoch | setForeman | setEpochDuration | setVote | takeSnapshot | resetSnapshot
  | commit | revert | close => exact absurd rfl hvoting
  | createGauge hcall =>
    obtain ⟨-, rfl⟩ := Engine.createGauge_eq_ok_iff.mp hcall
    exact Nat.le_refl _
  | setGaugeEnabled hcall =>
    obtain ⟨_, -, rfl⟩ := Engine.setGaugeEnabled_eq_ok hcall
    exact Nat.le_refl _
  | @bribeCreated briber target mint reward epochEnd g id b escrowed tokens _ hid hbribe =>
    obtain ⟨hfits, rfl⟩ := Factory.nextBribeId_eq_ok_iff.mp hid
    obtain ⟨rfl, -⟩ := Bribe.prepare_eq_ok_iff.mp hbribe
    show (d.engine.factory.bribeCount + 1).toNat ≤ d.engine.factory.bribeCount.toNat + 1
    -- Even at its limit the counter would not grow by more.
    rw [UInt64.toNat_add]
    exact Nat.mod_le ..
  | _ => exact Nat.le_add_right ..

/-- A basic operation leaves at most the bribes it can create. -/
theorem bribeCount_after_le {operation : Operation} (hbasic : operation.isBasic = true) :
    (d.after operation).engine.factory.bribeCount.toNat ≤
      d.engine.factory.bribeCount.toNat + operation.newBribes := by
  rcases engine_after_cases (d := d) hbasic with hsame | ⟨_, hstep⟩
  · rw [hsame]
    exact Nat.le_add_right ..
  · exact hstep.bribeCount_le

/-- A run leaves at most the bribes it can create. -/
theorem bribeCount_afterAll_le (run : List Operation) (d : Deployment) :
    (d.afterAll run).engine.factory.bribeCount.toNat ≤
      d.engine.factory.bribeCount.toNat + (run.map newBribes).sum := by
  have hbasics (parts : List Operation) (hbasic : ∀ part ∈ parts, part.isBasic = true)
      (d : Deployment) : (d.afterAll parts).engine.factory.bribeCount.toNat ≤
        d.engine.factory.bribeCount.toNat + (parts.map newBribes).sum := by
    induction parts generalizing d with
    | nil => exact Nat.le_add_right ..
    | cons part rest ih =>
      obtain ⟨hfirst, hrest⟩ := List.forall_mem_cons.mp hbasic
      have hcount := bribeCount_after_le (d := d) hfirst
      have hlater := ih hrest (d.after part)
      rw [afterAll_cons, List.map_cons, List.sum_cons]
      omega
  induction run generalizing d with
  | nil => exact Nat.le_add_right ..
  | cons operation rest ih =>
    obtain ⟨parts, hparts, hsum, hlast⟩ := after_parts d operation
    have hcount := hbasics parts (fun part hpart => (hparts part hpart).1) d
    have hlater := ih (d.after operation)
    rw [← hlast] at hcount
    rw [afterAll_cons, List.map_cons, List.sum_cons]
    omega

/-! ## Runs -/

/-- Sound books, guarded accounts and solvent vaults. -/
structure InCustody (S : Set Custody) (d : Deployment) : Prop where
  sound : d.engine.Sound
  guarded : Guarded S d
  solvent : Solvent S d

/-- What a run may bring in: accounts of `S`, outsiders, and bribes whose vaults are in
`S`. -/
structure Admits (S : Set Custody) (d : Deployment) (run : List Operation) : Prop where
  targets : ∀ operation ∈ run, ∀ target ∈ operation.targets,
    ∀ c ∈ Custody.ofTarget target, c ∈ S
  outsiders : ∀ operation ∈ run, ∀ account ∈ operation.outsiders, Outside S account
  bribes : ∀ n < d.engine.factory.bribeCount.toNat + (run.map newBribes).sum,
    Custody.bribeVault (UInt64.ofNat n) ∈ S

/-- The first operation of an admitted run is guarded. -/
theorem Admits.head {operation : Operation} {rest : List Operation}
    (h : Admits S d (operation :: rest)) : operation.Guarded S d where
  targets := h.targets operation List.mem_cons_self
  outsiders := h.outsiders operation List.mem_cons_self
  bribe := by
    intro hcreates
    have hlt : d.engine.factory.bribeCount.toNat < d.engine.factory.bribeCount.toNat +
        ((operation :: rest).map newBribes).sum := by
      rw [List.map_cons, List.sum_cons]
      omega
    have hvault := h.bribes _ hlt
    rw [UInt64.ofNat_toNat] at hvault
    exact hvault

/-- The first operations of an admitted run are admitted. -/
theorem Admits.init {first rest : List Operation} (h : Admits S d (first ++ rest)) :
    Admits S d first where
  targets operation hfirst := h.targets operation (List.mem_append_left _ hfirst)
  outsiders operation hfirst := h.outsiders operation (List.mem_append_left _ hfirst)
  bribes n hn := by
    refine h.bribes n ?_
    rw [List.map_append, List.sum_append]
    omega

/-- After some operations of an admitted run the others are still admitted. -/
theorem Admits.tail (first : List Operation) {rest : List Operation}
    (h : Admits S d (first ++ rest))
    (hcount : d'.engine.factory.bribeCount.toNat ≤
      d.engine.factory.bribeCount.toNat + (first.map newBribes).sum) : Admits S d' rest where
  targets operation hrest := h.targets operation (List.mem_append_right _ hrest)
  outsiders operation hrest := h.outsiders operation (List.mem_append_right _ hrest)
  bribes n hn := by
    refine h.bribes n ?_
    rw [List.map_append, List.sum_append]
    omega

/-- The parts of an admitted operation are admitted. -/
theorem Admits.parts {operation : Operation} {parts : List Operation}
    (h : Admits S d [operation]) (hparts : ∀ part ∈ parts, part.IsPart operation)
    (hsum : (parts.map newBribes).sum ≤ operation.newBribes) : Admits S d parts where
  targets part hpart target htarget :=
    h.targets operation List.mem_cons_self target ((hparts part hpart).2.1 htarget)
  outsiders part hpart account haccount :=
    h.outsiders operation List.mem_cons_self account ((hparts part hpart).2.2 haccount)
  bribes n hn := by
    refine h.bribes n ?_
    rw [List.map_singleton, List.sum_singleton]
    omega

/-- A basic operation that is guarded keeps everything in custody. -/
theorem InCustody.after (h : InCustody S d) (hS : Set.InjOn Custody.address S)
    {operation : Operation} (hbasic : operation.isBasic = true)
    (hop : operation.Guarded S d) : InCustody S (d.after operation) := by
  obtain ⟨hsolvent, hguarded⟩ := h.solvent.after hS h.guarded h.sound.bribes hbasic hop
  refine ⟨?_, hguarded, hsolvent⟩
  rcases change_of_after (d := d) hbasic with hsame | hchange
  · rw [hsame]
    exact h.sound
  · exact hchange.sound h.sound

/-- A run of basic operations that is admitted keeps everything in custody. -/
theorem InCustody.afterBasic (h : InCustody S d) (hS : Set.InjOn Custody.address S)
    {run : List Operation} (hbasic : ∀ operation ∈ run, operation.isBasic = true)
    (hrun : Admits S d run) : InCustody S (d.afterAll run) := by
  induction run generalizing d with
  | nil => exact h
  | cons operation rest ih =>
    obtain ⟨hfirst, hlater⟩ := List.forall_mem_cons.mp hbasic
    have hrest : Admits S (d.after operation) rest :=
      Admits.tail [operation] hrun (bribeCount_afterAll_le [operation] d)
    exact ih (h.after hS hfirst hrun.head) hlater hrest

/-- A run that is admitted keeps everything in custody. -/
theorem InCustody.afterAll (h : InCustody S d) (hS : Set.InjOn Custody.address S)
    {run : List Operation} (hrun : Admits S d run) : InCustody S (d.afterAll run) := by
  induction run generalizing d with
  | nil => exact h
  | cons operation rest ih =>
    obtain ⟨parts, hparts, hsum, hlast⟩ := after_parts d operation
    -- The first operation is replaced by its parts, whose bribes it accounts for.
    have hadmitted : Admits S d [operation] := Admits.init hrun
    have hkept := h.afterBasic hS (fun part hpart => (hparts part hpart).1)
      (hadmitted.parts hparts hsum)
    rw [afterAll_cons, hlast]
    refine ih hkept (Admits.tail [operation] hrun ?_)
    rw [← hlast]
    exact bribeCount_afterAll_le [operation] d

/-- A new deployment has nothing in custody. -/
theorem inCustody_of_create {foreman : Address} {params : FactoryParams}
    {maxLockSecs : UInt64} (h : create foreman params maxLockSecs = .ok d) :
    InCustody S d ∧ d.engine.factory.bribeCount = 0 := by
  obtain ⟨engine, hengine, heq⟩ := bind_eq_ok_iff.mp h
  cases heq
  have hsound := Engine.sound_of_create hengine
  obtain ⟨factory, hfactory, heq⟩ := bind_eq_ok_iff.mp hengine
  cases heq
  obtain ⟨-, due, -, rfl⟩ := Factory.create_eq_ok_iff.mp hfactory
  refine ⟨⟨hsound, ?_, ?_⟩, rfl⟩
  · refine ⟨fun _ _ hg => ?_, fun _ _ hb => ?_, fun _ _ hl => ?_⟩
    · cases hg
    · cases hb
    · cases hl
  · intro c _ hvault mint
    cases c with
    | feeVault target side => rfl
    | poolFees target side => cases hvault
    | bribeVault id => rfl

end Deployment

namespace Segregated

open Deployment

variable {run done : List Operation} {foreman : Address} {params : FactoryParams}
  {maxLockSecs : UInt64} {d : Deployment}

/-- The accounts of a segregated run are told apart by their addresses. -/
theorem injOn (h : Segregated run) :
    Set.InjOn Custody.address {c | c ∈ Operation.custodies run} :=
  fun c hc c' hc' heq => h.distinct c hc c' hc' heq

/-- A segregated run brings in nothing but its own accounts and outsiders. -/
theorem admits (h : Segregated run) (hcreate : create foreman params maxLockSecs = .ok d) :
    Admits {c | c ∈ Operation.custodies run} d run where
  targets operation hop target htarget c hc := Operation.ofTarget_mem_custodies hop htarget hc
  outsiders operation hop account haccount c hc := h.outsiders operation hop account haccount c hc
  bribes n hn := by
    obtain ⟨-, hcount⟩ := inCustody_of_create (S := {c | c ∈ Operation.custodies run}) hcreate
    rw [hcount] at hn
    refine Operation.bribeVault_mem_custodies ?_
    change n < 0 + _ at hn
    omega

/-- On the way of a segregated run the books are sound and the vaults solvent. -/
theorem inCustody (h : Segregated run) (hdone : done <+: run)
    (hcreate : create foreman params maxLockSecs = .ok d) :
    (d.afterAll done).InCustody {c | c ∈ Operation.custodies run} := by
  obtain ⟨hnew, -⟩ := inCustody_of_create (S := {c | c ∈ Operation.custodies run}) hcreate
  obtain ⟨rest, rfl⟩ := hdone
  exact hnew.afterAll h.injOn (h.admits hcreate).init

/-- Every operation of a segregated run brings in nothing but what is granted. -/
theorem guarded {operation : Operation} {rest : List Operation}
    (h : Segregated (done ++ operation :: rest))
    (hcreate : create foreman params maxLockSecs = .ok d) :
    operation.Guarded {c | c ∈ Operation.custodies (done ++ operation :: rest)}
      (d.afterAll done) :=
  (Admits.tail done (h.admits hcreate) (bribeCount_afterAll_le done d)).head

end Segregated

end EpochVoting
