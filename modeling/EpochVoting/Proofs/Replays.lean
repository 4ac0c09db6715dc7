import EpochVoting.Proofs.Authority
import EpochVoting.Scenario.Replay

/-!
# Replays as runs

A step of a scenario is an operation whose arguments go by name, or a check that changes nothing
(`Step.operation?`, `Step.effect_eq`).  So the deployment that a replay leaves is the one that the
operations of its steps leave, and a step is reported as successful if its operation succeeded
(`replaySteps_eq_ok_iff`).
-/

namespace EpochVoting

/-! ## What an action does -/

namespace Action

variable {α β γ : Type} {d : Deployment}

/-- What an action does to a deployment and whether it fails, but not what it answers. -/
def effect (x : Action α) (d : Deployment) : EStateM.Result VotingError Deployment Unit :=
  match x.run d with
  | .ok _ d' => .ok () d'
  | .error error d' => .error error d'

theorem effect_of_ok {x : Action α} {a : α} {d' : Deployment} (h : x.run d = .ok a d') :
    x.effect d = .ok () d' := by
  unfold effect
  rw [h]

theorem effect_of_error {x : Action α} {error : VotingError} {d' : Deployment}
    (h : x.run d = .error error d') : x.effect d = .error error d' := by
  unfold effect
  rw [h]

theorem effect_map (f : α → β) (x : Action α) : (f <$> x).effect d = x.effect d := by
  unfold effect
  rw [map_eq_pure_bind, EStateM.run_bind]
  cases x.run d <;> rfl

/-- What follows an action and only tells something has no effect of its own. -/
theorem effect_bind_told {x : Action α} {f : α → Action β}
    (hf : ∀ a d', ∃ b, (f a).run d' = .ok b d') : (x >>= f).effect d = x.effect d := by
  unfold effect
  rw [EStateM.run_bind]
  cases x.run d with
  | error error d' => rfl
  | ok a d' =>
    obtain ⟨b, hb⟩ := hf a d'
    simp only [hb]

theorem effect_bind_congr {x : Action α} {f : α → Action β} {g : α → Action γ}
    (h : ∀ a d', (f a).effect d' = (g a).effect d') :
    (x >>= f).effect d = (x >>= g).effect d := by
  unfold effect
  rw [EStateM.run_bind, EStateM.run_bind]
  cases x.run d with
  | error error d' => rfl
  | ok a d' => exact h a d'

theorem effect_get_bind (f : Deployment → Action β) :
    (get >>= f : Action β).effect d = (f d).effect d :=
  rfl

/-- Two actions of the same effect succeed alike and leave the same. -/
theorem ok_of_effect {x : Action α} {y : Action β} (h : x.effect d = y.effect d) {a : α}
    {d' : Deployment} (hx : x.run d = .ok a d') : ∃ b, y.run d = .ok b d' := by
  rw [effect_of_ok hx] at h
  unfold effect at h
  cases hy : y.run d with
  | ok b d'' =>
    rw [hy] at h
    cases h
    exact ⟨b, rfl⟩
  | error error d'' =>
    rw [hy] at h
    cases h

theorem error_of_effect {x : Action α} {y : Action β} (h : x.effect d = y.effect d)
    {error : VotingError} {d' : Deployment} (hx : x.run d = .error error d') :
    y.run d = .error error d' := by
  rw [effect_of_error hx] at h
  unfold effect at h
  cases hy : y.run d with
  | ok b d'' =>
    rw [hy] at h
    cases h
  | error error' d'' =>
    rw [hy] at h
    cases h
    rfl

theorem leaves_of_effect {x : Action α} {y : Action β} (h : x.effect d = y.effect d) :
    x.leaves d = y.leaves d := by
  unfold leaves
  cases hx : x.run d with
  | ok a d' =>
    obtain ⟨b, hb⟩ := ok_of_effect h hx
    rw [hb]
  | error error d' => rw [error_of_effect h hx]

end Action

/-! ## Steps as operations -/

namespace Step

open Account (named)
open Deployment EpochVoting.Action

/-- The operation that a step stands for; a check is none. -/
def operation? (foreman : Address) : Step → Option Operation
  | advanceTime secs => some (.passTime secs)
  | nextEpoch => some .nextEpoch
  | advanceEpoch => some (.advanceEpoch none)
  | createGauge gauge mints true => some (.addGauge (named gauge) (mints.map named))
  | createGauge gauge mints false => some (.createGauge (named gauge) (mints.map named))
  | enableGauge gauge => some (.setGaugeEnabled none (named gauge) true)
  | disableGauge gauge => some (.setGaugeEnabled none (named gauge) false)
  | setEpochDuration secs => some (.setEpochDuration foreman secs)
  | lock voter power => some (.lock (named voter) power none)
  | delegate voter chosen => some (.setDelegate (named voter) (named chosen))
  | fund account mint amount => some (.fund (named mint) (named account) amount)
  | accrueFees gauge side amount => some (.accrueFees (named gauge) side amount)
  | setVote voter gauge weight => some (.setVote none (named voter) (named gauge) weight)
  | snapshot voter => some (.takeSnapshot (named voter))
  | resetVoter voter => some (.resetSnapshot (named voter))
  | ensureEpochGauge gauge => some (.ensureEpochGauge (named gauge) none)
  | commit voter gauge => some (.commit (named voter) (named gauge))
  | voteEpoch voter gauges => some (.voteEpoch (named voter) (gauges.map named))
  | revert voter gauge => some (.revert none (named voter) (named gauge) none)
  | close voter gauge epoch => some (.close none (named voter) (named gauge) epoch)
  | cleanEmptyEpochGauge gauge epoch => some (.cleanEpochGauge (named gauge) epoch)
  | syncGauge gauge => some (.syncGauge (named gauge))
  | syncDisabledGauge gauge => some (.syncDisabledGauge (named gauge))
  | claimFee voter gauge epoch side =>
    some (.claimFee none (named voter) (named gauge) epoch side)
  | createBribe briber gauge mint rewardPerEpoch epochEnd =>
    some (.createBribe (named briber) (named gauge) (named mint) rewardPerEpoch epochEnd)
  | claimBribe voter bribe epoch => some (.claimBribe none (named voter) bribe epoch)
  | clawbackBribe briber bribe epoch => some (.clawBackBribe (named briber) bribe epoch)
  | checkInvariants => none

variable {d d' : Deployment} {step : Step} {operation : Operation}

/-- A step does what its operation does. -/
theorem effect_eq (h : step.operation? d.foreman = some operation) :
    step.run.effect d = (perform operation).effect d := by
  -- A step ends with a line of text where its operation ends with a reply.
  have htold {α : Type} {x : Action α} {line : α → String} {reply : α → Reply} :
      (x >>= fun a => pure (line a)).effect d = (reply <$> x).effect d := by
    rw [effect_map]
    exact effect_bind_told fun a d' => ⟨_, rfl⟩
  have hdone {x : Action Unit} {line : String} :
      (x >>= fun _ => pure line).effect d = (x >>= fun _ => pure Reply.done).effect d :=
    effect_bind_congr fun _ _ => rfl
  cases step with
  | createGauge gauge mints enable =>
    cases enable <;> cases h
    · exact hdone
    · -- The operation is two calls, too, and answers after the second one.
      refine Eq.trans ?_ (effect_bind_told fun _ d' => ⟨Reply.done, rfl⟩).symm
      exact effect_bind_congr fun _ _ => effect_bind_congr fun _ _ => rfl
  | checkInvariants => cases h
  | advanceTime =>
    cases h
    exact (effect_bind_told fun _ _ => ⟨_, rfl⟩).trans (effect_map ..).symm
  | commit =>
    cases h
    refine (effect_bind_told fun outcome _ => ?_).trans (effect_map ..).symm
    cases outcome <;> exact ⟨_, rfl⟩
  | setEpochDuration =>
    cases h
    exact hdone.trans rfl
  | ensureEpochGauge gauge =>
    cases h
    refine (effect_bind_told fun _ _ => ⟨_, rfl⟩).trans ?_
    rw [perform, effect_get_bind, effect_map, ensureCurrentEpochGauge, effect_get_bind]
    rfl
  | _ =>
    cases h
    first
    | exact htold
    | exact hdone

/-- A check reads and does not write. -/
theorem leaves_of_check {foreman : Address} (h : step.operation? foreman = none) :
    step.run.leaves d = d := by
  cases step with
  | checkInvariants =>
    rw [run, leaves_get_bind]
    cases d.audit <;> rfl
  | createGauge _ _ enable => cases enable <;> cases h
  | _ => cases h

theorem leaves_eq (h : step.operation? d.foreman = some operation) :
    step.run.leaves d = d.after operation := by
  rw [leaves_of_effect (effect_eq h), after_eq_leaves]

end Step

/-! ## Replays -/

namespace ScenarioStep

open EpochVoting.Action

variable {s : ScenarioStep} {d : Deployment} {index : Nat} {epoch : Epoch}
  {result : Except VotingError String} {report : StepReport}

theorem attempt_of_ok {outcome : String} {d' : Deployment}
    (h : s.step.run.run d = .ok outcome d') : s.attempt d = (.ok outcome, d') := by
  unfold attempt
  rw [h]

theorem attempt_of_error {cause : VotingError} {d' : Deployment}
    (h : s.step.run.run d = .error cause d') : s.attempt d = (.error cause, d') := by
  unfold attempt
  rw [h]

/-- The deployment after a step is the one that its operation leaves. -/
theorem attempt_snd (s : ScenarioStep) (d : Deployment) :
    (s.attempt d).2 = d.afterAll (s.step.operation? d.foreman).toList := by
  have hleaves : (s.attempt d).2 = s.step.run.leaves d := by
    unfold attempt leaves
    cases s.step.run.run d <;> rfl
  rw [hleaves]
  cases hoperation : s.step.operation? d.foreman with
  | none => exact Step.leaves_of_check hoperation
  | some operation => exact Step.leaves_eq hoperation

/-- The report on a step that ended with the result. -/
def told (s : ScenarioStep) (index : Nat) (epoch : Epoch) : Except VotingError String → StepReport
  | .ok outcome => { index, action := s.step.action, epoch, ok := true, outcome }
  | .error cause => { index, action := s.step.action, epoch, ok := false, outcome := cause.message }

/-- The result is one that the scenario says the step must end with. -/
def Expects (s : ScenarioStep) : Except VotingError String → Prop
  | .ok _ => s.expectedError = none
  | .error cause => ∃ expected, s.expectedError = some expected ∧
      Text.occursIn expected.toList cause.message.toList = true

/-- A step that ends as it must is reported; whether it does depends on its result alone. -/
theorem judge_eq_ok_iff :
    s.judge index epoch result = .ok report ↔
      s.Expects result ∧ report = s.told index epoch result := by
  unfold judge Expects
  cases result with
  | ok outcome =>
    cases s.expectedError with
    | none => simp [told, eq_comm]
    | some expected => simp
  | error cause =>
    cases s.expectedError with
    | none => simp
    | some expected =>
      simp only [Option.some.injEq, exists_eq_left']
      by_cases hoccurs : Text.occursIn expected.toList cause.message.toList = true
      · simp only [hoccurs, if_true, Except.ok.injEq, true_and, told]
        exact eq_comm
      · simp only [hoccurs, if_false, reduceCtorEq, false_and]

theorem ok_told : (s.told index epoch result).ok = true ↔ ∃ outcome, result = .ok outcome := by
  cases result <;> simp [told]

end ScenarioStep

namespace Deployment

variable {d : Deployment}

/-- No operation changes for whom a deployment makes the administrative calls. -/
theorem foreman_afterAll (d : Deployment) (run : List Operation) :
    (d.afterAll run).foreman = d.foreman :=
  afterAll_induction (P := fun x => x.foreman = d.foreman)
    (fun _ hbasic _ hx => (foreman_after hbasic).trans hx) run rfl

end Deployment

namespace Scenario

/-- The operations that steps stand for. -/
def operationsOf (foreman : Address) (steps : List ScenarioStep) : List Operation :=
  steps.filterMap fun s => s.step.operation? foreman

variable {s : ScenarioStep} {rest : List ScenarioStep} {index : Nat} {d d' : Deployment}
  {reports : List StepReport}

theorem operationsOf_cons (foreman : Address) (s : ScenarioStep) (rest : List ScenarioStep) :
    operationsOf foreman (s :: rest) =
      (s.step.operation? foreman).toList ++ operationsOf foreman rest := by
  rw [operationsOf, operationsOf, List.filterMap_cons]
  cases s.step.operation? foreman <;> rfl

theorem replaySteps_cons_eq_ok_iff :
    replaySteps index (s :: rest) d = .ok (reports, d') ↔
      ∃ others, s.Expects (s.attempt d).1 ∧
        replaySteps (index + 1) rest (s.attempt d).2 = .ok (others, d') ∧
        reports = s.told index (s.attempt d).2.engine.currentEpoch (s.attempt d).1 :: others := by
  rw [replaySteps]
  simp only [bind_eq_ok_iff, Prod.exists, pure_eq_ok_iff, Prod.mk.injEq,
    ScenarioStep.judge_eq_ok_iff]
  constructor
  · rintro ⟨report, ⟨hexpected, rfl⟩, others, _, hrest, rfl, rfl⟩
    exact ⟨others, hexpected, hrest, rfl⟩
  · rintro ⟨others, hexpected, hrest, rfl⟩
    exact ⟨_, ⟨hexpected, rfl⟩, others, d', hrest, rfl, rfl⟩

/-- A replay reports every step. -/
theorem length_reports {steps : List ScenarioStep}
    (h : replaySteps index steps d = .ok (reports, d')) : reports.length = steps.length := by
  induction steps generalizing index d reports with
  | nil =>
    cases h
    rfl
  | cons s rest ih =>
    obtain ⟨others, -, hrest, rfl⟩ := replaySteps_cons_eq_ok_iff.mp h
    rw [List.length_cons, List.length_cons, ih hrest]

/-- A replay leaves what the operations of its steps leave. -/
theorem replaySteps_afterAll {steps : List ScenarioStep}
    (h : replaySteps index steps d = .ok (reports, d')) :
    d' = d.afterAll (operationsOf d.foreman steps) := by
  induction steps generalizing index d reports with
  | nil =>
    cases h
    rfl
  | cons s rest ih =>
    obtain ⟨others, -, hrest, -⟩ := replaySteps_cons_eq_ok_iff.mp h
    rw [ih hrest, s.attempt_snd d, Deployment.foreman_afterAll, ← Deployment.afterAll_append,
      ← operationsOf_cons]

/-- A scenario is reported if its replay goes through and the audit passes. -/
theorem simulate_eq_ok_iff {scenario : Scenario} {c : Config} {report : Report} :
    scenario.simulate c = .ok report ↔ ∃ start last reports, c.deploy = .ok start ∧
      replaySteps 0 scenario.steps start = .ok (reports, last) ∧ last.audit = .ok () ∧
      report = { name := scenario.name, finalEpoch := last.engine.currentEpoch, steps := reports,
                 balances := scenario.balances last } := by
  have haudit {x : Except Violation Unit} :
      (∃ u, x.mapError Failure.violated = .ok u) ↔ x = .ok () := by
    cases x <;> simp [Except.mapError]
  unfold simulate replay
  simp only [bind_eq_ok_iff, Prod.exists, pure_eq_ok_iff]
  constructor
  · rintro ⟨start, hstart, reports, last, hreplay, u, hpassed, rfl⟩
    exact ⟨start, last, reports, hstart, hreplay, haudit.mp ⟨u, hpassed⟩, rfl⟩
  · rintro ⟨start, last, reports, hstart, hreplay, hpassed, rfl⟩
    obtain ⟨u, hpassed⟩ := haudit.mpr hpassed
    exact ⟨start, hstart, reports, last, hreplay, u, hpassed, rfl⟩

end Scenario

/-- A configuration deploys a new deployment, with the foreman as its administrator. -/
theorem Config.deploy_eq_ok {c : Config} {start : Deployment} (h : c.deploy = .ok start) :
    Deployment.create (Account.named c.foreman) c.factoryParams c.maxLockSecs = .ok start ∧
      start.foreman = start.engine.factory.foreman := by
  obtain ⟨_, -, hsetup⟩ := bind_eq_ok_iff.mp h
  change (Deployment.create (Account.named c.foreman) c.factoryParams c.maxLockSecs).mapError
    Failure.setup = .ok start at hsetup
  cases hcreate : Deployment.create (Account.named c.foreman) c.factoryParams c.maxLockSecs with
  | error cause =>
    rw [hcreate] at hsetup
    cases hsetup
  | ok created =>
    rw [hcreate] at hsetup
    cases hsetup
    refine ⟨rfl, ?_⟩
    obtain ⟨engine, hengine, heq⟩ := bind_eq_ok_iff.mp hcreate
    cases heq
    obtain ⟨factory, hfactory, heq⟩ := bind_eq_ok_iff.mp hengine
    cases heq
    obtain ⟨-, due, -, rfl⟩ := Factory.create_eq_ok_iff.mp hfactory
    rfl

/-! ## The accounts of a scenario -/

namespace Step

open Account (named)

/-- The gauges that a step registers. -/
def gauges : Step → List String
  | createGauge gauge _ _ => [gauge]
  | _ => []

/-- The number of bribes that a step can create. -/
def bribes : Step → Nat
  | createBribe .. => 1
  | _ => 0

variable {step : Step} {foreman : Address} {operation : Operation}

/-- The names that a step brings in are those that its operation does. -/
theorem brings_in (h : step.operation? foreman = some operation) :
    operation.targets = step.gauges.map named ∧ operation.newBribes = step.bribes ∧
      operation.outsiders ⊆ step.accounts.map named := by
  cases step with
  | createGauge _ _ enable =>
    cases enable <;> cases h <;> exact ⟨rfl, rfl, List.nil_subset _⟩
  | checkInvariants => cases h
  | lock | fund | createBribe =>
    cases h
    exact ⟨rfl, rfl, List.Subset.refl _⟩
  | _ =>
    cases h
    exact ⟨rfl, rfl, List.nil_subset _⟩

theorem brings_in_nothing (h : step.operation? foreman = none) :
    step.gauges = [] ∧ step.bribes = 0 := by
  cases step with
  | createGauge _ _ enable => cases enable <;> cases h
  | checkInvariants => exact ⟨rfl, rfl⟩
  | _ => cases h

end Step

namespace Scenario

open Account (named)

theorem mem_sortedNames {names : List String} {name : String} :
    name ∈ sortedNames names ↔ name ∈ names := by
  rw [sortedNames, List.mem_mergeSort, List.mem_eraseDups]

theorem nodup_eraseDups : ∀ names : List String, names.eraseDups.Nodup
  | [] => List.nodup_nil
  | name :: rest => by
    rw [List.eraseDups_cons, List.nodup_cons, List.mem_eraseDups]
    exact ⟨by simp, nodup_eraseDups (rest.filter fun other => !other == name)⟩
termination_by names => names.length
decreasing_by exact Nat.lt_succ_of_le (List.length_filter_le ..)

theorem nodup_sortedNames (names : List String) : (sortedNames names).Nodup :=
  (List.mergeSort_perm ..).nodup_iff.mpr (nodup_eraseDups names)

theorem mem_accounts {s : Scenario} {name : String} :
    name ∈ s.accounts ↔ ∃ entry ∈ s.steps, name ∈ entry.step.accounts :=
  mem_sortedNames.trans List.mem_flatMap

theorem mem_mints {s : Scenario} {name : String} :
    name ∈ s.mints ↔ ∃ entry ∈ s.steps, name ∈ entry.step.mints :=
  mem_sortedNames.trans List.mem_flatMap

/-- The accounts of the gauges and bribes that steps can create. -/
def custodiesOf (steps : List ScenarioStep) : List Custody :=
  (steps.flatMap fun s => s.step.gauges).flatMap (fun gauge => Custody.ofTarget (named gauge)) ++
    (List.range (steps.map fun s => s.step.bribes).sum).map fun n => .bribeVault (UInt64.ofNat n)

theorem custodies_operationsOf (foreman : Address) (steps : List ScenarioStep) :
    Operation.custodies (operationsOf foreman steps) = custodiesOf steps := by
  have hnames : (operationsOf foreman steps).flatMap Operation.targets =
      (steps.flatMap fun s => s.step.gauges).map named ∧
      ((operationsOf foreman steps).map Operation.newBribes).sum =
        (steps.map fun s => s.step.bribes).sum := by
    induction steps with
    | nil => exact ⟨rfl, rfl⟩
    | cons s rest ih =>
      rw [operationsOf] at ih ⊢
      cases hoperation : s.step.operation? foreman with
      | none =>
        obtain ⟨hgauges, hbribes⟩ := Step.brings_in_nothing hoperation
        simpa [List.filterMap_cons, hoperation, hgauges, hbribes] using ih
      | some operation =>
        obtain ⟨htargets, hbribes, -⟩ := Step.brings_in hoperation
        simpa [List.filterMap_cons, hoperation, htargets, hbribes] using ih
  rw [Operation.custodies, custodiesOf, hnames.1, hnames.2, List.flatMap_map]

/-- The addresses that a scenario's tokens can be at do not collide: those of the accounts in its
report, and those of the fee vaults, the pools and the bribe vaults.  Nor do those of the tokens
in its report. -/
structure Distinct (s : Scenario) : Prop where
  accounts : ∀ a ∈ s.accounts, ∀ b ∈ s.accounts, named a = named b → a = b
  mints : ∀ m ∈ s.mints, ∀ n ∈ s.mints, named m = named n → m = n
  custodies : ∀ c ∈ custodiesOf s.steps, ∀ c' ∈ custodiesOf s.steps,
    c.address = c'.address → c = c'
  apart : ∀ a ∈ s.accounts, ∀ c ∈ custodiesOf s.steps, c.address ≠ named a

/-- The names are compared as the steps have them, so that nothing need be sorted. -/
instance (s : Scenario) : Decidable s.Distinct :=
  let accounts := s.steps.flatMap fun entry => entry.step.accounts
  let mints := s.steps.flatMap fun entry => entry.step.mints
  decidable_of_iff
    ((∀ a ∈ accounts, ∀ b ∈ accounts, named a = named b → a = b) ∧
    (∀ m ∈ mints, ∀ n ∈ mints, named m = named n → m = n) ∧
    (∀ c ∈ custodiesOf s.steps, ∀ c' ∈ custodiesOf s.steps, c.address = c'.address → c = c') ∧
    ∀ a ∈ accounts, ∀ c ∈ custodiesOf s.steps, c.address ≠ named a) <| by
    have haccounts (name : String) : name ∈ s.accounts ↔ name ∈ accounts := mem_sortedNames
    have hmints (name : String) : name ∈ s.mints ↔ name ∈ mints := mem_sortedNames
    simp only [← haccounts, ← hmints]
    exact ⟨fun h => ⟨h.1, h.2.1, h.2.2.1, h.2.2.2⟩,
      fun h => ⟨h.accounts, h.mints, h.custodies, h.apart⟩⟩

variable {s : Scenario}

/-- Every operation of a scenario comes from one of its steps. -/
theorem mem_operationsOf {foreman : Address} {steps : List ScenarioStep} {operation : Operation} :
    operation ∈ operationsOf foreman steps ↔
      ∃ entry ∈ steps, entry.step.operation? foreman = some operation :=
  List.mem_filterMap

/-- The operations of a scenario whose addresses do not collide keep out of the vaults. -/
theorem Distinct.segregated (h : s.Distinct) (foreman : Address) :
    Segregated (operationsOf foreman s.steps) := by
  constructor
  · rw [custodies_operationsOf]
    exact h.custodies
  · intro operation hoperation account haccount
    obtain ⟨entry, hentry, hstep⟩ := mem_operationsOf.mp hoperation
    obtain ⟨-, -, houtsiders⟩ := Step.brings_in hstep
    obtain ⟨name, hname, rfl⟩ := List.mem_map.mp (houtsiders haccount)
    rw [custodies_operationsOf]
    exact h.apart name (mem_accounts.mpr ⟨entry, hentry, hname⟩)

/-! ## A scenario with a failure -/

namespace Sample

/-- The third step would exceed what an account can hold. -/
def fees : Scenario where
  name := "fees"
  steps := [
    ⟨.createGauge "pool" ⟨"usdc", "sol"⟩ true, none⟩,
    ⟨.fund "bob" "usdc" 60, none⟩,
    ⟨.fund "bob" "usdc" Amount.greatest, some "balance overflow"⟩,
    ⟨.accrueFees "pool" .a 30, none⟩,
    ⟨.ensureEpochGauge "pool", none⟩]

theorem distinct_fees : fees.Distinct := by
  decide +kernel

end Sample

end Scenario
end EpochVoting
