import EpochVoting.Proofs.Captures
import EpochVoting.Proofs.Captures
import EpochVoting.Proofs.ReportBalances

/-!
# Failed steps

A step that fails leaves the deployment as it was, unless it is several calls of which some have
succeeded: waiting for the end of the epoch before an advance, or taking a snapshot and
committing to gauges before a commitment that fails (`attempt_of_error`).  So the failed steps can
be taken out of a scenario, and the others end as they did (`failed_steps_leave_no_trace`).
-/

namespace EpochVoting

/-- The step is several calls, of which some may have been made when it fails. -/
def Step.isSeveral : Step → Bool
  | nextEpoch | voteEpoch .. => true
  | _ => false

namespace Deployment

open Engine EpochVoting.Action

variable {d : Deployment} {operation : Operation}

/-- The foreman can enable and disable every gauge that is registered. -/
theorem succeeds_setGaugeEnabled {target : Address} {g : Gauge} (enabled : Bool)
    (hforeman : d.foreman = d.engine.factory.foreman)
    (hgauge : d.engine.registry.gauges.find? target = some g) :
    Succeeds (setGaugeEnabled none target enabled) d := by
  have hset : d.engine.registry.setEnabled target enabled =
      .ok (g.enabled != enabled, d.engine.registry.put { g with enabled }) :=
    bind_eq_ok_iff.mpr ⟨g, Registry.get_eq_ok_iff.mpr hgauge, rfl⟩
  have hcall : d.engine.setGaugeEnabled d.foreman target enabled =
      .ok (g.enabled != enabled,
        { d.engine with registry := d.engine.registry.put { g with enabled } }) :=
    bind_eq_ok_iff.mpr ⟨(), Factory.requireForeman_eq_ok_iff.mpr hforeman,
      bind_eq_ok_iff.mpr ⟨_, hset, rfl⟩⟩
  exact ⟨_, _, run_onEngine_eq_ok_iff.mpr ⟨_, hcall, rfl⟩⟩

/-- A gauge that was just registered can be enabled, so both fail or none. -/
theorem atomic_addGauge {target : Address} {mints : PerSide Address}
    (hforeman : d.foreman = d.engine.factory.foreman) :
    Atomic (perform (.addGauge target mints)) d := by
  refine atomic_bind_done ((atomic_changeEngine _).bind fun _ d₁ hcreated => ?_)
  obtain ⟨engine, hengine, rfl⟩ := run_changeEngine_eq_ok_iff.mp hcreated
  obtain ⟨-, rfl⟩ := createGauge_eq_ok_iff.mp hengine
  refine succeeds_bind ?_ fun _ _ _ => succeeds_pure _
  exact succeeds_setGaugeEnabled true hforeman (Table.find?_insert_self ..)

/-- As long as nobody hands the administration over, the foreman stays. -/
theorem factoryForeman_afterAll {run : List Operation}
    (hkept : ∀ operation ∈ run, ∀ authority foreman, operation ≠ .setForeman authority foreman) :
    (d.afterAll run).engine.factory.foreman = d.engine.factory.foreman := by
  induction run generalizing d with
  | nil => rfl
  | cons operation rest ih =>
    obtain ⟨hfirst, hrest⟩ := List.forall_mem_cons.mp hkept
    rw [afterAll_cons, ih hrest]
    rcases d.foreman_by_foreman operation with hsame | ⟨foreman, rfl⟩
    · exact hsame
    · exact absurd rfl (hfirst d.engine.factory.foreman foreman)

end Deployment

namespace Step

variable {step : Step} {foreman : Address} {operation : Operation}

/-- No step hands the administration over. -/
theorem ne_setForeman (h : step.operation? foreman = some operation)
    (authority newForeman : Address) : operation ≠ .setForeman authority newForeman := by
  rintro rfl
  cases step with
  | createGauge _ _ enable => cases enable <;> cases h
  | _ => cases h

/-- A step is one call, unless it is several that can fail midway or registers and enables a
gauge. -/
theorem basic_or_addGauge (h : step.operation? foreman = some operation)
    (hsingle : step.isSeveral = false) :
    operation.isBasic = true ∨ ∃ target mints, operation = .addGauge target mints := by
  cases step with
  | nextEpoch | voteEpoch => cases hsingle
  | checkInvariants => cases h
  | createGauge _ _ enable =>
    cases enable <;> cases h
    · exact Or.inl rfl
    · exact Or.inr ⟨_, _, rfl⟩
  | _ =>
    cases h
    exact Or.inl rfl

end Step

namespace ScenarioStep

open Deployment EpochVoting.Action

variable {S : Set Custody} {d : Deployment} {entry : ScenarioStep} {cause : VotingError}

/-- Where the vaults are solvent, a failed step leaves nothing, unless it is several calls. -/
theorem attempt_of_failure (hcustody : d.InCustody S) (hS : Set.InjOn Custody.address S)
    (hforeman : d.foreman = d.engine.factory.foreman) (hsingle : entry.step.isSeveral = false)
    (hfailed : (entry.attempt d).1 = .error cause) : (entry.attempt d).2 = d := by
  cases hrun : entry.step.run.run d with
  | ok outcome d' =>
    rw [attempt_of_ok hrun] at hfailed
    cases hfailed
  | error error d' =>
    cases hoperation : entry.step.operation? d.foreman with
    | none =>
      rw [entry.attempt_snd, hoperation, Option.toList_none, Deployment.afterAll, List.foldl_nil]
    | some operation =>
      have hrefused := error_of_effect (Step.effect_eq hoperation) hrun
      rw [attempt_of_error hrun]
      rcases Step.basic_or_addGauge hoperation hsingle with hbasic | ⟨target, mints, rfl⟩
      · exact hcustody.atomic hS hbasic hrefused
      · exact atomic_addGauge hforeman hrefused

end ScenarioStep

/-- What a report says of a step, but for its position. -/
def StepReport.content (r : StepReport) : String × Epoch × Bool × String :=
  (r.action, r.epoch, r.ok, r.outcome)

theorem ScenarioStep.content_told (entry : ScenarioStep) (index other : Nat) (epoch : Epoch)
    (result : Except VotingError String) :
    (entry.told index epoch result).content = (entry.told other epoch result).content := by
  cases result <;> rfl

namespace Scenario

open Account (named)
open Deployment

variable {s : Scenario} {steps : List ScenarioStep} {reports : List StepReport} {index : Nat}
  {start d d' : Deployment} {report : Report}

/-- The steps, with their reports, that did not fail or are several calls. -/
def survivors (steps : List ScenarioStep) (reports : List StepReport) :
    List (ScenarioStep × StepReport) :=
  (steps.zip reports).filter fun x => x.2.ok || x.1.step.isSeveral

/-- The scenario without the single calls that were reported as failed. -/
def withoutFailures (s : Scenario) (report : Report) : Scenario :=
  { s with steps := (survivors s.steps report.steps).map Prod.fst }

/-- A replay in which the failed steps that are taken out left nothing. -/
theorem replay_survivors
    (hleft : ∀ done entry rest cause, steps = done ++ entry :: rest →
      entry.step.isSeveral = false →
      (entry.attempt (d.afterAll (operationsOf d.foreman done))).1 = .error cause →
      (entry.attempt (d.afterAll (operationsOf d.foreman done))).2 =
        d.afterAll (operationsOf d.foreman done))
    (hreplay : replaySteps index steps d = .ok (reports, d')) (other : Nat) :
    ∃ reports', replaySteps other ((survivors steps reports).map Prod.fst) d = .ok (reports', d') ∧
      reports'.map StepReport.content = (survivors steps reports).map fun x => x.2.content := by
  induction steps generalizing index d reports other with
  | nil =>
    cases hreplay
    exact ⟨[], rfl, rfl⟩
  | cons entry rest ih =>
    obtain ⟨others, hexpected, hrest, rfl⟩ := replaySteps_cons_eq_ok_iff.mp hreplay
    have hforeman : (entry.attempt d).2.foreman = d.foreman := by
      rw [entry.attempt_snd, foreman_afterAll]
    have hlater := ih (d := (entry.attempt d).2) (fun done later tail cause heq => by
      have hdone : (entry.attempt d).2.afterAll (operationsOf d.foreman done) =
          d.afterAll (operationsOf d.foreman (entry :: done)) := by
        rw [entry.attempt_snd, operationsOf_cons, afterAll_append]
      rw [hforeman, hdone]
      exact hleft (entry :: done) later tail cause (by rw [heq, List.cons_append])) hrest
    rw [survivors, List.zip_cons_cons, List.filter_cons]
    split
    · -- The step is made again, in the same deployment.
      obtain ⟨reports', hagain, hcontent⟩ := hlater (other + 1)
      refine ⟨_, replaySteps_cons_eq_ok_iff.mpr ⟨reports', hexpected, hagain, rfl⟩, ?_⟩
      rw [List.map_cons, List.map_cons, hcontent, entry.content_told other index]
      rfl
    · next hdropped =>
      -- The step is taken out, and what follows starts from where it started.
      simp only [Bool.or_eq_true, not_or, Bool.not_eq_true] at hdropped
      obtain ⟨hfailed, hsingle⟩ := hdropped
      have hsame : (entry.attempt d).2 = d := by
        cases hresult : (entry.attempt d).1 with
        | ok outcome =>
          rw [hresult] at hfailed
          cases hfailed
        | error cause => exact hleft [] entry rest cause rfl hsingle hresult
      rw [hsame] at hlater
      exact hlater other

theorem operationsOf_append (foreman : Address) (first rest : List ScenarioStep) :
    operationsOf foreman (first ++ rest) =
      operationsOf foreman first ++ operationsOf foreman rest :=
  List.filterMap_append ..

theorem foreman_replayed {c : Config} (hdeploy : c.deploy = .ok start)
    (steps : List ScenarioStep) :
    (start.afterAll (operationsOf start.foreman steps)).foreman =
      (start.afterAll (operationsOf start.foreman steps)).engine.factory.foreman := by
  rw [foreman_afterAll, (Config.deploy_eq_ok hdeploy).2]
  refine (factoryForeman_afterAll fun operation hoperation => ?_).symm
  obtain ⟨entry, -, hstep⟩ := mem_operationsOf.mp hoperation
  exact Step.ne_setForeman hstep

/-- In a scenario whose addresses do not collide, a failed step leaves nothing, unless it is
several calls. -/
theorem Distinct.attempt_of_failure (hdistinct : s.Distinct) {c : Config}
    (hdeploy : c.deploy = .ok start) {done rest : List ScenarioStep} {entry : ScenarioStep}
    {cause : VotingError} (hsteps : s.steps = done ++ entry :: rest)
    (hsingle : entry.step.isSeveral = false)
    (hfailed : (entry.attempt (start.afterAll (operationsOf start.foreman done))).1 =
      .error cause) :
    (entry.attempt (start.afterAll (operationsOf start.foreman done))).2 =
      start.afterAll (operationsOf start.foreman done) := by
  have hprefix : operationsOf start.foreman done <+: operationsOf start.foreman s.steps := by
    rw [hsteps, operationsOf_append]
    exact List.prefix_append ..
  exact ScenarioStep.attempt_of_failure (hdistinct.inCustody hdeploy hprefix)
    (fun c hc c' hc' => hdistinct.custodies c hc c' hc') (foreman_replayed hdeploy done) hsingle
    hfailed

theorem mem_of_survives {entry : ScenarioStep}
    (h : entry ∈ (survivors steps reports).map Prod.fst) : entry ∈ steps := by
  obtain ⟨⟨_, r⟩, hpair, rfl⟩ := List.mem_map.mp h
  exact (List.of_mem_zip (List.mem_filter.mp hpair).1).1

/-- The scenario without the failures has no accounts and mints of its own. -/
theorem names_withoutFailures (s : Scenario) (report : Report) :
    (s.withoutFailures report).accounts ⊆ s.accounts ∧
      (s.withoutFailures report).mints ⊆ s.mints := by
  constructor
  · intro name hname
    obtain ⟨entry, hentry, hstep⟩ := mem_accounts.mp hname
    exact mem_accounts.mpr ⟨entry, mem_of_survives hentry, hstep⟩
  · intro name hname
    obtain ⟨entry, hentry, hstep⟩ := mem_mints.mp hname
    exact mem_mints.mpr ⟨entry, mem_of_survives hentry, hstep⟩

/-- What is held in an account and a mint of the scenario is held in one that the scenario without
the failures has, too: all that is held there is in its accounts or in vaults. -/
theorem named_withoutFailures {c : Config} (hdistinct : s.Distinct)
    (hdeploy : c.deploy = .ok start) (hreplay : replaySteps index s.steps start = .ok (reports, d))
    {other : Nat} {reports' : List StepReport}
    (hreplay' : replaySteps other (s.withoutFailures report).steps start = .ok (reports', d))
    {account mint : String} (haccount : account ∈ s.accounts) (hmint : mint ∈ s.mints)
    (hheld : d.tokens.balance (named mint) (named account) ≠ 0) :
    account ∈ (s.withoutFailures report).accounts ∧ mint ∈ (s.withoutFailures report).mints := by
  obtain ⟨haccounts, hmints⟩ := names_withoutFailures s report
  obtain ⟨hmintNamed, hholder⟩ :=
    (confined_replay hdeploy hreplay').balances (named mint) (named account) hheld
  constructor
  · rcases hholder with hnamed | hcustodian
    · obtain ⟨a, ha, heq⟩ := List.mem_map.mp hnamed
      rwa [← hdistinct.accounts a (haccounts ha) account haccount heq]
    · -- An account of the scenario is no vault.
      obtain ⟨c, hc, heq⟩ := hcustodian.mem_custodies
      exact absurd heq
        (hdistinct.apart account haccount c (custodies_subset hdistinct hdeploy hreplay hc))
  · obtain ⟨m, hm, heq⟩ := List.mem_map.mp hmintNamed
    rwa [← hdistinct.mints m (hmints hm) mint hmint heq]

/-- Where no addresses collide, the single calls that failed can be taken out of a scenario: it is
still reported, each step that is left ends as it did, and the epoch and the balances in the end
are the same. -/
theorem failed_steps_leave_no_trace {c : Config} (hdistinct : s.Distinct)
    (hreport : s.simulate c = .ok report) :
    ∃ report', (s.withoutFailures report).simulate c = .ok report' ∧
      report'.steps.map StepReport.content =
        (survivors s.steps report.steps).map (fun x => x.2.content) ∧
      report'.finalEpoch = report.finalEpoch ∧
      ∀ account mint amount,
        report'.Lists account mint amount ↔ report.Lists account mint amount := by
  obtain ⟨start, last, reports, hdeploy, hreplay, haudit, hresult⟩ := simulate_eq_ok_iff.mp hreport
  have hreports : report.steps = reports := by rw [hresult]
  obtain ⟨reports', hreplay', hcontent⟩ := replay_survivors
    (fun _ _ _ _ hsteps hsingle hfailed =>
      hdistinct.attempt_of_failure hdeploy hsteps hsingle hfailed) hreplay 0
  rw [← hreports] at hreplay' hcontent
  refine ⟨_, simulate_eq_ok_iff.mpr ⟨start, last, reports', hdeploy, hreplay', haudit, rfl⟩,
    hcontent, by rw [hresult], fun account mint amount => ?_⟩
  have hlisted : report.Lists account mint amount ↔ _ :=
    lists_iff (d := last) (by rw [hresult])
  rw [lists_iff rfl, hlisted]
  -- The last deployments are the same, so only the names can make a difference.
  constructor
  · rintro ⟨haccount, hmint, hbalance⟩
    obtain ⟨haccounts, hmints⟩ := names_withoutFailures s report
    exact ⟨haccounts haccount, hmints hmint, hbalance⟩
  · rintro ⟨haccount, hmint, hheld, rfl⟩
    obtain ⟨haccount', hmint'⟩ :=
      named_withoutFailures hdistinct hdeploy hreplay hreplay' haccount hmint hheld
    exact ⟨haccount', hmint', hheld, rfl⟩

/-- The step that is taken out is the one that would exceed what an account can hold. -/
theorem failed_funding_leaves_no_trace :
    ∃ report report', Sample.fees.simulate Config.default = .ok report ∧
      (Sample.fees.withoutFailures report).steps.length = 4 ∧
      (Sample.fees.withoutFailures report).simulate Config.default = .ok report' ∧
      ∀ account mint amount,
        report'.Lists account mint amount ↔ report.Lists account mint amount := by
  obtain ⟨report, -, -, hreport, -, -, hok, -⟩ := Sample.simulate_fees
  obtain ⟨report', hreport', -, -, hlists⟩ :=
    failed_steps_leave_no_trace Sample.distinct_fees hreport
  refine ⟨report, report', hreport, ?_, hreport', hlists⟩
  obtain ⟨_, _, hfirst, hok₁, hok⟩ := List.map_eq_cons_iff.mp hok
  obtain ⟨_, _, rfl, hok₂, hok⟩ := List.map_eq_cons_iff.mp hok
  obtain ⟨_, _, rfl, hok₃, hok⟩ := List.map_eq_cons_iff.mp hok
  obtain ⟨_, _, rfl, hok₄, hok⟩ := List.map_eq_cons_iff.mp hok
  obtain ⟨_, _, rfl, hok₅, -⟩ := List.map_eq_cons_iff.mp hok
  simp [withoutFailures, survivors, hfirst, hok₁, hok₂, hok₃, hok₄, hok₅, Sample.fees,
    Step.isSeveral]

end Scenario
end EpochVoting
