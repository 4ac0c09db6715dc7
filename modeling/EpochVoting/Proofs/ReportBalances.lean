import EpochVoting.Proofs.Holders
import EpochVoting.Proofs.Replays

/-!
# The balances in a report

A report lists the balances of the accounts that some steps of its scenario name, in the mints
that some steps name.  What it does not list is in the fee vaults, with the pools and in the
bribe vaults, so that together it is all that was funded and earned
(`report_accounts_for_tokens`).
-/

namespace EpochVoting

/-! ## Supply by accounts -/

/-- What a filter leaves out adds nothing. -/
theorem sum_filterMap {α β : Type} (l : List α) (f : α → Option β) (g : β → Nat) :
    ((l.filterMap f).map g).sum = (l.map fun a => (f a).elim 0 g).sum := by
  induction l with
  | nil => rfl
  | cons a rest ih => cases hf : f a <;> simp [hf, ih]

namespace TokenLedger

/-- The supply of a mint is what some accounts hold, if no others do. -/
theorem supply_eq_sum (t : TokenLedger) (mint : Address) {accounts : List Address}
    (hnodup : accounts.Nodup)
    (hall : ∀ account, t.balance mint account ≠ 0 → account ∈ accounts) :
    t.supply mint = (accounts.map fun account => (t.balance mint account).toNat).sum := by
  have hparts : ∀ b ∈ t.balances.records, (if b.mint = mint then b.amount.toNat else 0) ≠ 0 →
      b.account ∈ accounts := by
    intro b hb hcounts
    obtain ⟨rfl, hamount⟩ := ite_ne_right_iff.mp hcounts
    refine hall b.account fun hzero => hamount ?_
    have hfound : t.balances.find? (b.mint, b.account) = some b := Table.find?_key_of_mem hb
    rw [balance, hfound, Option.map_some, Option.getD_some] at hzero
    rw [hzero]
    rfl
  rw [supply, Table.total_by t.balances _ Balance.account hnodup hparts]
  refine congrArg List.sum (List.map_congr_left fun account _ => ?_)
  calc (t.balances.total fun b =>
        if b.account = account then (if b.mint = mint then b.amount.toNat else 0) else 0)
      = t.balances.total fun b =>
          if Keyed.key b = (mint, account) then b.amount.toNat else 0 := by
        refine Table.total_congr fun b _ => ?_
        simp only [Keyed.key, Prod.mk.injEq, ← ite_and]
        exact if_congr and_comm rfl rfl
    _ = (t.balances.find? (mint, account)).elim 0 fun b => b.amount.toNat := Table.total_at ..
    _ = (t.balance mint account).toNat := by
        unfold balance
        cases t.balances.find? (mint, account) <;> rfl

end TokenLedger

theorem Custody.mem_ofTarget {c : Custody} {target : Address} :
    c ∈ Custody.ofTarget target ↔
      ∃ side, c = .feeVault target side ∨ c = .poolFees target side := by
  constructor
  · intro hc
    simp only [ofTarget, List.mem_cons, List.not_mem_nil, or_false] at hc
    rcases hc with rfl | rfl | rfl | rfl
    · exact ⟨.a, Or.inl rfl⟩
    · exact ⟨.b, Or.inl rfl⟩
    · exact ⟨.a, Or.inr rfl⟩
    · exact ⟨.b, Or.inr rfl⟩
  · rintro ⟨side, rfl | rfl⟩
    · exact feeVault_mem_ofTarget target side
    · exact poolFees_mem_ofTarget target side

namespace Engine

/-- The accounts of all gauges and bribes. -/
def custodies (e : Engine) : List Custody :=
  e.registry.gauges.records.flatMap (fun g => Custody.ofTarget g.target) ++
    e.bribes.bribes.records.map fun b => .bribeVault b.id

variable {e : Engine}

theorem mem_custodies {c : Custody} :
    c ∈ e.custodies ↔
      (∃ target g, e.registry.gauges.find? target = some g ∧ c ∈ Custody.ofTarget target) ∨
        ∃ id b, e.bribes.bribes.find? id = some b ∧ c = .bribeVault id := by
  rw [custodies, List.mem_append, List.mem_flatMap, List.mem_map]
  refine or_congr ⟨?_, ?_⟩ ⟨?_, ?_⟩
  · rintro ⟨g, hg, hc⟩
    exact ⟨g.target, g, Table.find?_key_of_mem hg, hc⟩
  · rintro ⟨target, g, hgauge, hc⟩
    obtain rfl := Registry.target_of_find? hgauge
    exact ⟨g, Table.mem_of_find? hgauge, hc⟩
  · rintro ⟨b, hb, rfl⟩
    exact ⟨b.id, b, Table.find?_key_of_mem hb, rfl⟩
  · rintro ⟨id, b, hbribe, rfl⟩
    obtain rfl := BribeLedger.id_of_find? hbribe
    exact ⟨b, Table.mem_of_find? hbribe, rfl⟩

/-- What holds tokens for a gauge or a bribe is listed. -/
theorem Custodian.mem_custodies {account : Address} (h : e.Custodian account) :
    ∃ c ∈ e.custodies, c.address = account := by
  cases h with
  | @feeVault target g hgauge side =>
    obtain rfl := Registry.target_of_find? hgauge
    exact ⟨.feeVault g.target side, Engine.mem_custodies.mpr
      (Or.inl ⟨g.target, g, hgauge, Custody.feeVault_mem_ofTarget g.target side⟩), rfl⟩
  | @poolFees target g hgauge side =>
    obtain rfl := Registry.target_of_find? hgauge
    exact ⟨.poolFees g.target side, Engine.mem_custodies.mpr
      (Or.inl ⟨g.target, g, hgauge, Custody.poolFees_mem_ofTarget g.target side⟩), rfl⟩
  | @bribeVault id b hbribe =>
    obtain rfl := BribeLedger.id_of_find? hbribe
    exact ⟨.bribeVault b.id, Engine.mem_custodies.mpr (Or.inr ⟨b.id, b, hbribe, rfl⟩), rfl⟩

/-- No account is listed twice. -/
theorem nodup_custodies (e : Engine) : e.custodies.Nodup := by
  refine List.Nodup.append ?_ ?_ ?_
  · refine List.nodup_flatMap.mpr ⟨fun g _ => by simp [Custody.ofTarget], ?_⟩
    refine e.registry.gauges.nodup_records.pairwise_of_forall_ne fun g hg g' hg' hne c hc hc' => ?_
    have hsame : g.target = g'.target := by
      rw [Custody.mem_ofTarget] at hc hc'
      grind
    exact hne (Table.eq_of_key_eq hg hg' hsame)
  · exact e.bribes.bribes.nodup_records.map_on fun b hb b' hb' heq =>
      Table.eq_of_key_eq hb hb' (Custody.bribeVault.inj heq)
  · intro c hc hc'
    obtain ⟨g, -, hc⟩ := List.mem_flatMap.mp hc
    obtain ⟨b, -, rfl⟩ := List.mem_map.mp hc'
    obtain ⟨side, heq | heq⟩ := Custody.mem_ofTarget.mp hc <;> cases heq

end Engine

/-! ## What steps bring in -/

namespace Deployment

variable {d : Deployment}

theorem issuedIn_append (mint : Address) (first rest : List Operation) :
    d.issuedIn mint (first ++ rest) =
      d.issuedIn mint first + (d.afterAll first).issuedIn mint rest := by
  induction first generalizing d with
  | nil => exact (Nat.zero_add _).symm
  | cons operation others ih =>
    rw [List.cons_append, issuedIn, issuedIn, ih, afterAll_cons, Nat.add_assoc]

end Deployment

namespace Step

open Account (named)

/-- What a step that succeeds brings into being of a token: what is funded in it, and the fees
of gauges that earn in it. -/
def brings (mint : String) (d : Deployment) : Step → Nat
  | fund _ m amount => if m = mint then amount.toNat else 0
  | accrueFees gauge side amount =>
    if d.engine.registry.feeMint? (named gauge) side = some (named mint) then amount.toNat else 0
  | _ => 0

variable {step : Step} {d : Deployment} {operation : Operation} {foreman : Address} {mint : String}

/-- The accounts and mints that a step names are in the report. -/
theorem within (h : step.operation? foreman = some operation) :
    operation.Within (step.accounts.map named) (step.mints.map named) := by
  cases step with
  | createGauge _ mints enable =>
    cases enable <;> cases h <;> exact ⟨List.nil_subset _, List.Subset.refl _⟩
  | checkInvariants => cases h
  | lock =>
    cases h
    exact ⟨List.Subset.refl _, List.nil_subset _⟩
  | fund | createBribe =>
    cases h
    exact ⟨List.Subset.refl _, List.Subset.refl _⟩
  | _ =>
    cases h
    exact ⟨List.nil_subset _, List.nil_subset _⟩

theorem issued_eq (h : step.operation? foreman = some operation)
    (hnames : ∀ m ∈ step.mints, named m = named mint → m = mint) :
    d.issued (named mint) operation = step.brings mint d := by
  cases step with
  | createGauge _ _ enable => cases enable <;> cases h <;> rfl
  | checkInvariants => cases h
  | fund account m amount =>
    cases h
    exact if_congr ⟨hnames m List.mem_cons_self, fun heq => heq ▸ rfl⟩ rfl rfl
  | _ =>
    cases h
    rfl

/-- The mint in which a gauge has earned is still the mint of its fees. -/
theorem brings_afterAll {reply : Reply} (h : step.operation? foreman = some operation)
    (hdone : d.answer operation = .ok reply) (run : List Operation) :
    step.brings mint (d.afterAll run) = step.brings mint d := by
  cases step with
  | createGauge _ _ enable => cases enable <;> rfl
  | accrueFees gauge side amount =>
    cases h
    obtain ⟨g, hgauge, -⟩ := Deployment.accrued hdone
    have hmint := Registry.feeMint?_of_find? hgauge side
    rw [brings, brings, Deployment.feeMint?_afterAll run hmint, hmint]
  | _ => rfl

end Step

namespace Scenario

open Account (named)
open Deployment EpochVoting.Action

variable {s : Scenario} {entry : ScenarioStep} {steps : List ScenarioStep} {mint : String}
  {index : Nat} {d d' start : Deployment} {reports : List StepReport}

/-- What a step's operation brings into being is what the step does if it succeeds, also in view
of what comes later. -/
theorem issuedIn_step (d : Deployment) (epoch : Epoch) (run : List Operation)
    (hnames : ∀ m ∈ entry.step.mints, named m = named mint → m = mint) :
    d.issuedIn (named mint) (entry.step.operation? d.foreman).toList =
      if (entry.told index epoch (entry.attempt d).1).ok then
        entry.step.brings mint ((entry.attempt d).2.afterAll run)
      else 0 := by
  rw [entry.attempt_snd, ← afterAll_append]
  generalize (entry.step.operation? d.foreman).toList ++ run = done
  cases hoperation : entry.step.operation? d.foreman with
  | none =>
    have hnothing : entry.step.brings mint (d.afterAll done) = 0 := by
      cases hstep : entry.step with
      | checkInvariants => rfl
      | createGauge _ _ enable => rfl
      | _ =>
        rw [hstep] at hoperation
        cases hoperation
    rw [hnothing, ite_self]
    rfl
  | some operation =>
    have hissued : d.issuedIn (named mint) [operation] = d.issuedBy (named mint) operation :=
      Nat.add_zero _
    rw [Option.toList_some, hissued, issuedBy]
    cases hrun : entry.step.run.run d with
    | ok outcome d₁ =>
      obtain ⟨reply, hrun'⟩ := ok_of_effect (Step.effect_eq hoperation) hrun
      have hanswer := answer_of_run hrun'
      rw [hanswer, ScenarioStep.attempt_of_ok hrun,
        if_pos (ScenarioStep.ok_told.mpr ⟨outcome, rfl⟩)]
      exact (Step.issued_eq hoperation hnames).trans
        (Step.brings_afterAll hoperation hanswer done).symm
    | error cause d₁ =>
      -- The step is reported as failed, since its operation was refused.
      rw [answer_of_refused (error_of_effect (Step.effect_eq hoperation) hrun),
        ScenarioStep.attempt_of_error hrun]
      rfl

/-- What the operations of a replay bring into being is what its successful steps do. -/
theorem issuedIn_replay (hreplay : replaySteps index steps d = .ok (reports, d'))
    (hnames : ∀ entry ∈ steps, ∀ m ∈ entry.step.mints, named m = named mint → m = mint) :
    d.issuedIn (named mint) (operationsOf d.foreman steps) =
      ((steps.zip reports).map fun x => if x.2.ok then x.1.step.brings mint d' else 0).sum := by
  induction steps generalizing index d reports with
  | nil => rfl
  | cons entry rest ih =>
    obtain ⟨hfirst, hlater⟩ := List.forall_mem_cons.mp hnames
    obtain ⟨others, -, hrest, rfl⟩ := replaySteps_cons_eq_ok_iff.mp hreplay
    have hlast := replaySteps_afterAll hrest
    have hforeman : (entry.attempt d).2.foreman = d.foreman := by
      rw [entry.attempt_snd, foreman_afterAll]
    rw [operationsOf_cons, issuedIn_append, ← entry.attempt_snd, ← hforeman, ih hrest hlater,
      hforeman, List.zip_cons_cons, List.map_cons, List.sum_cons,
      issuedIn_step d _ (operationsOf (entry.attempt d).2.foreman rest) hfirst, ← hlast]

/-! ## Who holds tokens after a replay -/

/-- A scenario names no accounts and mints but those of its report. -/
theorem within_of_mem {foreman : Address} {operation : Operation}
    (h : operation ∈ operationsOf foreman s.steps) :
    operation.Within (s.accounts.map named) (s.mints.map named) := by
  obtain ⟨entry, hentry, hstep⟩ := mem_operationsOf.mp h
  obtain ⟨hpayees, hmints⟩ := Step.within hstep
  exact ⟨List.Subset.trans hpayees
      (List.map_subset _ fun _ hname => mem_accounts.mpr ⟨entry, hentry, hname⟩),
    List.Subset.trans hmints
      (List.map_subset _ fun _ hname => mem_mints.mpr ⟨entry, hentry, hname⟩)⟩

/-- The accounts of the gauges and bribes of a replay are those that its steps create. -/
theorem Distinct.inCustody (hdistinct : s.Distinct) {c : Config} (hdeploy : c.deploy = .ok start)
    {done : List Operation} (hdone : done <+: operationsOf start.foreman s.steps) :
    (start.afterAll done).InCustody {c | c ∈ custodiesOf s.steps} := by
  have hcustody := (hdistinct.segregated start.foreman).inCustody hdone
    (Config.deploy_eq_ok hdeploy).1
  rwa [custodies_operationsOf] at hcustody

section

variable (hdistinct : s.Distinct) {c : Config} (hdeploy : c.deploy = .ok start)
  (hreplay : replaySteps index s.steps start = .ok (reports, d))

include hdeploy hreplay

/-- Everything is held by the accounts in the report, by the vaults and by the pools, and in the
mints in the report. -/
theorem confined_replay : d.Confined (s.accounts.map named) (s.mints.map named) := by
  obtain ⟨hcreate, -⟩ := Config.deploy_eq_ok hdeploy
  rw [replaySteps_afterAll hreplay]
  exact (confined_create hcreate).afterAll (sound_afterAll hcreate []) fun _ => within_of_mem

include hdistinct

theorem custodies_subset : d.engine.custodies ⊆ custodiesOf s.steps := by
  have hguarded := (hdistinct.inCustody hdeploy (List.prefix_refl _)).guarded
  rw [← replaySteps_afterAll hreplay] at hguarded
  intro c hc
  rcases Engine.mem_custodies.mp hc with ⟨target, g, hgauge, hc⟩ | ⟨id, b, hbribe, rfl⟩
  · exact hguarded.gauges target g hgauge c hc
  · exact (hguarded.bribes id b hbribe).1

/-- The accounts that can hold tokens have different addresses. -/
theorem nodup_holders :
    (s.accounts.map named ++ d.engine.custodies.map Custody.address).Nodup := by
  have hsub := custodies_subset hdistinct hdeploy hreplay
  refine List.Nodup.append ?_ ?_ fun account haccount hheld => ?_
  · exact (nodup_sortedNames _).map_on hdistinct.accounts
  · exact d.engine.nodup_custodies.map_on fun c hc c' hc' =>
      hdistinct.custodies c (hsub hc) c' (hsub hc')
  · obtain ⟨name, hname, rfl⟩ := List.mem_map.mp haccount
    obtain ⟨c, hc, heq⟩ := List.mem_map.mp hheld
    exact hdistinct.apart name hname c (hsub hc) heq

/-- What the accounts in the report hold of a token, and what the vaults and the pools do, is what
the steps bring in. -/
theorem holdings_eq {mint : String} (hmint : mint ∈ s.mints) :
    (s.accounts.map fun a => (d.tokens.balance (named mint) (named a)).toNat).sum +
        (d.engine.custodies.map fun c => (d.tokens.balance (named mint) c.address).toNat).sum =
      ((s.steps.zip reports).map fun x => if x.2.ok then x.1.step.brings mint d else 0).sum := by
  have hconfined := confined_replay hdeploy hreplay
  -- These are all accounts that hold something.
  have hholders := d.tokens.supply_eq_sum (named mint) (nodup_holders hdistinct hdeploy hreplay)
    fun account hheld => by
      rcases (hconfined.balances (named mint) account hheld).2 with hnamed | hcustodian
      · exact List.mem_append_left _ hnamed
      · obtain ⟨c, hc, rfl⟩ := hcustodian.mem_custodies
        exact List.mem_append_right _ (List.mem_map_of_mem hc)
  rw [List.map_append, List.sum_append, List.map_map, List.map_map] at hholders
  -- Nothing was there at the start, so the supply is what the operations have issued.
  have hsupply : d.tokens.supply (named mint) =
      start.issuedIn (named mint) (operationsOf start.foreman s.steps) := by
    rw [replaySteps_afterAll hreplay, supply_afterAll,
      supply_create (Config.deploy_eq_ok hdeploy).1, Nat.zero_add]
  refine hholders.symm.trans (hsupply.trans (issuedIn_replay hreplay fun entry hentry m hm => ?_))
  exact hdistinct.mints m (mem_mints.mpr ⟨entry, hentry, hm⟩) mint hmint

end

end Scenario

/-! ## Reports -/

namespace Report

/-- What a report lists of a token, over all accounts. -/
def listed (r : Report) (mint : String) : Nat :=
  (r.balances.map fun entry =>
    (entry.2.map fun held => if held.1 = mint then held.2.toNat else 0).sum).sum

/-- The report lists an amount of a token for an account. -/
def Lists (r : Report) (account mint : String) (amount : UInt64) : Prop :=
  ∃ held, (account, held) ∈ r.balances ∧ (mint, amount) ∈ held

end Report

namespace Scenario

open Account (named)

variable {s : Scenario} {d : Deployment} {report : Report} {account mint : String}
  {amount : UInt64}

theorem lists_iff (h : report.balances = s.balances d) :
    report.Lists account mint amount ↔ account ∈ s.accounts ∧ mint ∈ s.mints ∧ amount ≠ 0 ∧
      d.tokens.balance (named mint) (named account) = amount := by
  rw [Report.Lists, h, balances]
  simp only [List.mem_map, Prod.mk.injEq]
  constructor
  · rintro ⟨held, ⟨a, ha, rfl, rfl⟩, hlisted⟩
    obtain ⟨m, hm, hsome⟩ := List.mem_filterMap.mp hlisted
    split at hsome
    · cases hsome
    · next hheld =>
      cases hsome
      exact ⟨ha, hm, hheld, rfl⟩
  · rintro ⟨ha, hm, hheld, rfl⟩
    exact ⟨_, ⟨account, ha, rfl, rfl⟩, List.mem_filterMap.mpr ⟨mint, hm, if_neg hheld⟩⟩

theorem listed_eq (h : report.balances = s.balances d) (hmint : mint ∈ s.mints) :
    report.listed mint =
      (s.accounts.map fun a => (d.tokens.balance (named mint) (named a)).toNat).sum := by
  rw [Report.listed, h, balances, List.map_map]
  refine congrArg List.sum (List.map_congr_left fun account _ => ?_)
  refine (sum_filterMap ..).trans ?_
  rw [← Table.sum_single (nodup_sortedNames _) hmint
    (d.tokens.balance (named mint) (named account)).toNat]
  refine congrArg List.sum (List.map_congr_left fun m _ => ?_)
  by_cases hm : mint = m
  · subst hm
    by_cases hzero : d.tokens.balance (named mint) (named account) = 0 <;> simp [hzero]
  · by_cases hzero : d.tokens.balance (named m) (named account) = 0 <;>
      simp [hzero, hm, Ne.symm hm]

/-- Where no addresses collide, a report accounts for every token: it tells of every step, and
what it lists of a mint, and what the vaults and the pools hold of it, add up to what was funded
and earned in it by the steps that succeeded.  Nobody else holds anything. -/
theorem report_accounts_for_tokens {c : Config} (hdistinct : s.Distinct)
    (hreport : s.simulate c = .ok report) :
    ∃ start last, c.deploy = .ok start ∧
      replaySteps 0 s.steps start = .ok (report.steps, last) ∧
      report.steps.length = s.steps.length ∧
      (∀ mint ∈ s.mints, report.listed mint +
          (last.engine.custodies.map fun c =>
            (last.tokens.balance (named mint) c.address).toNat).sum =
        ((s.steps.zip report.steps).map fun x =>
          if x.2.ok then x.1.step.brings mint last else 0).sum) ∧
      ∀ mint account, last.tokens.balance mint account ≠ 0 → ∃ m ∈ s.mints, named m = mint ∧
        ((∃ a, named a = account ∧ report.Lists a m (last.tokens.balance mint account)) ∨
          ∃ c ∈ last.engine.custodies, c.address = account) := by
  obtain ⟨start, last, reports, hdeploy, hreplay, -, rfl⟩ := simulate_eq_ok_iff.mp hreport
  refine ⟨start, last, hdeploy, hreplay, length_reports hreplay, fun mint hmint => ?_,
    fun mint account hheld => ?_⟩
  · rw [listed_eq rfl hmint]
    exact holdings_eq hdistinct hdeploy hreplay hmint
  · obtain ⟨hmint, haccount⟩ := (confined_replay hdeploy hreplay).balances mint account hheld
    obtain ⟨m, hm, rfl⟩ := List.mem_map.mp hmint
    refine ⟨m, hm, rfl, ?_⟩
    rcases haccount with hnamed | hcustodian
    · obtain ⟨a, ha, rfl⟩ := List.mem_map.mp hnamed
      exact Or.inl ⟨a, rfl, (lists_iff rfl).mpr ⟨ha, hm, hheld, rfl⟩⟩
    · exact Or.inr hcustodian.mem_custodies

namespace Sample

/-- All steps but the third succeed.  They bring ninety units into being, of which thirty end up
in the vaults and the pools. -/
theorem simulate_fees : ∃ report start last, fees.simulate Config.default = .ok report ∧
    Config.default.deploy = .ok start ∧
    replaySteps 0 fees.steps start = .ok (report.steps, last) ∧
    report.steps.map StepReport.ok = [true, true, false, true, true] ∧
    (last.engine.custodies.map fun c =>
      (last.tokens.balance (named "usdc") c.address).toNat).sum = 30 ∧
    ((fees.steps.zip report.steps).map fun x =>
      if x.2.ok then x.1.step.brings "usdc" last else 0).sum = 90 := by
  have htold : (Config.default.deploy.toOption.any fun start =>
      (replaySteps 0 fees.steps start).toOption.any fun ended =>
        ended.2.audit.toOption.isSome &&
          decide (ended.1.map StepReport.ok = [true, true, false, true, true] ∧
            (ended.2.engine.custodies.map fun c =>
              (ended.2.tokens.balance (named "usdc") c.address).toNat).sum = 30 ∧
            ((fees.steps.zip ended.1).map fun x =>
              if x.2.ok then x.1.step.brings "usdc" ended.2 else 0).sum = 90)) = true := by
    decide +kernel
  simp only [Option.any_eq_true, toOption_eq_some_iff, Prod.exists, Bool.and_eq_true,
    Option.isSome_iff_exists, decide_eq_true_eq] at htold
  obtain ⟨start, hdeploy, reports, last, hreplay, ⟨_, haudit⟩, htold⟩ := htold
  exact ⟨_, start, last, simulate_eq_ok_iff.mpr ⟨start, last, reports, hdeploy, hreplay, haudit,
    rfl⟩, hdeploy, hreplay, htold⟩

end Sample

/-- Sixty of the tokens were funded and are listed, and thirty were earned and captured into a
vault. -/
theorem report_accounts_for_fees :
    ∃ report start last, Sample.fees.simulate Config.default = .ok report ∧
      replaySteps 0 Sample.fees.steps start = .ok (report.steps, last) ∧
      report.steps.length = 5 ∧ report.listed "usdc" = 60 ∧
      (last.engine.custodies.map fun c =>
        (last.tokens.balance (named "usdc") c.address).toNat).sum = 30 ∧
      ∀ mint ∈ Sample.fees.mints, report.listed mint +
          (last.engine.custodies.map fun c =>
            (last.tokens.balance (named mint) c.address).toNat).sum =
        ((Sample.fees.steps.zip report.steps).map fun x =>
          if x.2.ok then x.1.step.brings mint last else 0).sum := by
  obtain ⟨report, start, last, hreport, hdeploy, hreplay, -, hheld, hbrought⟩ :=
    Sample.simulate_fees
  obtain ⟨start', last', hdeploy', hreplay', hlength, hholdings, -⟩ :=
    report_accounts_for_tokens Sample.distinct_fees hreport
  cases hdeploy.symm.trans hdeploy'
  cases hreplay.symm.trans hreplay'
  have hmint : "usdc" ∈ Sample.fees.mints := mem_mints.mpr
    ⟨⟨.fund "bob" "usdc" 60, none⟩, List.mem_cons_of_mem _ List.mem_cons_self, List.mem_cons_self⟩
  have hlisted := hholdings "usdc" hmint
  rw [hheld, hbrought] at hlisted
  exact ⟨report, start, last, hreport, hreplay, hlength, Nat.add_right_cancel hlisted, hheld,
    hholdings⟩

end Scenario
end EpochVoting
