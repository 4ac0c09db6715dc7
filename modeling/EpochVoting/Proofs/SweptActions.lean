import EpochVoting.Proofs.FeeFlags
import EpochVoting.Proofs.SweptCalls

/-!
# Operations on swept deployments

Two deployments that are the same but that the engine of one was swept go on alike: every
operation other than closing and cleaning has the same answer or the same error on both,
moves the same tokens and tells the sink the same share.  The one exception is a claim of
fees of a gauge whose unvoted record was cleaned: it is refused without the record, and has
nothing to pay with it (`Deployment.Swept.perform`).
-/

namespace EpochVoting

open EpochVoting.Action

variable {K : Address → Epoch → Prop}

namespace Action

variable {α β : Type} {R : Deployment → Deployment → Prop} {d d' : Deployment}

theorem run_passes_bind {x : Except VotingError α} {a : α} (h : x = .ok a) (f : α → Action β)
    (d : Deployment) : (liftM x >>= f : Action β).run d = (f a).run d := by
  subst h
  rfl

theorem run_fails_bind {x : Except VotingError α} {error : VotingError} (h : x = .error error)
    (f : α → Action β) (d : Deployment) : (liftM x >>= f : Action β).run d = .error error d := by
  subst h
  rfl

theorem run_map_of_ok {x : Action α} {f : α → β} {a : α} (h : x.run d = .ok a d') :
    (f <$> x).run d = .ok (f a) d' :=
  run_map_eq_ok_iff.mpr ⟨a, h, rfl⟩

theorem run_map_of_error {x : Action α} {f : α → β} {error : VotingError}
    (h : x.run d = .error error d') : (f <$> x).run d = .error error d' := by
  rw [map_eq_pure_bind, EStateM.run_bind, h]

end Action

/-- The operation closes or cleans records of elapsed epochs. -/
def Operation.isSweep : Operation → Bool
  | .close .. | .cleanEpochGauge .. => true
  | _ => false

namespace Deployment

variable {α β : Type} {d d' : Deployment} {authority voter target mint : Address} {epoch : Epoch}

/-! ## Claims of fees that nobody can have -/

section

variable {lock : Lock} {g : Gauge} {r : EpochGauge} {u : Unit} {side : FeeSide}

/-- Without the gauge's record of the epoch a claim of fees is refused. -/
theorem run_claimFee_unrecorded (hlock : d.escrow.requireDelegate authority voter = .ok lock)
    (helapsed : d.engine.factory.requireElapsed epoch = .ok u)
    (hgauge : d.engine.registry.get target = .ok g)
    (hnone : d.engine.commitments.epochGauge? target epoch = none) :
    (claimFee authority voter target epoch side).run d =
      .error (.epochGaugeNotFound target epoch) d := by
  have hrefused : d.engine.commitments.epochGauge target epoch =
      .error (.epochGaugeNotFound target epoch) :=
    demand_eq_error_iff.mpr ⟨hnone, rfl⟩
  unfold claimFee
  rw [run_get_bind, run_passes_bind hlock, run_passes_bind helapsed, run_passes_bind hgauge,
    run_fails_bind hrefused]

/-- If nobody voted for the gauge, a claim of fees pays nothing, or is refused for want of a
snapshot. -/
theorem run_claimFee_unvoted (hlock : d.escrow.requireDelegate authority voter = .ok lock)
    (helapsed : d.engine.factory.requireElapsed epoch = .ok u)
    (hgauge : d.engine.registry.get target = .ok g)
    (hrecord : d.engine.commitments.epochGauge? target epoch = some r) (hzero : r.totalPower = 0)
    (hflags : d.engine.commitments.FlagsSound d.engine.currentEpoch) :
    (claimFee authority voter target epoch side).run d = .ok 0 d ∨
      (claimFee authority voter target epoch side).run d =
        .error (.epochVoterNotFound voter epoch) d := by
  unfold claimFee
  rw [run_get_bind, run_passes_bind hlock, run_passes_bind helapsed, run_passes_bind hgauge,
    run_passes_bind (Commitments.epochGauge_eq_ok_iff.mpr hrecord)]
  cases hs : d.engine.commitments.snapshot? voter epoch with
  | none =>
    have hrefused : d.engine.commitments.snapshot voter epoch =
        .error (.epochVoterNotFound voter epoch) :=
      demand_eq_error_iff.mpr ⟨hs, rfl⟩
    exact Or.inr (by rw [run_fails_bind hrefused])
  | some s =>
    have hnew : s.feeClaimed g.target side = false := by
      rw [Registry.target_of_find? (Registry.get_eq_ok_iff.mp hgauge)]
      refine Bool.eq_false_iff.mpr fun hclaimed => ?_
      -- A flag would mean that the gauge has power.
      obtain ⟨-, hpower, -⟩ := hflags s (Table.mem_of_find? hs) target side hclaimed
      obtain ⟨-, hepoch⟩ := Commitments.key_of_snapshot? hs
      rw [hepoch] at hpower
      apply hpower
      rw [Commitments.power_of_epochGauge? hrecord, hzero]
      rfl
    have hcompute (allocation : Option UInt64) :
        FeeClaim.compute g r s allocation side = .ok none :=
      FeeClaim.compute_eq_ok_none_iff.mpr ⟨hnew, hzero⟩
    refine Or.inl ?_
    rw [run_passes_bind (Commitments.snapshot_eq_ok_iff.mpr hs), run_passes_bind (hcompute _)]
    rfl

end

/-- The same surroundings, and engines of which one is the other one, swept. -/
inductive Swept (K : Address → Epoch → Prop) (d : Deployment) : Deployment → Prop
  | of {engine} (h : d.engine.Swept K engine) : Swept K d { d with engine }

namespace Swept

theorem mono {K' : Address → Epoch → Prop} (h : d.Swept K d')
    (hK : ∀ gauge epoch, K gauge epoch → K' gauge epoch) : d.Swept K' d' := by
  obtain ⟨he⟩ := h
  exact .of (he.mono hK)

theorem tokens_eq (h : d.Swept K d') : d.tokens = d'.tokens := by
  obtain ⟨-⟩ := h
  rfl

theorem sink_eq (h : d.Swept K d') : d.sink = d'.sink := by
  obtain ⟨-⟩ := h
  rfl

theorem beside (h : d.Swept K d') : d.Beside (Engine.Swept K) d' := by
  obtain ⟨he⟩ := h
  exact .of he

theorem of_beside (h : d.Beside (Engine.Swept K) d') : d.Swept K d' := by
  obtain ⟨he⟩ := h
  exact .of he

theorem onEngine {call : Deployment → Except VotingError (α × Engine)} (h : d.Swept K d')
    (hcall : Agree (Engine.AnswersSwept K) (call d) (call d')) :
    Alike (Swept K) (onEngine call) (onEngine call) d d' :=
  (h.beside.onEngine hcall).mono fun _ _ => of_beside

theorem changeEngine {call : Deployment → Except VotingError Engine} (h : d.Swept K d')
    (hcall : Agree (Engine.Swept K) (call d) (call d')) :
    Alike (Swept K) (changeEngine call) (changeEngine call) d d' :=
  (h.beside.changeEngine hcall).mono fun _ _ => of_beside

/-! ## Tokens and shares -/

theorem requireBalance (h : d.Swept K d') (mint account : Address) (needed : UInt64) :
    Alike (Swept K) (requireBalance mint account needed) (requireBalance mint account needed)
      d d' :=
  (h.beside.requireBalance mint account needed).mono fun _ _ => of_beside

theorem transfer (h : d.Swept K d') (mint source target : Address) (amount : UInt64) :
    Alike (Swept K) (transfer mint source target amount) (transfer mint source target amount)
      d d' :=
  (h.beside.transfer mint source target amount).mono fun _ _ => of_beside

theorem pushShare (h : d.Swept K d') (target : Address) (share : UInt64) :
    Alike (Swept K) (pushShare target share) (pushShare target share) d d' :=
  (h.beside.pushShare target share).mono fun _ _ => of_beside

theorem payDue_bind {p : Payment} {next next' : Action β} (h : d.Swept K d')
    (hnext : ∀ tokens, Swept K { d with tokens } { d' with tokens } →
      Alike (Swept K) next next' { d with tokens } { d' with tokens }) :
    Alike (Swept K)
      (if 0 < p.amount then Action.pay p.mint p.source p.target p.amount >>= fun _ => next
        else next)
      (if 0 < p.amount then Action.pay p.mint p.source p.target p.amount >>= fun _ => next'
        else next') d d' :=
  (h.beside.payDue_bind fun tokens hR => (hnext tokens (of_beside hR)).mono
    fun _ _ => beside).mono fun _ _ => of_beside

/-! ## Captures -/

theorem captureSide (h : d.Swept K d') {g g' : Gauge} (hg : g.SameButPruned g') (side : FeeSide)
    (amount : UInt64) :
    Alike (Swept K) (captureSide g side amount) (captureSide g' side amount) d d' := by
  have hsame : Deployment.captureSide g' side amount = Deployment.captureSide g side amount := by
    have hmint := hg.mint_eq side
    obtain ⟨p, rfl⟩ := hg
    unfold Deployment.captureSide
    rw [hmint]
    rfl
  rw [hsame]
  exact (h.beside.captureSide g side amount).mono fun _ _ => of_beside

theorem ensureEpochGauge (h : d.Swept K d') (target : Address) (epoch : Epoch) :
    Alike (Swept K) (ensureEpochGauge target epoch) (ensureEpochGauge target epoch) d d' := by
  obtain @⟨e', @⟨registry, commitments, hr, hc⟩⟩ := h
  have hboth : d.Swept K { d with engine := { d.engine with registry, commitments } } :=
    .of (.of hr hc)
  refine alike_get_bind (alike_check_bind _ hboth fun _ hlive =>
    alike_lift_bind (hr.get target) hboth fun g g' hg _ _ => ?_)
  obtain ⟨p, rfl⟩ := id hg
  obtain rfl : epoch = d.engine.currentEpoch := Factory.requireLive_eq_ok_iff.mp hlive
  refine alike_check_bind g.requireEnabled hboth fun _ _ => ?_
  show Alike _ _
    (if (commitments.epochGauge? target d.engine.currentEpoch).isSome then _ else _) _ _
  rw [hc.current.epochGauge?_eq]
  split
  · exact alike_pure false hboth
  · rw [hg.compute_eq]
    refine alike_check_bind _ hboth fun capture _ => ?_
    rw [moveCaptured_bind, moveCaptured_bind, hg.mint_eq, hg.mint_eq]
    refine (hboth.requireBalance ..).bind fun _ d₁ _ hhas _ h₁ => (h₁.requireBalance ..).bind
      fun _ d₂ _ hhas' _ h₂ => (h₂.captureSide hg .a _).bind fun _ d₃ _ hpaid _ h₃ =>
      (h₃.captureSide hg .b _).bind fun _ d₄ _ hpaid' _ h₄ => ?_
    -- Up to here tokens moved, but no record was written.
    obtain ⟨-, rfl⟩ := run_requireBalance_eq_ok_iff.mp hhas
    obtain ⟨-, rfl⟩ := run_requireBalance_eq_ok_iff.mp hhas'
    obtain ⟨tokens, -, rfl⟩ := run_captureSide_eq_ok_iff.mp hpaid
    obtain ⟨tokens', -, rfl⟩ := run_captureSide_eq_ok_iff.mp hpaid'
    refine (h₄.changeEngine ?_).bind fun _ _ _ _ _ hR => alike_pure true hR
    obtain ⟨⟨hr, hc⟩⟩ := h₄
    exact (hr.update target fun _ _ hg => hg.capture capture).bind fun _ _ hr =>
      .ok (.of hr (hc.createEpochGauge target capture.accrued))

/-! ## Fees -/

theorem claimFee (h : d.Swept K d') (authority voter target : Address) (epoch : Epoch)
    (side : FeeSide)
    (hfound : Option.Rel EpochGauge.SameButClosed (d.engine.commitments.epochGauge? target epoch)
      (d'.engine.commitments.epochGauge? target epoch)) :
    Alike (Swept K) (claimFee authority voter target epoch side)
      (claimFee authority voter target epoch side) d d' := by
  have hboth := h
  obtain @⟨e', @⟨registry, commitments, hr, hc⟩⟩ := h
  refine alike_get_bind (alike_check_bind _ hboth fun lock hlock => alike_check_bind _ hboth
    fun _ helapsed => alike_lift_bind (hr.get target) hboth fun g g' hg hgauge hgauge' =>
    alike_lift_bind (agree_demand hfound _) hboth fun r r' hrecord _ _ =>
    alike_lift_bind (agree_demand (hc.snapshots voter epoch) _) hboth
    fun s s' hs hsnapshot hsnapshot' => ?_)
  rw [Factory.requireElapsed_eq_ok_iff] at helapsed
  rw [Registry.get_eq_ok_iff] at hgauge hgauge'
  rw [Commitments.snapshot_eq_ok_iff] at hsnapshot hsnapshot'
  show Alike _ _ (liftM (FeeClaim.compute g' r' s'
    (commitments.allocation? voter target epoch) side) >>= _) _ _
  rw [FeeClaim.compute_eq hg hrecord hs, hc.allocation]
  refine alike_check_bind _ hboth fun claim? hclaim => ?_
  cases claim? with
  | none => exact alike_pure 0 hboth
  | some claim =>
    have hmint := hg.mint_eq side
    have hvault : g'.feeVault side = g.feeVault side := by
      obtain ⟨p, rfl⟩ := hg
      rfl
    simp only [hmint, hvault]
    refine hboth.payDue_bind (p := ⟨(g.fee side).mint, g.feeVault side, lock.owner, claim.share⟩)
      fun tokens hpaid => (hpaid.changeEngine ?_).bind fun _ _ _ _ _ hR => alike_pure _ hR
    obtain ⟨rfl, rfl⟩ := Commitments.key_of_snapshot? hsnapshot
    refine agree_of_ok (feeClaimRecords_eq hgauge hsnapshot)
      (feeClaimRecords_eq hgauge' hsnapshot') ?_
    exact Engine.Swept.recordFeeClaim (.of hr hc) hg helapsed hsnapshot hsnapshot' hs claim

/-- The operation claims fees of a gauge whose record was cleaned: it is refused for want of
the record, and where the record was not cleaned it has nothing to pay. -/
structure ClaimsCleaned (K : Address → Epoch → Prop) (d d' : Deployment) (voter target : Address)
    (epoch : Epoch) (claim : Operation) : Prop where
  cleaned : K target epoch
  unvoted : d'.engine.totalPower target epoch = 0
  refused : (Deployment.perform claim).run d = .error (.epochGaugeNotFound target epoch) d
  nothing : (Deployment.perform claim).run d' = .ok (.amount 0) d' ∨
    (Deployment.perform claim).run d' = .error (.epochVoterNotFound voter epoch) d'

theorem claimFee_or_cleaned (h : d.Swept K d')
    (hflags : d'.engine.commitments.FlagsSound d'.engine.currentEpoch)
    (authority : Option Address) (voter target : Address) (epoch : Epoch) (side : FeeSide) :
    Alike (Swept K) (Deployment.perform (.claimFee authority voter target epoch side))
        (Deployment.perform (.claimFee authority voter target epoch side)) d d' ∨
      ClaimsCleaned K d d' voter target epoch (.claimFee authority voter target epoch side) := by
  have hboth := h
  obtain @⟨e', @⟨registry, commitments, hr, hc⟩⟩ := h
  rcases hc.gauges target epoch with hfound | ⟨hnone, hcleaned, r, hrecord, hzero⟩
  · exact Or.inl (Alike.map (alike_get_bind (hboth.claimFee _ voter target epoch side hfound)) _)
  refine or_iff_not_imp_right.mpr fun hnot => Alike.map (alike_get_bind (alike_get_bind
    (alike_check_bind _ hboth fun lock hlock => alike_check_bind _ hboth fun _ helapsed =>
    alike_lift_bind (hr.get target) hboth fun g g' hg hgauge hgauge' => absurd ?_ hnot))) _
  -- Both get as far as asking for the gauge's record.
  refine ⟨hcleaned, ?_, ?_, ?_⟩
  · show ((commitments.epochGauge? target epoch).map EpochGauge.totalPower).getD 0 = 0
    rw [hrecord]
    exact hzero
  · exact run_map_of_error (run_claimFee_unrecorded hlock helapsed hgauge hnone)
  · exact (run_claimFee_unvoted
      (d := { d with engine := { d.engine with registry, commitments } }) hlock helapsed hgauge'
      hrecord hzero hflags).imp run_map_of_ok run_map_of_error

/-! ## Bribes -/

/-- Sweeping does not matter to bribes. -/
theorem bribeBlind (K : Address → Epoch → Prop) : Engine.BribeBlind (Engine.Swept K) where
  same {e e'} he := by
    have hpower := he.totalPower_eq
    obtain ⟨hr, hc⟩ := he
    exact {
      factory := rfl
      bribes := rfl
      registered := fun target => (hr.get target).mono fun _ _ _ => trivial
      totalPower := fun gauge epoch _ => hpower gauge epoch
      allocation := fun voter gauge epoch _ => hc.allocation voter gauge epoch }
  write bribes he := by
    obtain ⟨hr, hc⟩ := he
    exact .of hr hc
  create {e e'} factory bribes he hepoch := by
    obtain @⟨registry, commitments, hr, hc⟩ := he
    have hc' : Commitments.Swept K factory.currentEpoch e.commitments commitments := hepoch ▸ hc
    exact .of hr hc'

theorem createBribe (h : d.Swept K d') (briber gauge mint : Address) (reward : UInt64)
    (epochEnd : Epoch) :
    Alike (Swept K) (createBribe briber gauge mint reward epochEnd)
      (createBribe briber gauge mint reward epochEnd) d d' :=
  (h.beside.createBribe (bribeBlind K) ..).mono fun _ _ => of_beside

theorem claimBribe (h : d.Swept K d') (authority voter : Address) (id : UInt64) (epoch : Epoch) :
    Alike (Swept K) (claimBribe authority voter id epoch) (claimBribe authority voter id epoch)
      d d' :=
  (h.beside.claimBribe (bribeBlind K) ..).mono fun _ _ => of_beside

theorem clawBackBribe (h : d.Swept K d') (authority : Address) (id : UInt64) (epoch : Epoch) :
    Alike (Swept K) (clawBackBribe authority id epoch) (clawBackBribe authority id epoch) d d' :=
  (h.beside.clawBackBribe (bribeBlind K) ..).mono fun _ _ => of_beside

/-! ## Shares -/

theorem syncGauge (h : d.Swept K d') (target : Address) :
    Alike (Swept K) (syncGauge target) (syncGauge target) d d' := by
  have hboth := h
  obtain @⟨e', he⟩ := h
  have hshare := he.rewardShare_eq target
  obtain ⟨hr, hc⟩ := he
  refine alike_get_bind (alike_lift_bind (hr.get target) hboth fun g g' hg _ _ => ?_)
  obtain ⟨p, rfl⟩ := hg
  refine alike_check_bind g.requireEnabled hboth fun _ _ => ?_
  rw [hshare]
  exact (hboth.pushShare ..).bind fun _ _ _ _ _ hR => alike_pure _ hR

theorem syncDisabledGauge (h : d.Swept K d') (target : Address) :
    Alike (Swept K) (syncDisabledGauge target) (syncDisabledGauge target) d d' := by
  have hboth := h
  obtain @⟨e', ⟨hr, hc⟩⟩ := h
  refine alike_get_bind (alike_lift_bind (hr.get target) hboth fun g g' hg _ _ => ?_)
  obtain ⟨p, rfl⟩ := hg
  exact alike_check_bind (require (!g.enabled) _) hboth fun _ _ => hboth.pushShare target 0

/-! ## Around the engine -/

theorem accruePool (h : d.Swept K d') (target : Address) (side : FeeSide) (mint : Address)
    (amount : UInt64) :
    Alike (Swept K) (accruePool target side mint amount) (accruePool target side mint amount)
      d d' :=
  (h.beside.accruePool ..).mono fun _ _ => of_beside

theorem accrueFees (h : d.Swept K d') (gauge : Address) (side : FeeSide) (amount : UInt64) :
    Alike (Swept K) (accrueFees gauge side amount) (accrueFees gauge side amount) d d' := by
  have hboth := h
  obtain @⟨e', ⟨hr, hc⟩⟩ := h
  refine alike_get_bind (alike_lift_bind (hr.get gauge) hboth fun g g' hg _ _ => ?_)
  rw [hg.mint_eq]
  exact hboth.accruePool ..

theorem fund (h : d.Swept K d') (mint account : Address) (amount : UInt64) :
    Alike (Swept K) (fund mint account amount) (fund mint account amount) d d' :=
  (h.beside.fund ..).mono fun _ _ => of_beside

theorem passTimeUntil (h : d.Swept K d') (time : Timestamp) :
    Alike (Swept K) (passTimeUntil time) (passTimeUntil time) d d' :=
  (h.beside.passTimeUntil time).mono fun _ _ => of_beside

/-! ## Several calls at once -/

theorem takeSnapshot (h : d.Swept K d') (voter : Address) :
    Alike (Swept K) (takeSnapshot voter) (takeSnapshot voter) d d' := by
  refine h.onEngine ?_
  obtain ⟨he⟩ := h
  exact he.takeSnapshot d.escrow d.now voter

theorem commit (h : d.Swept K d') (voter gauge : Address) :
    Alike (Swept K) (commit voter gauge) (commit voter gauge) d d' := by
  refine h.onEngine ?_
  obtain ⟨he⟩ := h
  exact he.commit voter gauge

theorem createGauge (h : d.Swept K d') (target : Address) (mints : PerSide Address) :
    Alike (Swept K) (createGauge target mints) (createGauge target mints) d d' := by
  refine h.changeEngine ?_
  obtain ⟨he⟩ := h
  exact he.createGauge target mints _

theorem setGaugeEnabled (h : d.Swept K d') (authority : Option Address) (target : Address)
    (enabled : Bool) :
    Alike (Swept K) (setGaugeEnabled authority target enabled)
      (setGaugeEnabled authority target enabled) d d' := by
  refine h.onEngine ?_
  obtain ⟨he⟩ := h
  exact he.setGaugeEnabled _ target enabled

theorem commitAll (h : d.Swept K d') (voter : Address) (allocated : UInt64)
    (gauges : List Address) :
    Alike (Swept K) (commitAll voter allocated gauges) (commitAll voter allocated gauges) d d' := by
  induction gauges generalizing allocated d d' with
  | nil => exact alike_pure allocated h
  | cons gauge rest ih =>
    refine Alike.bind ?_ fun _ d₁ d₁' _ _ h₁ => (h₁.commit voter gauge).bind
      fun outcome d₂ d₂' _ _ h₂ => ?_
    · obtain @⟨_, ⟨hr, hc⟩⟩ := h
      exact alike_get_bind (ensureEpochGauge (.of (.of hr hc)) gauge d.engine.currentEpoch)
    · cases outcome with
      | nothingToCommit => exact ih h₂ allocated
      | committed power => exact alike_check_bind _ h₂ fun total _ => ih h₂ total

/-! ## All operations -/

/-- An operation other than closing and cleaning goes alike on both, or it claims fees of a
gauge whose unvoted record was cleaned. -/
theorem perform {operation : Operation} (h : d.Swept K d')
    (hflags : d'.engine.commitments.FlagsSound d'.engine.currentEpoch)
    (hkept : operation.isSweep = false) :
    Alike (Swept K) (perform operation) (perform operation) d d' ∨
      ∃ authority voter target epoch side, operation = .claimFee authority voter target epoch side ∧
        ClaimsCleaned K d d' voter target epoch operation := by
  have hboth := h
  obtain @⟨e', he⟩ := h
  cases operation with
  | close => cases hkept
  | cleanEpochGauge => cases hkept
  | claimFee authority voter target epoch side =>
    exact (hboth.claimFee_or_cleaned hflags authority voter target epoch side).imp_right
      fun hcleaned => ⟨authority, voter, target, epoch, side, rfl, hcleaned⟩
  | advanceEpoch now => exact Or.inl ((hboth.onEngine (he.advanceEpoch _)).map _)
  | setForeman authority newForeman =>
    exact Or.inl ((hboth.changeEngine (he.setForeman ..)).bind fun _ _ _ _ _ => alike_pure _)
  | setEpochDuration authority secs =>
    exact Or.inl ((hboth.changeEngine (he.setEpochDuration ..)).bind fun _ _ _ _ _ => alike_pure _)
  | createGauge target mints =>
    exact Or.inl ((hboth.createGauge target mints).bind fun _ _ _ _ _ => alike_pure _)
  | setGaugeEnabled authority target enabled =>
    exact Or.inl ((hboth.setGaugeEnabled authority target enabled).map _)
  | setVote authority voter target weight =>
    exact Or.inl ((hboth.onEngine (he.setVote ..)).map _)
  | takeSnapshot voter => exact Or.inl ((hboth.takeSnapshot voter).map _)
  | resetSnapshot voter =>
    exact Or.inl ((hboth.changeEngine (he.resetSnapshot ..)).bind fun _ _ _ _ _ => alike_pure _)
  | ensureEpochGauge target epoch =>
    obtain ⟨hr, hc⟩ := he
    exact Or.inl (alike_get_bind ((hboth.ensureEpochGauge target _).map _))
  | commit voter target => exact Or.inl ((hboth.commit voter target).map _)
  | revert authority voter target epoch =>
    obtain ⟨hr, hc⟩ := he
    exact Or.inl ((hboth.onEngine (Engine.Swept.revert (.of hr hc) ..)).map _)
  | syncGauge target => exact Or.inl ((hboth.syncGauge target).map _)
  | syncDisabledGauge target =>
    exact Or.inl ((hboth.syncDisabledGauge target).bind fun _ _ _ _ _ => alike_pure _)
  | createBribe briber target mint reward epochEnd =>
    exact Or.inl ((hboth.createBribe briber target mint reward epochEnd).map _)
  | claimBribe authority voter id epoch =>
    exact Or.inl (Alike.map (alike_get_bind (hboth.claimBribe _ voter id epoch)) _)
  | clawBackBribe briber id epoch => exact Or.inl ((hboth.clawBackBribe briber id epoch).map _)
  | nextEpoch =>
    obtain ⟨hr, hc⟩ := he
    have hwait := hboth.passTimeUntil d.engine.factory.nextEpochStartsAt
    refine Or.inl (Alike.map (alike_get_bind (hwait.bind fun _ d₁ _ _ _ h₁ => ?_)) _)
    obtain ⟨he⟩ := h₁
    exact onEngine (.of he) (he.advanceEpoch d₁.now)
  | addGauge target mints =>
    refine Or.inl (Alike.bind ?_ fun _ _ _ _ _ => alike_pure _)
    exact (hboth.createGauge target mints).bind fun _ _ _ _ _ h₁ =>
      (h₁.setGaugeEnabled none target true).bind fun _ _ _ _ _ => alike_pure _
  | voteEpoch voter gauges =>
    exact Or.inl (((hboth.takeSnapshot voter).bind fun _ _ _ _ _ h₁ =>
      h₁.commitAll voter 0 gauges).map _)
  | passTime | passTimeUntil | setTime | lock | unlock | setDelegate | setOwner | setRejecting
  | setPoolTotal => exact Or.inl (.ok rfl rfl (.of he))
  | accrueFees target side amount =>
    exact Or.inl ((hboth.accrueFees target side amount).bind fun _ _ _ _ _ => alike_pure _)
  | accruePool target side mint amount =>
    exact Or.inl ((hboth.accruePool target side mint amount).bind fun _ _ _ _ _ => alike_pure _)
  | fund mint account amount =>
    exact Or.inl ((hboth.fund mint account amount).bind fun _ _ _ _ _ => alike_pure _)
  | transfer mint source target amount =>
    exact Or.inl ((hboth.transfer mint source target amount).bind fun _ _ _ _ _ => alike_pure _)

end Swept
end Deployment
end EpochVoting
