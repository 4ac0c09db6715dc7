import EpochVoting.Proofs.CallPayments
import EpochVoting.Proofs.Claims

/-!
# Guarded calls

Most calls are open to everyone.  The others are bound to an account: the foreman, the owner
or the delegate of a voter's lock, or the briber (`Operation.caller?`).  For every record
that such a call guards this file says which steps can change it, by whom they are made and,
if they pay, to whom.
-/

namespace EpochVoting

/-- The account that makes a call which not everyone may make. -/
def Operation.caller? (d : Deployment) : Operation → Option Address
  | .setForeman authority _ | .setEpochDuration authority _ => some authority
  | .setGaugeEnabled authority _ _ => some (authority.getD d.foreman)
  | .addGauge _ _ => some d.foreman
  | .setVote authority voter _ _ | .revert authority voter _ _ | .close authority voter _ _
  | .claimFee authority voter _ _ _ | .claimBribe authority voter _ _ =>
    some (authority.getD (d.escrow.delegateOf voter))
  | .createBribe briber _ _ _ _ | .clawBackBribe briber _ _ => some briber
  | _ => none

theorem Operation.eq_claim {operation : Operation} {voter : Address} {pot : Pot}
    (h : operation.claim? = some (voter, pot)) :
    ∃ authority, operation = pot.claim authority voter := by
  cases operation with
  | claimFee authority | claimBribe authority =>
    cases h
    exact ⟨authority, rfl⟩
  | _ => cases h

/-- The voter's totals and weights are the same in both books. -/
def WeightBook.SameOf (voter : Address) (b b' : WeightBook) : Prop :=
  b'.books.find? voter = b.books.find? voter ∧
    ∀ gauge, b'.weights.find? (voter, gauge) = b.weights.find? (voter, gauge)

theorem Operation.basic_of_clawback {operation : Operation} {id : UInt64} {epoch : Epoch}
    (h : operation.clawback? = some (id, epoch)) : operation.isBasic = true := by
  cases operation with
  | nextEpoch | addGauge | voteEpoch => cases h
  | _ => rfl

namespace Registry

variable {r : Registry} {g : Gauge} {target : Address}

/-- Whether a gauge is registered and enabled. -/
def isEnabled (r : Registry) (target : Address) : Bool :=
  ((r.gauges.find? target).map Gauge.enabled).getD false

theorem isEnabled_eq_true_iff :
    r.isEnabled target = true ↔ ∃ g, r.gauges.find? target = some g ∧ g.enabled = true := by
  cases hgauge : r.gauges.find? target <;> simp [isEnabled, hgauge]

theorem isEnabled_put (r : Registry) (g : Gauge) (target : Address) :
    (r.put g).isEnabled target = if g.target = target then g.enabled else r.isEnabled target := by
  unfold isEnabled
  rw [find?_put]
  split <;> rfl

/-- A gauge put in the place of one that is just as enabled. -/
theorem isEnabled_put_same (g' : Gauge) (hgauge : r.gauges.find? target = some g)
    (hname : g'.target = g.target) (hsame : g'.enabled = g.enabled) (other : Address) :
    (r.put g').isEnabled other = r.isEnabled other := by
  rw [isEnabled_put, hname, target_of_find? hgauge, hsame]
  by_cases hother : target = other
  · subst hother
    simp [isEnabled, hgauge]
  · simp [hother]

end Registry

namespace Commitments

variable {c c' : Commitments} {voter gauge v g : Address} {epoch n : Epoch} {x y : EpochVote}

/-- A vote that is added where there is none replaces no other. -/
theorem vote?_kept_by_insert (h : c'.votes = c.votes.insert y)
    (hnone : c.vote? y.voter y.gauge y.epoch = none) (hx : c.vote? voter gauge epoch = some x) :
    c'.vote? voter gauge epoch = some x := by
  rw [vote?_insert h, if_neg]
  · exact hx
  · rintro ⟨rfl, rfl, rfl⟩
    rw [hnone] at hx
    cases hx

/-- A vote that is there after one is erased was there before. -/
theorem vote?_of_erase (h : c'.votes = c.votes.erase (v, g, n))
    (hx : c'.vote? voter gauge epoch = some x) : c.vote? voter gauge epoch = some x := by
  rw [vote?_erase h] at hx
  split at hx
  · cases hx
  · exact hx

/-- A vote stays when one is erased, unless it is that one. -/
theorem vote?_kept_by_erase (h : c'.votes = c.votes.erase (v, g, n))
    (hx : c.vote? voter gauge epoch = some x) :
    c'.vote? voter gauge epoch = some x ∨ v = voter ∧ g = gauge ∧ n = epoch := by
  by_cases hkey : v = voter ∧ g = gauge ∧ n = epoch
  · exact Or.inr hkey
  · rw [vote?_erase h, if_neg hkey]
    exact Or.inl hx

end Commitments

namespace Engine

variable {e e' : Engine} {escrow : Escrow} {authority voter target : Address} {epoch : Epoch}

/-- The account that a pot is paid from. -/
def vault? (e : Engine) : Pot → Option Address
  | .fees gauge _ side => (e.registry.gauges.find? gauge).map fun g => g.feeVault side
  | .reward bribe _ => (e.bribes.bribes.find? bribe).map Bribe.vault

/-! ## What the guarded calls require -/

theorem setVote_eq_ok {weight : UInt32} {change : VoteChange}
    (h : e.setVote escrow authority voter target weight = .ok (change, e')) :
    ∃ lock total seqno, escrow.lock? voter = some lock ∧
      (authority = lock.owner ∨ authority = lock.delegate) ∧
      e' = { e with weights := e.weights.write voter target weight total seqno } := by
  obtain ⟨lock, hlock, hlocked⟩ := bind_eq_ok_iff.mp h
  obtain ⟨_, hallowed, hchecked⟩ := bind_eq_ok_iff.mp hlocked
  obtain ⟨g, hgauge, hfound⟩ := bind_eq_ok_iff.mp hchecked
  obtain ⟨⟨_, weights⟩, hset, heq⟩ := bind_eq_ok_iff.mp hfound
  obtain ⟨total, seqno, rfl, -⟩ := WeightBook.write_of_setVote hset
  obtain rfl := Registry.target_of_find? (Registry.get_eq_ok_iff.mp hgauge)
  cases heq
  rw [require_eq_ok_iff] at hallowed
  simp only [Lock.canSetVotes, Lock.isDelegate, Bool.or_eq_true, beq_iff_eq] at hallowed
  exact ⟨lock, total, seqno, Escrow.lock_eq_ok_iff.mp hlock, hallowed, rfl⟩

theorem revert_eq_ok {released : UInt64}
    (h : e.revert escrow authority voter target epoch = .ok (released, e')) :
    ∃ lock commitments, escrow.lock? voter = some lock ∧ authority = lock.delegate ∧
      epoch = e.currentEpoch ∧
      e.commitments.revert voter target epoch = .ok (released, commitments) ∧
      e' = { e with commitments } := by
  obtain ⟨lock, hlock, hallowed⟩ := bind_eq_ok_iff.mp h
  obtain ⟨_, hlive, hepoch⟩ := bind_eq_ok_iff.mp hallowed
  obtain ⟨⟨_, commitments⟩, hrevert, heq⟩ := bind_eq_ok_iff.mp hepoch
  cases heq
  obtain ⟨hfound, hdelegate⟩ := Escrow.requireDelegate_eq_ok_iff.mp hlock
  exact ⟨lock, commitments, hfound, hdelegate, Factory.requireLive_eq_ok_iff.mp hlive,
    hrevert, rfl⟩

theorem close_eq_ok {allocated : UInt64}
    (h : e.close escrow authority voter target epoch = .ok (allocated, e')) :
    ∃ lock x commitments, escrow.lock? voter = some lock ∧ authority = lock.delegate ∧
      epoch < e.currentEpoch ∧
      e.commitments.close voter target epoch = .ok (x, commitments) ∧
      e' = { e with commitments } := by
  obtain ⟨lock, hlock, hallowed⟩ := bind_eq_ok_iff.mp h
  obtain ⟨_, helapsed, hepoch⟩ := bind_eq_ok_iff.mp hallowed
  obtain ⟨⟨x, commitments⟩, hclose, heq⟩ := bind_eq_ok_iff.mp hepoch
  cases heq
  obtain ⟨hfound, hdelegate⟩ := Escrow.requireDelegate_eq_ok_iff.mp hlock
  exact ⟨lock, x, commitments, hfound, hdelegate, Factory.requireElapsed_eq_ok_iff.mp helapsed,
    hclose, rfl⟩

theorem setGaugeEnabled_foreman {enabled changed : Bool}
    (h : e.setGaugeEnabled authority target enabled = .ok (changed, e')) :
    authority = e.factory.foreman := by
  obtain ⟨_, hforeman, -⟩ := bind_eq_ok_iff.mp h
  exact Factory.requireForeman_eq_ok_iff.mp hforeman

end Engine

namespace Deployment

open Engine EpochVoting.Action

variable {d d' : Deployment} {operation : Operation} {reply : Reply}

/-! ## Steps -/

/-- The foreman and the epoch's duration are set by the foreman. -/
theorem Step.factory_cases (h : Step d operation reply d') :
    (d'.engine.factory.foreman = d.engine.factory.foreman ∧
      d'.engine.factory.epochDurationSecs = d.engine.factory.epochDurationSecs) ∨
    ((∃ newForeman, operation = .setForeman d.engine.factory.foreman newForeman) ∧
      d'.engine.factory.epochDurationSecs = d.engine.factory.epochDurationSecs) ∨
    ((∃ secs, operation = .setEpochDuration d.engine.factory.foreman secs) ∧
      d'.engine.factory.foreman = d.engine.factory.foreman) := by
  by_cases hwrites : Book.factory ∈ operation.writes
  case neg =>
    have hsame : d'.engine.factory = d.engine.factory := h.keeps .factory hwrites
    simp [hsame]
  case pos =>
    cases h with
    | advanceEpoch hcall =>
      obtain ⟨factory, hadvance, heq⟩ := bind_eq_ok_iff.mp hcall
      obtain ⟨-, next, due, -, -, rfl⟩ := Factory.advance_eq_ok_iff.mp hadvance
      cases heq
      exact Or.inl ⟨rfl, rfl⟩
    | setForeman hcall =>
      obtain ⟨factory, hset, heq⟩ := bind_eq_ok_iff.mp hcall
      obtain ⟨rfl, rfl⟩ := Factory.setForeman_eq_ok_iff.mp hset
      cases heq
      exact Or.inr (Or.inl ⟨⟨_, rfl⟩, rfl⟩)
    | setEpochDuration hcall =>
      obtain ⟨factory, hset, heq⟩ := bind_eq_ok_iff.mp hcall
      obtain ⟨rfl, -, rfl⟩ := Factory.setEpochDuration_eq_ok_iff.mp hset
      cases heq
      exact Or.inr (Or.inr ⟨⟨_, rfl⟩, rfl⟩)
    | bribeCreated => exact Or.inl ⟨rfl, rfl⟩
    | _ => simp [Operation.writes] at hwrites

/-- A gauge is enabled and disabled by the foreman. -/
theorem Step.isEnabled_cases (h : Step d operation reply d') (target : Address) :
    d'.engine.registry.isEnabled target = d.engine.registry.isEnabled target ∨
    (operation.caller? d = some d.engine.factory.foreman ∧
      ∃ authority enabled, operation = .setGaugeEnabled authority target enabled) := by
  by_cases hwrites : Book.registry ∈ operation.writes
  case neg =>
    have hsame : d'.engine.registry = d.engine.registry := h.keeps .registry hwrites
    simp [hsame]
  case pos =>
    cases h with
    | @createGauge new mints engine hcall =>
      obtain ⟨hnone, rfl⟩ := createGauge_eq_ok_iff.mp hcall
      left
      rw [Registry.isEnabled_put]
      -- A new gauge is disabled, and an unknown one counts as disabled.
      by_cases hnew : new = target
      · subst hnew
        simp [Gauge.starting, Registry.isEnabled, hnone]
      · simp [Gauge.starting, hnew]
    | @setGaugeEnabled authority other enabled changed engine hcall =>
      obtain ⟨g, hgauge, rfl⟩ := setGaugeEnabled_eq_ok hcall
      by_cases hother : other = target
      · subst hother
        exact Or.inr ⟨congrArg some (setGaugeEnabled_foreman hcall), authority, enabled, rfl⟩
      · left
        rw [Registry.isEnabled_put, Registry.target_of_find? hgauge, if_neg hother]
    | @captured _ _ g capture _ _ hgauge =>
      exact Or.inl (Registry.isEnabled_put_same (capture.apply g) hgauge rfl rfl target)
    | @cleaned _ _ g _ pruned _ _ _ hgauge =>
      exact Or.inl (Registry.isEnabled_put_same (g.setPruned pruned) hgauge rfl rfl target)
    | @feePaid _ _ _ _ _ _ g _ _ claim _ _ _ _ hgauge =>
      exact Or.inl (Registry.isEnabled_put_same (claim.applyToGauge g) hgauge rfl rfl target)
    | foundEpochGauge | unvotedFee => exact Or.inl rfl
    | _ => simp [Operation.writes] at hwrites

/-- A voter's weights are set by the owner and the delegate of the voter's lock. -/
theorem Step.weights_cases (h : Step d operation reply d') (voter : Address) :
    d.engine.weights.SameOf voter d'.engine.weights ∨
    (∃ authority gauge weight, operation = .setVote authority voter gauge weight) ∧
      ∃ lock, d.escrow.lock? voter = some lock ∧
        (operation.caller? d = some lock.owner ∨ operation.caller? d = some lock.delegate) := by
  by_cases hwrites : Book.weights ∈ operation.writes
  case neg =>
    have hsame : d'.engine.weights = d.engine.weights := h.keeps .weights hwrites
    exact Or.inl (by simp [WeightBook.SameOf, hsame])
  case pos =>
    cases h with
    | @setVote authority other target weight change engine hcall =>
      obtain ⟨lock, total, seqno, hlock, hallowed, rfl⟩ := setVote_eq_ok hcall
      by_cases hother : other = voter
      · subst hother
        refine Or.inr ⟨⟨authority, target, weight, rfl⟩, lock, hlock, ?_⟩
        simpa [Operation.caller?] using hallowed
      · left
        simp [WeightBook.SameOf, WeightBook.write, Table.find?_insert_ite, Keyed.key, hother]
    | _ => simp [Operation.writes] at hwrites

/-- A live vote is taken back in its epoch, or closed after it, by the voter's delegate. -/
theorem Step.vote?_cases (h : Step d operation reply d') {voter gauge : Address} {epoch : Epoch}
    {x : EpochVote} (hx : d.engine.commitments.vote? voter gauge epoch = some x) :
    d'.engine.commitments.vote? voter gauge epoch = some x ∨
    (∃ lock, d.escrow.lock? voter = some lock ∧ operation.caller? d = some lock.delegate) ∧
      ((∃ authority wanted, operation = .revert authority voter gauge wanted) ∧
          epoch = d.engine.currentEpoch ∨
        (∃ authority, operation = .close authority voter gauge epoch) ∧
          epoch < d.engine.currentEpoch) := by
  have hwritten := h.epochWrite
  generalize d'.engine.commitments = c at hwritten ⊢
  cases hwritten with
  | nothing | taken | reset | captured | cleaned | claimed => exact Or.inl hx
  | committed _ hnone => exact Or.inl (Commitments.vote?_kept_by_insert rfl hnone hx)
  | @reverted authority wanted _ _ y _ _ hepoch =>
    refine (Commitments.vote?_kept_by_erase rfl hx).imp_right ?_
    rintro ⟨rfl, rfl, rfl⟩
    cases h with
    | revert hcall =>
      obtain ⟨lock, _, hlock, hdelegate, -⟩ := revert_eq_ok hcall
      exact ⟨⟨lock, hlock, congrArg some hdelegate⟩, Or.inl ⟨⟨authority, wanted, rfl⟩, hepoch⟩⟩
  | @closed authority _ _ y _ _ helapsed =>
    refine (Commitments.vote?_kept_by_erase rfl hx).imp_right ?_
    rintro ⟨rfl, rfl, rfl⟩
    cases h with
    | close hcall =>
      obtain ⟨lock, _, _, hlock, hdelegate, -⟩ := close_eq_ok hcall
      exact ⟨⟨lock, hlock, congrArg some hdelegate⟩, Or.inr ⟨⟨authority, rfl⟩, helapsed⟩⟩

/-- A claim is made by the voter's delegate and pays the owner of the voter's lock out of the
pot, and nobody else. -/
theorem Step.claim_payment (h : Step d operation reply d') {voter : Address} {pot : Pot}
    (hclaim : operation.claim? = some (voter, pot)) :
    ∃ lock mint vault paid, d.escrow.lock? voter = some lock ∧
      operation.caller? d = some lock.delegate ∧ reply = .amount paid ∧
      d.engine.mint? pot = some mint ∧ d.engine.vault? pot = some vault ∧
      d.tokens.settle (Payment.due ⟨mint, vault, lock.owner, paid⟩) = .ok d'.tokens := by
  cases h with
  | @unvotedFee authority v target epoch side lock g _ _ hlock hdelegate _ hgauge =>
    cases hclaim
    refine ⟨lock, (g.fee side).mint, g.feeVault side, 0, hlock, congrArg some hdelegate, rfl,
      mint?_fees hgauge epoch side, ?_, rfl⟩
    simp [vault?, hgauge]
  | @feePaid authority v target epoch side lock g _ _ claim _ hlock hdelegate _ hgauge _ _
      hcompute hpaid =>
    cases hclaim
    obtain ⟨-, -, -, -, rfl, -⟩ := FeeClaim.compute_eq_ok_some_iff.mp hcompute
    refine ⟨lock, (g.fee claim.side).mint, g.feeVault claim.side, claim.share, hlock,
      congrArg some hdelegate, rfl, mint?_fees hgauge epoch claim.side, ?_, hpaid⟩
    simp [vault?, hgauge]
  | @bribePaid authority v id epoch lock b claim _ _ hlock hdelegate _ hbribe _ hpaid =>
    cases hclaim
    refine ⟨lock, b.mint, b.vault, claim.amount, hlock, congrArg some hdelegate, rfl,
      mint?_reward hbribe epoch, ?_, hpaid⟩
    simp [vault?, hbribe]
  | _ => cases hclaim

/-- A clawback is made by the briber, who is paid out of the bribe's vault. -/
theorem Step.clawback_payment (h : Step d operation reply d') {id : UInt64} {epoch : Epoch}
    (hclawback : operation.clawback? = some (id, epoch)) :
    ∃ b paid, d.engine.bribes.bribes.find? id = some b ∧
      operation = .clawBackBribe b.briber id epoch ∧ reply = .amount paid ∧
      d.tokens.settle [⟨b.mint, b.vault, b.briber, paid⟩] = .ok d'.tokens := by
  cases h with
  | @bribeReturned briber _ _ b clawback _ _ _ hbribe hcheck hpaid =>
    cases hclawback
    obtain ⟨-, hbriber, -⟩ := (BribeLedger.checkClawback_eq_ok_iff hbribe).mp hcheck
    exact ⟨b, clawback.amount, hbribe, by rw [hbriber], rfl, hpaid⟩
  | _ => cases hclawback

end Deployment
end EpochVoting
