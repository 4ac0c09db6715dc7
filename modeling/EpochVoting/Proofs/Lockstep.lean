import EpochVoting.Proofs.Run

/-!
# Two computations side by side

Two checks agree if both fail with the same error, or both succeed with results in a given
relation (`Agree`).  Two actions go alike from two deployments if both fail with the same
error, or both give the same answer, and the deployments they leave are in a given relation
(`Action.Alike`).  Chains of such links agree and go alike, so that two runs of one call can
be compared link by link.  Where only the engines differ, payments and messages to the sink go
alike whatever the difference is (`Deployment.Beside`).
-/

namespace EpochVoting

/-! ## Checks -/

section Checks

variable {ε α β α' β' : Type} {S : α → α' → Prop} {T : β → β' → Prop}

/-- The same error, or results in the relation. -/
inductive Agree (S : α → α' → Prop) : Except ε α → Except ε α' → Prop
  | ok {a : α} {a' : α'} (h : S a a') : Agree S (.ok a) (.ok a')
  | error (e : ε) : Agree S (.error e) (.error e)

theorem agree_of_ok {x : Except ε α} {x' : Except ε α'} {a : α} {a' : α'} (hx : x = .ok a)
    (hx' : x' = .ok a') (h : S a a') : Agree S x x' := by
  rw [hx, hx']
  exact .ok h

theorem Agree.bind {x : Except ε α} {x' : Except ε α'} {f : α → Except ε β}
    {f' : α' → Except ε β'} (h : Agree S x x') (hf : ∀ a a', S a a' → Agree T (f a) (f' a')) :
    Agree T (x >>= f) (x' >>= f') := by
  cases h with
  | ok h => exact hf _ _ h
  | error e => exact .error e

/-- One and the same check in front. -/
theorem agree_check_bind (x : Except ε α) {f : α → Except ε β} {f' : α → Except ε β'}
    (hf : ∀ a, x = .ok a → Agree T (f a) (f' a)) : Agree T (x >>= f) (x >>= f') := by
  cases x with
  | ok a => exact hf a rfl
  | error e => exact .error e

theorem agree_refl {S : α → α → Prop} (x : Except ε α) (h : ∀ a, S a a) : Agree S x x := by
  cases x with
  | ok a => exact .ok (h a)
  | error e => exact .error e

theorem Agree.mono {S' : α → α' → Prop} {x : Except ε α} {x' : Except ε α'} (h : Agree S x x')
    (hS : ∀ a a', S a a' → S' a a') : Agree S' x x' := by
  cases h with
  | ok h => exact .ok (hS _ _ h)
  | error e => exact .error e

theorem Agree.eq {x x' : Except ε α} (h : Agree Eq x x') : x = x' := by
  cases h with
  | ok h => rw [h]
  | error e => rfl

/-- What is looked up in both, or missing in both. -/
theorem agree_demand {o : Option α} {o' : Option α'} (h : Option.Rel S o o') (e : ε) :
    Agree S (demand e o) (demand e o') := by
  cases h with
  | some h => exact .ok h
  | none => exact .error e

/-- What is found in both, up to what one does not look at. -/
theorem agree_demand_map {f : α → β} {o o' : Option α} (h : o'.map f = o.map f) (e : ε) :
    Agree (fun a a' => f a' = f a ∧ o = some a ∧ o' = some a') (demand e o) (demand e o') := by
  cases o with
  | none =>
    rw [Option.map_none, Option.map_eq_none_iff] at h
    rw [h]
    exact .error e
  | some a =>
    obtain ⟨a', rfl, heq⟩ := Option.map_eq_some_iff.mp h
    exact .ok ⟨heq, rfl, rfl⟩

/-- What the second lookup finds is a function of what the first one finds. -/
theorem agree_demand_of_map {f : α → α'} {o : Option α} {o' : Option α'} (h : o' = o.map f)
    (e : ε) : Agree (fun a a' => a' = f a ∧ o = some a) (demand e o) (demand e o') := by
  subst h
  cases o with
  | none => exact .error e
  | some a => exact .ok ⟨rfl, rfl⟩

/-- What is there in both. -/
theorem agree_demand_some {o : Option α} {o' : Option α'} (h : ∃ a, o = some a)
    (h' : ∃ a', o' = some a') (e : ε) : Agree (fun _ _ => True) (demand e o) (demand e o') := by
  obtain ⟨a, rfl⟩ := h
  obtain ⟨b, rfl⟩ := h'
  exact .ok trivial

end Checks

/-! ## Actions -/

namespace Action

variable {α β γ γ' : Type} {R : Deployment → Deployment → Prop} {S : γ → γ' → Prop}
  {d d' : Deployment}

/-- The same answer or the same error, and deployments in the relation. -/
inductive Alike (R : Deployment → Deployment → Prop) (x x' : Action α) (d d' : Deployment) : Prop
  | ok {a : α} {d₁ d₁' : Deployment} (h : x.run d = .ok a d₁) (h' : x'.run d' = .ok a d₁')
      (hR : R d₁ d₁') : Alike R x x' d d'
  | error {e : VotingError} {d₁ d₁' : Deployment} (h : x.run d = .error e d₁)
      (h' : x'.run d' = .error e d₁') (hR : R d₁ d₁') : Alike R x x' d d'

theorem Alike.leaves {x x' : Action α} (h : Alike R x x' d d') : R (x.leaves d) (x'.leaves d') := by
  unfold Action.leaves
  cases h with
  | ok h h' hR =>
    rw [h, h']
    exact hR
  | error h h' hR =>
    rw [h, h']
    exact hR

theorem Alike.mono {R' : Deployment → Deployment → Prop} {x x' : Action α}
    (h : Alike R x x' d d') (hR : ∀ d d', R d d' → R' d d') : Alike R' x x' d d' := by
  cases h with
  | ok h h' hafter => exact .ok h h' (hR _ _ hafter)
  | error h h' hafter => exact .error h h' (hR _ _ hafter)

theorem alike_pure (a : α) (hR : R d d') : Alike R (pure a : Action α) (pure a) d d' :=
  .ok rfl rfl hR

theorem Alike.bind {x x' : Action α} {f f' : α → Action β} (h : Alike R x x' d d')
    (hf : ∀ a d₁ d₁', x.run d = .ok a d₁ → x'.run d' = .ok a d₁' → R d₁ d₁' →
      Alike R (f a) (f' a) d₁ d₁') : Alike R (x >>= f) (x' >>= f') d d' := by
  cases h with
  | ok h h' hR =>
    cases hf _ _ _ h h' hR with
    | ok hok hok' hR' =>
      exact .ok (run_bind_eq_ok_iff.mpr ⟨_, _, h, hok⟩)
        (run_bind_eq_ok_iff.mpr ⟨_, _, h', hok'⟩) hR'
    | error he he' hR' =>
      refine .error (Eq.trans ?_ he) (Eq.trans ?_ he') hR'
      · rw [EStateM.run_bind, h]
      · rw [EStateM.run_bind, h']
  | @error e d₁ d₁' h h' hR =>
    have hfails : (x >>= f).run d = .error e d₁ := by rw [EStateM.run_bind, h]
    have hfails' : (x' >>= f').run d' = .error e d₁' := by rw [EStateM.run_bind, h']
    exact .error hfails hfails' hR

theorem Alike.map {x x' : Action α} (h : Alike R x x' d d') (f : α → β) :
    Alike R (f <$> x) (f <$> x') d d' := by
  rw [map_eq_pure_bind, map_eq_pure_bind]
  exact h.bind fun a _ _ _ _ hR => alike_pure (f a) hR

theorem alike_get_bind {f f' : Deployment → Action α} (h : Alike R (f d) (f' d') d d') :
    Alike R (get >>= f) (get >>= f') d d' := by
  cases h with
  | ok h h' hR => exact .ok h h' hR
  | error h h' hR => exact .error h h' hR

/-- Checks that agree, in front. -/
theorem alike_lift_bind {x : Except VotingError γ} {x' : Except VotingError γ'}
    {f : γ → Action α} {f' : γ' → Action α} (h : Agree S x x') (hR : R d d')
    (hf : ∀ a a', S a a' → x = .ok a → x' = .ok a' → Alike R (f a) (f' a') d d') :
    Alike R (liftM x >>= f) (liftM x' >>= f') d d' := by
  cases h with
  | @ok a a' h =>
    cases hf a a' h rfl rfl with
    | ok hok hok' hR' => exact .ok hok hok' hR'
    | error he he' hR' => exact .error he he' hR'
  | error e => exact .error rfl rfl hR

/-- One and the same check in front. -/
theorem alike_check_bind (x : Except VotingError γ) {f f' : γ → Action α} (hR : R d d')
    (hf : ∀ a, x = .ok a → Alike R (f a) (f' a) d d') :
    Alike R (liftM x >>= f) (liftM x >>= f') d d' := by
  refine alike_lift_bind (agree_refl x fun _ => rfl) hR fun a a' (heq : a = a') hx _ => ?_
  subst heq
  exact hf a hx

/-- One and the same check at the end. -/
theorem alike_check (x : Except VotingError α) (hR : R d d') :
    Alike R (liftM x : Action α) (liftM x) d d' := by
  cases x with
  | ok a => exact .ok rfl rfl hR
  | error e => exact .error rfl rfl hR

theorem alike_set {d₁ d₁' : Deployment} (hR : R d₁ d₁') :
    Alike R (set d₁ : Action PUnit) (set d₁') d d' :=
  .ok rfl rfl hR

/-- Calls on the engine that agree on the answer and leave engines in the relation. -/
theorem alike_onEngine {call call' : Deployment → Except VotingError (α × Engine)} (hR : R d d')
    (h : Agree (fun p p' => p.1 = p'.1 ∧ R { d with engine := p.2 } { d' with engine := p'.2 })
      (call d) (call' d')) : Alike R (onEngine call) (onEngine call') d d' := by
  refine alike_get_bind (alike_lift_bind h hR ?_)
  rintro ⟨a, e⟩ ⟨a', e'⟩ ⟨heq, hafter⟩ _ _
  cases heq
  exact (alike_set hafter).bind fun _ _ _ _ _ hR' => alike_pure a hR'

theorem alike_changeEngine {call call' : Deployment → Except VotingError Engine} (hR : R d d')
    (h : Agree (fun e e' => R { d with engine := e } { d' with engine := e' })
      (call d) (call' d')) :
    Alike R (changeEngine call) (changeEngine call') d d' := by
  refine alike_onEngine hR ?_
  cases hx : call d with
  | ok e =>
    rw [hx] at h
    generalize call' d' = y at h
    cases h with
    | ok h => exact .ok ⟨rfl, h⟩
  | error e =>
    rw [hx] at h
    generalize call' d' = y at h
    cases h
    exact .error e

end Action

/-! ## Deployments with the same surroundings -/

/-- What the calls about bribes look at besides the surroundings is the same in both
engines. -/
structure Engine.SameForBribes (e e' : Engine) : Prop where
  factory : e'.factory = e.factory
  bribes : e'.bribes = e.bribes
  registered : ∀ target, Agree (fun _ _ => True) (e.registry.get target) (e'.registry.get target)
  totalPower : ∀ gauge epoch, epoch < e.currentEpoch →
    e'.totalPower gauge epoch = e.totalPower gauge epoch
  allocation : ∀ voter gauge epoch, epoch < e.currentEpoch →
    e'.commitments.allocation? voter gauge epoch = e.commitments.allocation? voter gauge epoch

/-- The calls about bribes do not notice the difference between the engines, and what they
write does not matter to it. -/
structure Engine.BribeBlind (E : Engine → Engine → Prop) : Prop where
  same : ∀ {e e'}, E e e' → e.SameForBribes e'
  write : ∀ {e e'} bribes, E e e' → E { e with bribes } { e' with bribes }
  create : ∀ {e e'} factory bribes, E e e' → factory.currentEpoch = e.currentEpoch →
    E { e with factory, bribes } { e' with factory, bribes }

namespace Deployment

open EpochVoting.Action

/-- The same surroundings, and engines in a relation. -/
inductive Beside (E : Engine → Engine → Prop) (d : Deployment) : Deployment → Prop
  | of {engine} (h : E d.engine engine) : Beside E d { d with engine }

namespace Beside

variable {α β : Type} {E : Engine → Engine → Prop} {d d' : Deployment}

theorem onEngine {call call' : Deployment → Except VotingError (α × Engine)} (h : d.Beside E d')
    (hcall : Agree (fun p p' => p.1 = p'.1 ∧ E p.2 p'.2) (call d) (call' d')) :
    Alike (Beside E) (onEngine call) (onEngine call') d d' := by
  obtain ⟨he⟩ := h
  exact alike_onEngine (.of he) (hcall.mono fun _ _ hp => ⟨hp.1, .of hp.2⟩)

theorem changeEngine {call call' : Deployment → Except VotingError Engine} (h : d.Beside E d')
    (hcall : Agree E (call d) (call' d')) :
    Alike (Beside E) (changeEngine call) (changeEngine call') d d' := by
  obtain ⟨he⟩ := h
  exact alike_changeEngine (.of he) (hcall.mono fun _ _ hp => .of hp)

theorem requireBalance (h : d.Beside E d') (mint account : Address) (needed : UInt64) :
    Alike (Beside E) (requireBalance mint account needed) (requireBalance mint account needed)
      d d' := by
  obtain ⟨he⟩ := h
  exact alike_get_bind (alike_check _ (.of he))

theorem transfer (h : d.Beside E d') (mint source target : Address) (amount : UInt64) :
    Alike (Beside E) (transfer mint source target amount) (transfer mint source target amount)
      d d' := by
  obtain ⟨he⟩ := h
  exact alike_get_bind (alike_check_bind _ (.of he) fun tokens _ => alike_set (.of he))

theorem pay (h : d.Beside E d') (mint source target : Address) (amount : UInt64) :
    Alike (Beside E) (pay mint source target amount) (pay mint source target amount) d d' :=
  (h.requireBalance mint source amount).bind fun _ _ _ _ _ hR =>
    hR.transfer mint source target amount

theorem captureSide (h : d.Beside E d') (g : Gauge) (side : FeeSide) (amount : UInt64) :
    Alike (Beside E) (captureSide g side amount) (captureSide g side amount) d d' := by
  unfold Deployment.captureSide
  split
  · exact alike_pure () h
  · exact h.transfer ..

theorem pushShare (h : d.Beside E d') (target : Address) (share : UInt64) :
    Alike (Beside E) (pushShare target share) (pushShare target share) d d' := by
  obtain ⟨he⟩ := h
  exact alike_get_bind (alike_check_bind _ (.of he) fun sink _ => alike_set (.of he))

theorem requireBalance_bind {mint account : Address} {needed : UInt64}
    {next next' : Unit → Action β} (h : d.Beside E d')
    (hnext : Alike (Beside E) (next ()) (next' ()) d d') :
    Alike (Beside E) (Action.requireBalance mint account needed >>= next)
      (Action.requireBalance mint account needed >>= next') d d' := by
  refine (h.requireBalance ..).bind fun _ d₁ d₁' hhas hhas' _ => ?_
  obtain ⟨-, rfl⟩ := run_requireBalance_eq_ok_iff.mp hhas
  obtain ⟨-, rfl⟩ := run_requireBalance_eq_ok_iff.mp hhas'
  exact hnext

theorem captureSide_bind {g : Gauge} {side : FeeSide} {amount : UInt64}
    {next next' : Unit → Action β} (h : d.Beside E d')
    (hnext : ∀ tokens, Beside E { d with tokens } { d' with tokens } →
      Alike (Beside E) (next ()) (next' ()) { d with tokens } { d' with tokens }) :
    Alike (Beside E) (Deployment.captureSide g side amount >>= next)
      (Deployment.captureSide g side amount >>= next') d d' := by
  unfold Deployment.captureSide
  split
  · obtain ⟨he⟩ := h
    exact hnext d.tokens (.of he)
  · refine (h.transfer ..).bind fun _ d₁ d₁' hpaid hpaid' hR => ?_
    obtain ⟨tokens, hmoved, rfl⟩ := run_transfer_eq_ok_iff.mp hpaid
    obtain ⟨tokens', hmoved', rfl⟩ := run_transfer_eq_ok_iff.mp hpaid'
    obtain ⟨he⟩ := h
    cases hmoved.symm.trans hmoved'
    exact hnext tokens hR

/-- A payment in front of what goes alike after it. -/
theorem pay_bind {p : Payment} {next next' : Action β} (h : d.Beside E d')
    (hnext : ∀ tokens, Beside E { d with tokens } { d' with tokens } →
      Alike (Beside E) next next' { d with tokens } { d' with tokens }) :
    Alike (Beside E) (Action.pay p.mint p.source p.target p.amount >>= fun _ => next)
      (Action.pay p.mint p.source p.target p.amount >>= fun _ => next') d d' := by
  refine (h.pay ..).bind fun _ d₁ d₁' hpay hpay' hR => ?_
  obtain ⟨tokens, hmoved, rfl⟩ := run_pay_eq_ok_iff.mp hpay
  obtain ⟨tokens', hmoved', rfl⟩ := run_pay_eq_ok_iff.mp hpay'
  obtain ⟨he⟩ := h
  cases hmoved.symm.trans hmoved'
  exact hnext tokens hR

/-- Likewise a payment that is left out if it is of nothing. -/
theorem payDue_bind {p : Payment} {next next' : Action β} (h : d.Beside E d')
    (hnext : ∀ tokens, Beside E { d with tokens } { d' with tokens } →
      Alike (Beside E) next next' { d with tokens } { d' with tokens }) :
    Alike (Beside E)
      (if 0 < p.amount then Action.pay p.mint p.source p.target p.amount >>= fun _ => next
        else next)
      (if 0 < p.amount then Action.pay p.mint p.source p.target p.amount >>= fun _ => next'
        else next') d d' := by
  split
  · exact h.pay_bind hnext
  · obtain ⟨he⟩ := h
    exact hnext d.tokens (.of he)

/-! ### Around the engine -/

theorem accruePool (h : d.Beside E d') (target : Address) (side : FeeSide) (mint : Address)
    (amount : UInt64) :
    Alike (Beside E) (accruePool target side mint amount) (accruePool target side mint amount)
      d d' := by
  obtain ⟨he⟩ := h
  exact alike_get_bind (alike_check_bind _ (.of he) fun _ _ => alike_set (.of he))

theorem fund (h : d.Beside E d') (mint account : Address) (amount : UInt64) :
    Alike (Beside E) (fund mint account amount) (fund mint account amount) d d' := by
  obtain ⟨he⟩ := h
  exact alike_get_bind (alike_check_bind _ (.of he) fun _ _ => alike_set (.of he))

theorem passTimeUntil (h : d.Beside E d') (time : Timestamp) :
    Alike (Beside E) (passTimeUntil time) (passTimeUntil time) d d' := by
  obtain ⟨he⟩ := h
  exact .ok rfl rfl (.of he)

/-! ### Bribes -/

theorem createBribe (hE : Engine.BribeBlind E) (h : d.Beside E d') (briber gauge mint : Address)
    (reward : UInt64) (epochEnd : Epoch) :
    Alike (Beside E) (createBribe briber gauge mint reward epochEnd)
      (createBribe briber gauge mint reward epochEnd) d d' := by
  have hboth := h
  obtain ⟨he⟩ := h
  obtain ⟨hfactory, hbribes, hregistered, -, -⟩ := hE.same he
  refine alike_get_bind (alike_lift_bind (hregistered gauge) hboth fun _ _ _ _ _ => ?_)
  simp only [Engine.currentEpoch, hfactory]
  refine alike_check_bind _ hboth fun id hid => alike_check_bind _ hboth fun b _ =>
    alike_check_bind _ hboth fun escrowed _ => ?_
  refine hboth.pay_bind (p := ⟨mint, briber, b.vault, escrowed⟩) fun tokens hpaid =>
    (hpaid.changeEngine ?_).bind fun _ _ _ _ _ hR => alike_pure _ hR
  simp only [hfactory, hbribes, Factory.takeBribeId_of_nextBribeId hid]
  exact .ok (hE.create _ _ he rfl)

theorem claimBribe (hE : Engine.BribeBlind E) (h : d.Beside E d') (authority voter : Address)
    (id : UInt64) (epoch : Epoch) :
    Alike (Beside E) (claimBribe authority voter id epoch) (claimBribe authority voter id epoch)
      d d' := by
  have hboth := h
  obtain ⟨he⟩ := h
  obtain ⟨hfactory, hbribes, -, hpower, hallocation⟩ := hE.same he
  refine alike_get_bind (alike_check_bind _ hboth fun lock _ => ?_)
  simp only [hfactory, hbribes]
  refine alike_check_bind _ hboth fun _ helapsed => alike_check_bind _ hboth fun b _ => ?_
  rw [Factory.requireElapsed_eq_ok_iff] at helapsed
  rw [hpower _ _ helapsed, hallocation _ _ _ helapsed]
  refine alike_check_bind _ hboth fun claim _ => ?_
  refine hboth.payDue_bind (p := b.payment lock.owner claim.amount) fun tokens hpaid =>
    (hpaid.changeEngine ?_).bind fun _ _ _ _ _ hR => alike_pure _ hR
  simp only [hbribes]
  exact agree_check_bind _ fun bribes _ => .ok (hE.write bribes he)

theorem clawBackBribe (hE : Engine.BribeBlind E) (h : d.Beside E d') (authority : Address)
    (id : UInt64) (epoch : Epoch) :
    Alike (Beside E) (clawBackBribe authority id epoch) (clawBackBribe authority id epoch)
      d d' := by
  have hboth := h
  obtain ⟨he⟩ := h
  obtain ⟨hfactory, hbribes, -, hpower, -⟩ := hE.same he
  refine alike_get_bind ?_
  simp only [hfactory, hbribes]
  refine alike_check_bind _ hboth fun _ helapsed => alike_check_bind _ hboth fun b _ => ?_
  rw [Factory.requireElapsed_eq_ok_iff] at helapsed
  rw [hpower _ _ helapsed]
  refine alike_check_bind _ hboth fun clawback _ => ?_
  refine hboth.pay_bind (p := b.payment b.briber clawback.amount) fun tokens hpaid =>
    (hpaid.changeEngine ?_).bind fun _ _ _ _ _ hR => alike_pure _ hR
  simp only [hbribes]
  exact agree_check_bind _ fun bribes _ => .ok (hE.write bribes he)

end Beside
end Deployment
end EpochVoting
