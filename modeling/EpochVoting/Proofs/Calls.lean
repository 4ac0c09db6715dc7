import EpochVoting.Deployment.Operation
import Mathlib.Algebra.Order.Ring.Nat

/-!
# Results of calls

A call of the engine is a chain of checks in `Except` and of effects in `Action`.
This file says, for every link of such a chain, when the whole succeeds and with
what, so that a successful call can be taken apart into the facts its checks
established.

A call is atomic at a deployment if its failure leaves that deployment as it was.
Checks are atomic; a chain of checks in front of an atomic call is atomic; and an
effect may only be followed by something that cannot fail.
-/

namespace EpochVoting

namespace Amount

variable {a b : UInt64} {n : Nat}

theorem toNat_ofNat (h : n < 2 ^ 64) : (UInt64.ofNat n).toNat = n :=
  UInt64.toNat_ofNat_of_lt' h

theorem exists_toNat_eq (h : n < 2 ^ 64) : ∃ amount : UInt64, amount.toNat = n :=
  ⟨UInt64.ofNat n, toNat_ofNat h⟩

theorem add?_succeeds (h : a.toNat + b.toNat < 2 ^ 64) : ∃ c, add? a b = some c :=
  ⟨.ofNat (a.toNat + b.toNat), add?_eq_some_iff.mpr (toNat_ofNat h)⟩

theorem sub?_succeeds (h : b.toNat ≤ a.toNat) : ∃ c, sub? a b = some c := by
  have hlt := a.toNat_lt
  refine ⟨.ofNat (a.toNat - b.toNat), sub?_eq_some_iff.mpr ?_⟩
  rw [toNat_ofNat (by omega)]
  omega

end Amount

/-! ## Checks -/

section Checks

variable {ε ε' α β : Type}

theorem bind_eq_ok_iff {x : Except ε α} {f : α → Except ε β} {b : β} :
    (x >>= f) = .ok b ↔ ∃ a, x = .ok a ∧ f a = .ok b := by
  cases x with
  | error e => simp [bind, Except.bind]
  | ok a => simp [bind, Except.bind]

/-- A check passes before what follows it. -/
theorem check_bind_eq_ok_iff {x : Except ε Unit} {f : Unit → Except ε β} {b : β} :
    (x >>= f) = .ok b ↔ x = .ok () ∧ f () = .ok b := by
  rw [bind_eq_ok_iff]
  exact ⟨fun ⟨_, hx, hb⟩ => ⟨hx, hb⟩, fun ⟨hx, hb⟩ => ⟨(), hx, hb⟩⟩

/-- A chain fails with the error of the first link that fails. -/
theorem bind_eq_error_iff {x : Except ε α} {f : α → Except ε β} {error : ε} :
    (x >>= f) = .error error ↔ x = .error error ∨ ∃ a, x = .ok a ∧ f a = .error error := by
  cases x with
  | error e => simp [bind, Except.bind]
  | ok a => simp [bind, Except.bind]

theorem demand_eq_error_iff {error error' : ε} {o : Option α} :
    demand error o = .error error' ↔ o = none ∧ error = error' := by
  cases o <;> simp [demand]

theorem require_eq_error_iff {condition : Bool} {error error' : ε} :
    require condition error = .error error' ↔ condition = false ∧ error = error' := by
  cases condition <;> simp [require]

theorem pure_eq_ok_iff {a b : α} : (pure a : Except ε α) = .ok b ↔ a = b := by
  simp [pure, Except.pure]

theorem pure_ne_error {a : α} {error : ε} : (pure a : Except ε α) ≠ .error error := by
  simp [pure, Except.pure]

theorem map_eq_ok_iff {x : Except ε α} {f : α → β} {b : β} :
    x.map f = .ok b ↔ ∃ a, x = .ok a ∧ f a = b := by
  cases x <;> simp [Except.map]

theorem mapError_eq_ok_iff {x : Except ε α} {f : ε → ε'} {a : α} :
    x.mapError f = .ok a ↔ x = .ok a := by
  cases x <;> simp [Except.mapError]

theorem toOption_eq_some_iff {x : Except ε α} {a : α} : x.toOption = some a ↔ x = .ok a := by
  cases x <;> simp [Except.toOption]

theorem require_passes_iff {condition : Bool} {error : ε} {u : Unit} :
    require condition error = .ok u ↔ condition = true :=
  require_eq_ok_iff

/-- A pass over a list succeeds if every visit does. -/
theorem forM_eq_ok_iff {l : List α} {f : α → Except ε Unit} :
    l.forM f = .ok () ↔ ∀ a ∈ l, f a = .ok () := by
  induction l with
  | nil => simp [pure, Except.pure]
  | cons a rest ih =>
    change (f a >>= fun _ => rest.forM f) = .ok () ↔ _
    rw [bind_eq_ok_iff, List.forall_mem_cons]
    constructor
    · rintro ⟨_, ha, hrest⟩
      exact ⟨ha, ih.mp hrest⟩
    · rintro ⟨ha, hrest⟩
      exact ⟨(), ha, ih.mpr hrest⟩

end Checks

namespace Action

variable {α β : Type} {d d' : Deployment} {error : VotingError}

/-! ## Success -/

theorem run_bind_eq_ok_iff {x : Action α} {f : α → Action β} {b : β} :
    (x >>= f).run d = .ok b d' ↔
      ∃ a d₁, x.run d = .ok a d₁ ∧ (f a).run d₁ = .ok b d' := by
  rw [EStateM.run_bind]
  cases x.run d with
  | error e d₁ => simp
  | ok a d₁ =>
    constructor
    · exact fun h => ⟨a, d₁, rfl, h⟩
    · rintro ⟨_, _, ⟨rfl, rfl⟩, h⟩
      exact h

theorem run_get_bind {f : Deployment → Action β} :
    (get >>= f : Action β).run d = (f d).run d :=
  rfl

theorem run_pure_eq_ok_iff {a b : α} :
    (pure a : Action α).run d = .ok b d' ↔ a = b ∧ d = d' := by
  simp

theorem run_map_eq_ok_iff {x : Action α} {f : α → β} {b : β} :
    (f <$> x).run d = .ok b d' ↔ ∃ a, x.run d = .ok a d' ∧ f a = b := by
  rw [map_eq_pure_bind, run_bind_eq_ok_iff]
  constructor
  · rintro ⟨a, d₁, ha, hb⟩
    obtain ⟨rfl, rfl⟩ := run_pure_eq_ok_iff.mp hb
    exact ⟨a, ha, rfl⟩
  · rintro ⟨a, ha, rfl⟩
    exact ⟨a, d', ha, rfl⟩

theorem run_lift (x : Except VotingError α) (d : Deployment) :
    (liftM x : Action α).run d =
      match x with
      | .ok a => .ok a d
      | .error e => .error e d := by
  cases x <;> rfl

theorem run_lift_eq_ok_iff {x : Except VotingError α} {a : α} :
    (liftM x : Action α).run d = .ok a d' ↔ x = .ok a ∧ d' = d := by
  rw [run_lift]
  cases x <;> simp [eq_comm]

theorem run_ofExternal_eq_ok_iff {x : Except ExternalError α} {a : α} :
    (ofExternal x).run d = .ok a d' ↔ x = .ok a ∧ d' = d := by
  have h : (liftM (x.mapError VotingError.ofExternal) : Action α).run d = .ok a d' ↔ _ :=
    run_lift_eq_ok_iff
  rw [mapError_eq_ok_iff] at h
  exact h

theorem run_onEngine_eq_ok_iff {call : Deployment → Except VotingError (α × Engine)} {a : α} :
    (onEngine call).run d = .ok a d' ↔
      ∃ e, call d = .ok (a, e) ∧ d' = { d with engine := e } := by
  unfold onEngine
  rw [run_get_bind, run_bind_eq_ok_iff]
  constructor
  · rintro ⟨⟨b, e⟩, d₁, hcall, hset⟩
    obtain ⟨hcall, rfl⟩ := run_lift_eq_ok_iff.mp hcall
    simp only [EStateM.run_bind, EStateM.run_set, EStateM.run_pure,
      EStateM.Result.ok.injEq] at hset
    obtain ⟨rfl, rfl⟩ := hset
    exact ⟨e, hcall, rfl⟩
  · rintro ⟨e, hcall, rfl⟩
    exact ⟨(a, e), d, run_lift_eq_ok_iff.mpr ⟨hcall, rfl⟩, rfl⟩

theorem run_onEngine_eq_error_iff {call : Deployment → Except VotingError (α × Engine)}
    {error : VotingError} :
    (onEngine call).run d = .error error d' ↔ call d = .error error ∧ d' = d := by
  unfold onEngine
  rw [run_get_bind, EStateM.run_bind, run_lift]
  cases call d with
  | ok result =>
    constructor
    · intro h
      cases h
    · rintro ⟨h, -⟩
      cases h
  | error e => simp [eq_comm]

theorem run_changeEngine_eq_ok_iff {call : Deployment → Except VotingError Engine} {u : Unit} :
    (changeEngine call).run d = .ok u d' ↔
      ∃ e, call d = .ok e ∧ d' = { d with engine := e } := by
  unfold changeEngine
  rw [run_onEngine_eq_ok_iff]
  constructor
  · rintro ⟨e, hcall, rfl⟩
    obtain ⟨_, hcall, heq⟩ := map_eq_ok_iff.mp hcall
    cases heq
    exact ⟨e, hcall, rfl⟩
  · rintro ⟨e, hcall, rfl⟩
    exact ⟨e, map_eq_ok_iff.mpr ⟨e, hcall, rfl⟩, rfl⟩

theorem run_requireBalance_eq_ok_iff {mint account : Address} {needed : UInt64} {u : Unit} :
    (requireBalance mint account needed).run d = .ok u d' ↔
      needed ≤ d.tokens.balance mint account ∧ d' = d := by
  unfold requireBalance
  rw [run_get_bind, run_lift_eq_ok_iff, require_eq_ok_iff, decide_eq_true_iff]

theorem run_transfer_eq_ok_iff {mint source target : Address} {amount : UInt64} {u : Unit} :
    (transfer mint source target amount).run d = .ok u d' ↔
      ∃ tokens, d.tokens.transfer mint source target amount = .ok tokens ∧
        d' = { d with tokens } := by
  unfold transfer
  rw [run_get_bind, run_bind_eq_ok_iff]
  constructor
  · rintro ⟨tokens, d₁, hmove, hset⟩
    obtain ⟨hmove, rfl⟩ := run_ofExternal_eq_ok_iff.mp hmove
    simp only [EStateM.run_set, EStateM.Result.ok.injEq] at hset
    exact ⟨tokens, hmove, hset.2.symm⟩
  · rintro ⟨tokens, hmove, rfl⟩
    exact ⟨tokens, d, run_ofExternal_eq_ok_iff.mpr ⟨hmove, rfl⟩, rfl⟩

/-- What an account must hold before it pays, it holds if the payment goes through. -/
theorem run_pay_eq_ok_iff {mint source target : Address} {amount : UInt64} {u : Unit} :
    (pay mint source target amount).run d = .ok u d' ↔
      ∃ tokens, d.tokens.transfer mint source target amount = .ok tokens ∧
        d' = { d with tokens } := by
  unfold pay
  rw [run_bind_eq_ok_iff]
  constructor
  · rintro ⟨_, d₁, hhas, hmove⟩
    obtain ⟨-, rfl⟩ := run_requireBalance_eq_ok_iff.mp hhas
    exact run_transfer_eq_ok_iff.mp hmove
  · rintro ⟨tokens, hmove, rfl⟩
    -- The transfer makes the same check again.
    refine ⟨(), d, run_requireBalance_eq_ok_iff.mpr ⟨?_, rfl⟩,
      run_transfer_eq_ok_iff.mpr ⟨tokens, hmove, rfl⟩⟩
    obtain ⟨left, hleft, -⟩ := bind_eq_ok_iff.mp hmove
    rw [demand_eq_ok_iff, Amount.sub?_eq_some_iff] at hleft
    rw [UInt64.le_iff_toNat_le]
    omega

theorem run_pushShare_eq_ok_iff {target : Address} {share : UInt64} {u : Unit} :
    (pushShare target share).run d = .ok u d' ↔
      ∃ sink, d.sink.push target share = .ok sink ∧ d' = { d with sink } := by
  unfold pushShare
  rw [run_get_bind, run_bind_eq_ok_iff]
  constructor
  · rintro ⟨sink, d₁, hpush, hset⟩
    obtain ⟨hpush, rfl⟩ := run_ofExternal_eq_ok_iff.mp hpush
    simp only [EStateM.run_set, EStateM.Result.ok.injEq] at hset
    exact ⟨sink, hpush, hset.2.symm⟩
  · rintro ⟨sink, hpush, rfl⟩
    exact ⟨sink, d, run_ofExternal_eq_ok_iff.mpr ⟨hpush, rfl⟩, rfl⟩

/-! ## Failure -/

/-- A failure of the action leaves the deployment as it was. -/
def Atomic (x : Action α) (d : Deployment) : Prop :=
  ∀ ⦃error d'⦄, x.run d = .error error d' → d' = d

/-- The action succeeds. -/
def Succeeds (x : Action α) (d : Deployment) : Prop :=
  ∃ a d', x.run d = .ok a d'

theorem Succeeds.atomic {x : Action α} (h : Succeeds x d) : Atomic x d := by
  intro error d' herror
  obtain ⟨a, d₁, hok⟩ := h
  rw [hok] at herror
  cases herror

theorem succeeds_bind {x : Action α} {f : α → Action β} (hx : Succeeds x d)
    (hf : ∀ a d₁, x.run d = .ok a d₁ → Succeeds (f a) d₁) : Succeeds (x >>= f) d := by
  obtain ⟨a, d₁, ha⟩ := hx
  obtain ⟨b, d₂, hb⟩ := hf a d₁ ha
  exact ⟨b, d₂, run_bind_eq_ok_iff.mpr ⟨a, d₁, ha, hb⟩⟩

theorem succeeds_pure (a : α) : Succeeds (pure a : Action α) d :=
  ⟨a, d, rfl⟩

theorem succeeds_changeEngine {call : Deployment → Except VotingError Engine} {e : Engine}
    (h : call d = .ok e) : Succeeds (changeEngine call) d :=
  ⟨(), { d with engine := e }, run_changeEngine_eq_ok_iff.mpr ⟨e, h, rfl⟩⟩

theorem atomic_pure (a : α) : Atomic (pure a : Action α) d :=
  (succeeds_pure a).atomic

theorem atomic_get_bind {f : Deployment → Action β} (h : Atomic (f d) d) :
    Atomic (get >>= f) d :=
  h

/-- A check that fails changes nothing; otherwise what follows it has failed. -/
theorem run_lift_bind_error {x : Except VotingError α} {f : α → Action β}
    (h : (liftM x >>= f).run d = .error error d') :
    d' = d ∨ ∃ a, x = .ok a ∧ (f a).run d = .error error d' := by
  rw [EStateM.run_bind, run_lift] at h
  cases x with
  | error e =>
    cases h
    exact Or.inl rfl
  | ok a => exact Or.inr ⟨a, rfl, h⟩

theorem run_requireBalance_bind_error {mint account : Address} {needed : UInt64}
    {f : Unit → Action β} (h : (requireBalance mint account needed >>= f).run d =
      .error error d') :
    d' = d ∨ needed ≤ d.tokens.balance mint account ∧ (f ()).run d = .error error d' := by
  unfold requireBalance at h
  rw [bind_assoc, run_get_bind] at h
  rcases run_lift_bind_error h with hsame | ⟨_, hhas, h⟩
  · exact Or.inl hsame
  · exact Or.inr ⟨decide_eq_true_iff.mp (require_eq_ok_iff.mp hhas), h⟩

/-- A check in front of an atomic action. -/
theorem atomic_lift_bind {x : Except VotingError α} {f : α → Action β}
    (h : ∀ a, x = .ok a → Atomic (f a) d) : Atomic (liftM x >>= f) d := by
  intro error d' herror
  rcases run_lift_bind_error herror with hsame | ⟨a, ha, herror⟩
  · exact hsame
  · exact h a ha herror

/-- An atomic action in front of one that cannot fail. -/
theorem Atomic.bind {x : Action α} {f : α → Action β} (hx : Atomic x d)
    (hf : ∀ a d₁, x.run d = .ok a d₁ → Succeeds (f a) d₁) : Atomic (x >>= f) d := by
  intro error d' herror
  rw [EStateM.run_bind] at herror
  cases hrun : x.run d with
  | error e d₁ =>
    rw [hrun] at herror
    cases herror
    exact hx hrun
  | ok a d₁ =>
    obtain ⟨b, d₂, hok⟩ := hf a d₁ hrun
    rw [hrun] at herror
    simp only [hok] at herror
    cases herror

theorem Atomic.map {x : Action α} (hx : Atomic x d) (f : α → β) : Atomic (f <$> x) d := by
  rw [map_eq_pure_bind]
  exact hx.bind fun a _ _ => succeeds_pure (f a)

theorem atomic_ofExternal_bind_set {x : Except ExternalError α}
    (next : Deployment → α → Deployment) :
    Atomic (do let a ← ofExternal x; set (next d a)) d :=
  atomic_lift_bind fun a _ => Succeeds.atomic ⟨(), next d a, rfl⟩

theorem atomic_onEngine (call : Deployment → Except VotingError (α × Engine)) :
    Atomic (onEngine call) d :=
  atomic_get_bind (atomic_lift_bind fun a _ =>
    Succeeds.atomic ⟨a.1, { d with engine := a.2 }, rfl⟩)

theorem atomic_changeEngine (call : Deployment → Except VotingError Engine) :
    Atomic (changeEngine call) d :=
  atomic_onEngine _

theorem atomic_requireBalance_bind {mint account : Address} {needed : UInt64}
    {f : Unit → Action β} (h : needed ≤ d.tokens.balance mint account → Atomic (f ()) d) :
    Atomic (requireBalance mint account needed >>= f) d := by
  intro error d' herror
  rcases run_requireBalance_bind_error herror with hsame | ⟨hhas, herror⟩
  · exact hsame
  · exact h hhas herror

theorem atomic_transfer (mint source target : Address) (amount : UInt64) :
    Atomic (transfer mint source target amount) d :=
  atomic_get_bind (atomic_ofExternal_bind_set fun d tokens => { d with tokens })

theorem atomic_pay (mint source target : Address) (amount : UInt64) :
    Atomic (pay mint source target amount) d :=
  atomic_requireBalance_bind fun _ => atomic_transfer mint source target amount

theorem atomic_pushShare (target : Address) (share : UInt64) :
    Atomic (pushShare target share) d :=
  atomic_get_bind (atomic_ofExternal_bind_set fun d sink => { d with sink })

end Action
end EpochVoting
