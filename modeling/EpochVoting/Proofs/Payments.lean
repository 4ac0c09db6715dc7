import EpochVoting.Proofs.Calls
import EpochVoting.Proofs.TableSum

/-!
# Payments

What a call does to the token ledger is a list of payments.  A payment lowers one
balance and raises another by the same amount; if both belong to one account it
moves nothing.  Main statement: over a list of payments that went through, an account
gains exactly what flows in and loses exactly what flows out.
-/

namespace EpochVoting

/-- Tokens to be moved from one account to another. -/
structure Payment where
  mint : Address
  source : Address
  target : Address
  amount : UInt64
deriving DecidableEq

namespace Payment

/-- What payments take from an account. -/
def outflow (payments : List Payment) (mint account : Address) : Nat :=
  (payments.map fun p =>
    if p.mint = mint ∧ p.source = account then p.amount.toNat else 0).sum

/-- What payments bring to an account. -/
def inflow (payments : List Payment) (mint account : Address) : Nat :=
  (payments.map fun p =>
    if p.mint = mint ∧ p.target = account then p.amount.toNat else 0).sum

@[simp] theorem outflow_nil (mint account : Address) : outflow [] mint account = 0 :=
  rfl

@[simp] theorem inflow_nil (mint account : Address) : inflow [] mint account = 0 :=
  rfl

theorem outflow_cons (p : Payment) (rest : List Payment) (mint account : Address) :
    outflow (p :: rest) mint account =
      (if p.mint = mint ∧ p.source = account then p.amount.toNat else 0) +
        outflow rest mint account :=
  List.sum_cons

theorem inflow_cons (p : Payment) (rest : List Payment) (mint account : Address) :
    inflow (p :: rest) mint account =
      (if p.mint = mint ∧ p.target = account then p.amount.toNat else 0) +
        inflow rest mint account :=
  List.sum_cons

theorem outflow_append (ps qs : List Payment) (mint account : Address) :
    outflow (ps ++ qs) mint account = outflow ps mint account + outflow qs mint account := by
  unfold outflow
  rw [List.map_append, List.sum_append]

theorem inflow_append (ps qs : List Payment) (mint account : Address) :
    inflow (ps ++ qs) mint account = inflow ps mint account + inflow qs mint account := by
  unfold inflow
  rw [List.map_append, List.sum_append]

/-- A payment that is made unless it is of nothing. -/
def due (p : Payment) : List Payment :=
  if p.amount = 0 then [] else [p]

theorem mem_due {p q : Payment} (h : p ∈ q.due) : p = q := by
  unfold due at h
  split at h
  · cases h
  · exact List.mem_singleton.mp h

theorem outflow_due (p : Payment) (mint account : Address) :
    outflow p.due mint account =
      if p.mint = mint ∧ p.source = account then p.amount.toNat else 0 := by
  unfold due
  by_cases hzero : p.amount = 0
  · rw [if_pos hzero, hzero]
    simp
  · rw [if_neg hzero, outflow_cons, outflow_nil, Nat.add_zero]

theorem inflow_due (p : Payment) (mint account : Address) :
    inflow p.due mint account =
      if p.mint = mint ∧ p.target = account then p.amount.toNat else 0 := by
  unfold due
  by_cases hzero : p.amount = 0
  · rw [if_pos hzero, hzero]
    simp
  · rw [if_neg hzero, inflow_cons, inflow_nil, Nat.add_zero]

end Payment

namespace TokenLedger

variable {t t' : TokenLedger} {mint account source target : Address} {amount : UInt64}

theorem balance_setBalance (t : TokenLedger) (mint account : Address) (amount : UInt64)
    (m a : Address) :
    (t.setBalance mint account amount).balance m a =
      if mint = m ∧ account = a then amount else t.balance m a := by
  unfold setBalance balance
  by_cases h : mint = m ∧ account = a
  · obtain ⟨rfl, rfl⟩ := h
    rw [if_pos ⟨rfl, rfl⟩]
    have := Table.find?_insert_self t.balances { mint, account, amount }
    change Table.find? _ (mint, account) = _ at this
    rw [this]
    rfl
  · rw [if_neg h, Table.find?_insert_of_ne]
    intro heq
    exact h (Prod.mk.inj heq)

/-- New tokens are added to one balance. -/
theorem balance_issue (h : t.issue mint account amount = .ok t') (m a : Address) :
    (t'.balance m a).toNat =
      (t.balance m a).toNat + if mint = m ∧ account = a then amount.toNat else 0 := by
  obtain ⟨total, htotal, hset⟩ := bind_eq_ok_iff.mp h
  rw [demand_eq_ok_iff, Amount.add?_eq_some_iff] at htotal
  cases hset
  rw [balance_setBalance]
  by_cases hm : mint = m ∧ account = a
  · obtain ⟨rfl, rfl⟩ := hm
    simp only [and_self, if_true]
    exact htotal
  · simp only [if_neg hm, Nat.add_zero]

/-- New tokens are taken from nobody. -/
theorem balance_le_issue {issued receiver : Address} {amount : UInt64}
    (h : t.issue issued receiver amount = .ok t') (mint account : Address) :
    (t.balance mint account).toNat ≤ (t'.balance mint account).toNat := by
  have hgain := balance_issue h mint account
  omega

/-- A transfer needs the amount. -/
theorem le_balance_of_transfer (h : t.transfer mint source target amount = .ok t') :
    amount.toNat ≤ (t.balance mint source).toNat := by
  obtain ⟨left, hleft, -⟩ := bind_eq_ok_iff.mp h
  rw [demand_eq_ok_iff, Amount.sub?_eq_some_iff] at hleft
  omega

/-- A transfer goes through if the source holds the amount and the target, unless it
is the source, can take it. -/
theorem transfer_succeeds (hhas : amount.toNat ≤ (t.balance mint source).toNat)
    (hfits : source ≠ target → (t.balance mint target).toNat + amount.toNat < 2 ^ 64) :
    ∃ t', t.transfer mint source target amount = .ok t' := by
  obtain ⟨left, hleft⟩ := Amount.sub?_succeeds hhas
  unfold transfer
  simp only [hleft, demand]
  by_cases hsame : source = target
  · exact ⟨_, if_pos hsame⟩
  · obtain ⟨credited, hcredited⟩ := Amount.add?_succeeds (hfits hsame)
    simp only [if_neg hsame, hcredited]
    exact ⟨_, rfl⟩

/-- A transfer moves its amount. -/
theorem balance_transfer (h : t.transfer mint source target amount = .ok t')
    (m a : Address) :
    (t'.balance m a).toNat + (if mint = m ∧ source = a then amount.toNat else 0) =
      (t.balance m a).toNat + if mint = m ∧ target = a then amount.toNat else 0 := by
  obtain ⟨left, hleft, hrest⟩ := bind_eq_ok_iff.mp h
  rw [demand_eq_ok_iff, Amount.sub?_eq_some_iff] at hleft
  -- A payment to oneself needs the amount but writes no balance.
  by_cases hsame : source = target
  · rw [if_pos hsame] at hrest
    cases hrest
    subst hsame
    rfl
  · rw [if_neg hsame] at hrest
    obtain ⟨credited, hcredited, hset⟩ := bind_eq_ok_iff.mp hrest
    rw [demand_eq_ok_iff, Amount.add?_eq_some_iff] at hcredited
    cases hset
    change (((t.setBalance mint source left).setBalance mint target credited).balance m
      a).toNat + _ = _
    rw [balance_setBalance, balance_setBalance]
    by_cases hm : mint = m
    · subst hm
      by_cases hs : source = a
      · subst hs
        have ht : ¬ target = source := Ne.symm hsame
        simp only [true_and, ht, if_false, if_true]
        omega
      · by_cases ht : target = a
        · subst ht
          simp only [true_and, hs, if_false, if_true]
          omega
        · simp only [hs, ht, and_false, if_false]
    · simp only [hm, false_and, if_false]

/-- A transfer is refused for one of two reasons. -/
theorem transfer_refused_iff :
    (∃ refusal, t.transfer mint source target amount = .error refusal) ↔
      (t.balance mint source).toNat < amount.toNat ∨
      source ≠ target ∧ 2 ^ 64 ≤ (t.balance mint target).toNat + amount.toNat := by
  constructor
  · rintro ⟨refusal, hrefused⟩
    by_contra hnone
    rw [not_or, not_and, Nat.not_lt] at hnone
    obtain ⟨t', hmoved⟩ := transfer_succeeds hnone.1 fun hne => Nat.not_le.mp (hnone.2 hne)
    rw [hmoved] at hrefused
    cases hrefused
  · intro hreason
    cases hmove : t.transfer mint source target amount with
    | error refusal => exact ⟨refusal, rfl⟩
    | ok t' =>
      have hhas := le_balance_of_transfer hmove
      rcases hreason with hlacks | ⟨hne, hfull⟩
      · omega
      · have hgained := balance_transfer hmove mint target
        have hlt := (t'.balance mint target).toNat_lt
        rw [if_neg fun hkey => hne hkey.2, if_pos ⟨rfl, rfl⟩] at hgained
        omega

/-- A transfer that went through is counted. -/
theorem transfers_transfer (h : t.transfer mint source target amount = .ok t') :
    t'.transfers = t.transfers + 1 := by
  obtain ⟨left, -, hrest⟩ := bind_eq_ok_iff.mp h
  by_cases hsame : source = target
  · rw [if_pos hsame] at hrest
    cases hrest
    rfl
  · rw [if_neg hsame] at hrest
    obtain ⟨credited, -, hset⟩ := bind_eq_ok_iff.mp hrest
    cases hset
    rfl

/-- Makes payments one after the other; the first that is refused ends it. -/
def settle (t : TokenLedger) : List Payment → Except ExternalError TokenLedger
  | [] => return t
  | p :: rest => do
    let t ← t.transfer p.mint p.source p.target p.amount
    t.settle rest

theorem settle_nil (h : t.settle [] = .ok t') : t' = t := by
  cases h
  rfl

theorem settle_singleton {p : Payment} :
    t.settle [p] = .ok t' ↔ t.transfer p.mint p.source p.target p.amount = .ok t' := by
  unfold settle
  rw [bind_eq_ok_iff]
  constructor
  · rintro ⟨t₁, hp, hnil⟩
    rw [settle_nil hnil]
    exact hp
  · exact fun hp => ⟨t', hp, rfl⟩

/-- A payment that is made unless it is of nothing goes through if it can be made. -/
theorem settle_due_succeeds {p : Payment}
    (h : p.amount ≠ 0 → ∃ t', t.transfer p.mint p.source p.target p.amount = .ok t') :
    ∃ t', t.settle p.due = .ok t' := by
  unfold Payment.due
  by_cases hzero : p.amount = 0
  · rw [if_pos hzero]
    exact ⟨t, rfl⟩
  · rw [if_neg hzero]
    obtain ⟨t', hmoved⟩ := h hzero
    exact ⟨t', settle_singleton.mpr hmoved⟩

theorem settle_append {ps qs : List Payment} :
    t.settle (ps ++ qs) = .ok t' ↔ ∃ t₁, t.settle ps = .ok t₁ ∧ t₁.settle qs = .ok t' := by
  induction ps generalizing t with
  | nil => exact ⟨fun h => ⟨t, rfl, h⟩, fun ⟨_, hnil, h⟩ => settle_nil hnil ▸ h⟩
  | cons p rest ih =>
    change (t.transfer p.mint p.source p.target p.amount >>= fun t => t.settle (rest ++ qs)) =
      .ok t' ↔ ∃ t₁, (t.transfer p.mint p.source p.target p.amount >>= fun t =>
        t.settle rest) = .ok t₁ ∧ _
    simp only [bind_eq_ok_iff, ih]
    constructor
    · rintro ⟨t₁, hp, t₂, hrest, hqs⟩
      exact ⟨t₂, ⟨t₁, hp, hrest⟩, hqs⟩
    · rintro ⟨t₂, ⟨t₁, hp, hrest⟩, hqs⟩
      exact ⟨t₁, hp, t₂, hrest, hqs⟩

/-- Over payments that went through, an account gains what flows in and loses what
flows out. -/
theorem balance_settle {payments : List Payment} (h : t.settle payments = .ok t')
    (mint account : Address) :
    (t'.balance mint account).toNat + Payment.outflow payments mint account =
      (t.balance mint account).toNat + Payment.inflow payments mint account := by
  induction payments generalizing t with
  | nil => rw [settle_nil h, Payment.outflow_nil, Payment.inflow_nil]
  | cons p rest ih =>
    obtain ⟨t₁, hp, hrest⟩ := bind_eq_ok_iff.mp h
    have hfirst := balance_transfer hp mint account
    have hlater := ih hrest
    rw [Payment.outflow_cons, Payment.inflow_cons]
    omega

/-- An account that holds less after payments has made one of them. -/
theorem payment_of_loss {payments : List Payment} (h : t.settle payments = .ok t')
    (hloss : (t'.balance mint account).toNat < (t.balance mint account).toNat) :
    ∃ p ∈ payments, p.mint = mint ∧ p.source = account := by
  by_contra hnone
  have hzero : Payment.outflow payments mint account = 0 := by
    refine List.sum_eq_zero_iff.mpr fun n hn => ?_
    obtain ⟨p, hp, rfl⟩ := List.mem_map.mp hn
    exact if_neg fun hkey => hnone ⟨p, hp, hkey⟩
  have hmoved := balance_settle h mint account
  omega

end TokenLedger
end EpochVoting
