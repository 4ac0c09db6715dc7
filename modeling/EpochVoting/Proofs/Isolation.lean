import EpochVoting.Proofs.Authority
import EpochVoting.Proofs.Footprints
import EpochVoting.Proofs.PoolSteps
import EpochVoting.Proofs.SameVoter

/-!
# Gauges, bribes and voters that an operation does not name

All gauges and bribes share one token ledger, often in the same mint, and all gauges share the
voters' snapshots.  Still an operation changes nothing of a gauge, a bribe or a voter that it
does not name: neither the records (`Engine.KeepsGauge`, `Engine.KeepsBribe`,
`Engine.KeepsVoter`) nor, as long as nobody else has a hand in the vaults, what is held for
them (`Step.balance_eq`).
-/

namespace EpochVoting

/-! ## Records of epochs -/

namespace Commitments

variable {c c' c'' : Commitments} {gauge voter : Address}

/-- A voter's flags of the fees of a gauge and an epoch. -/
def feeFlags? (c : Commitments) (voter gauge : Address) (epoch : Epoch) :
    Option FeeClaimFlags :=
  (c.snapshot? voter epoch).bind fun s => s.feeClaims.find? gauge

/-- A voter's closed allocation to a gauge in an epoch. -/
def closedAllocation? (c : Commitments) (voter gauge : Address) (epoch : Epoch) :
    Option ClosedAllocation :=
  (c.snapshot? voter epoch).bind fun s => s.closedAllocations.find? gauge

/-- What is read off the snapshots when one was written that says the same as what was there. -/
theorem snapshot?_bind_insert {β : Type} (f : Snapshot → Option β) {s : Snapshot}
    (h : c'.snapshots = c.snapshots.insert s)
    (hsame : f s = (c.snapshot? s.voter s.epoch).bind f) (voter : Address) (epoch : Epoch) :
    (c'.snapshot? voter epoch).bind f = (c.snapshot? voter epoch).bind f := by
  rw [snapshot?_insert h]
  by_cases hkey : s.voter = voter ∧ s.epoch = epoch
  · obtain ⟨rfl, rfl⟩ := hkey
    rw [if_pos ⟨rfl, rfl⟩, Option.bind_some, hsame]
  · rw [if_neg hkey]

theorem epochGauge?_insert_of_ne {r : EpochGauge} (h : c'.epochGauges = c.epochGauges.insert r)
    (hne : r.gauge ≠ gauge) (epoch : Epoch) :
    c'.epochGauge? gauge epoch = c.epochGauge? gauge epoch := by
  rw [epochGauge?_insert h, if_neg fun hkey => hne hkey.1]

theorem snapshot?_insert_of_ne {s : Snapshot} (h : c'.snapshots = c.snapshots.insert s)
    (hne : s.voter ≠ voter) (epoch : Epoch) :
    c'.snapshot? voter epoch = c.snapshot? voter epoch := by
  rw [snapshot?_insert h, if_neg fun hkey => hne hkey.1]

/-- All that the records of epochs say of a gauge is the same: its power and fees, the votes
for it, and what the snapshots have of it. -/
structure KeepsGauge (gauge : Address) (c c' : Commitments) : Prop where
  epochGauges : ∀ epoch, c'.epochGauge? gauge epoch = c.epochGauge? gauge epoch
  votes : ∀ voter epoch, c'.vote? voter gauge epoch = c.vote? voter gauge epoch
  feeFlags : ∀ voter epoch, c'.feeFlags? voter gauge epoch = c.feeFlags? voter gauge epoch
  closed : ∀ voter epoch,
    c'.closedAllocation? voter gauge epoch = c.closedAllocation? voter gauge epoch

/-- All that the records of epochs say of a voter is the same. -/
structure KeepsVoter (voter : Address) (c c' : Commitments) : Prop where
  snapshots : ∀ epoch, c'.snapshot? voter epoch = c.snapshot? voter epoch
  votes : ∀ gauge epoch, c'.vote? voter gauge epoch = c.vote? voter gauge epoch

theorem KeepsGauge.refl (gauge : Address) (c : Commitments) : c.KeepsGauge gauge c :=
  ⟨fun _ => rfl, fun _ _ => rfl, fun _ _ => rfl, fun _ _ => rfl⟩

theorem KeepsGauge.trans (h : c.KeepsGauge gauge c') (h' : c'.KeepsGauge gauge c'') :
    c.KeepsGauge gauge c'' where
  epochGauges epoch := (h'.epochGauges epoch).trans (h.epochGauges epoch)
  votes voter epoch := (h'.votes voter epoch).trans (h.votes voter epoch)
  feeFlags voter epoch := (h'.feeFlags voter epoch).trans (h.feeFlags voter epoch)
  closed voter epoch := (h'.closed voter epoch).trans (h.closed voter epoch)

theorem KeepsVoter.refl (voter : Address) (c : Commitments) : c.KeepsVoter voter c :=
  ⟨fun _ => rfl, fun _ _ => rfl⟩

theorem KeepsVoter.trans (h : c.KeepsVoter voter c') (h' : c'.KeepsVoter voter c'') :
    c.KeepsVoter voter c'' where
  snapshots epoch := (h'.snapshots epoch).trans (h.snapshots epoch)
  votes gauge epoch := (h'.votes gauge epoch).trans (h.votes gauge epoch)

/-- A snapshot is written that says of the gauge what the one before said. -/
theorem keepsGauge_of_snapshot {s s' : Snapshot}
    (hepochs : ∀ epoch, c'.epochGauge? gauge epoch = c.epochGauge? gauge epoch)
    (hvotes : ∀ voter epoch, c'.vote? voter gauge epoch = c.vote? voter gauge epoch)
    (hsnapshots : c'.snapshots = c.snapshots.insert s')
    (hs : c.snapshot? s'.voter s'.epoch = some s)
    (hflags : s'.feeClaims.find? gauge = s.feeClaims.find? gauge)
    (hclosed : s'.closedAllocations.find? gauge = s.closedAllocations.find? gauge) :
    c.KeepsGauge gauge c' where
  epochGauges := hepochs
  votes := hvotes
  feeFlags := by
    refine snapshot?_bind_insert (fun s => s.feeClaims.find? gauge) hsnapshots ?_
    rw [hs, Option.bind_some, hflags]
  closed := by
    refine snapshot?_bind_insert (fun s => s.closedAllocations.find? gauge) hsnapshots ?_
    rw [hs, Option.bind_some, hclosed]

end Commitments

namespace Engine

variable {e e' e'' : Engine} {gauge voter : Address} {id : UInt64}

/-- All that is recorded of a gauge is the same. -/
structure KeepsGauge (gauge : Address) (e e' : Engine) : Prop where
  record : e'.registry.gauges.find? gauge = e.registry.gauges.find? gauge
  epochs : e.commitments.KeepsGauge gauge e'.commitments

/-- All that is recorded of a bribe is the same. -/
structure KeepsBribe (id : UInt64) (e e' : Engine) : Prop where
  record : e'.bribes.bribes.find? id = e.bribes.bribes.find? id
  claims : ∀ voter epoch,
    e'.bribes.claims.find? (voter, id, epoch) = e.bribes.claims.find? (voter, id, epoch)
  clawbacks : ∀ epoch, e'.bribes.clawbacks.find? (id, epoch) = e.bribes.clawbacks.find? (id, epoch)

/-- All that is recorded of a voter is the same. -/
structure KeepsVoter (voter : Address) (e e' : Engine) : Prop where
  weights : e.weights.SameOf voter e'.weights
  epochs : e.commitments.KeepsVoter voter e'.commitments
  claims : ∀ id epoch,
    e'.bribes.claims.find? (voter, id, epoch) = e.bribes.claims.find? (voter, id, epoch)

theorem KeepsGauge.refl (gauge : Address) (e : Engine) : e.KeepsGauge gauge e :=
  ⟨rfl, .refl _ _⟩

theorem KeepsGauge.trans (h : e.KeepsGauge gauge e') (h' : e'.KeepsGauge gauge e'') :
    e.KeepsGauge gauge e'' :=
  ⟨h'.record.trans h.record, h.epochs.trans h'.epochs⟩

theorem KeepsBribe.refl (id : UInt64) (e : Engine) : e.KeepsBribe id e :=
  ⟨rfl, fun _ _ => rfl, fun _ => rfl⟩

theorem KeepsBribe.trans (h : e.KeepsBribe id e') (h' : e'.KeepsBribe id e'') :
    e.KeepsBribe id e'' where
  record := h'.record.trans h.record
  claims voter epoch := (h'.claims voter epoch).trans (h.claims voter epoch)
  clawbacks epoch := (h'.clawbacks epoch).trans (h.clawbacks epoch)

theorem KeepsVoter.refl (voter : Address) (e : Engine) : e.KeepsVoter voter e :=
  ⟨.refl _ _, .refl _ _, fun _ _ => rfl⟩

theorem KeepsVoter.trans (h : e.KeepsVoter voter e') (h' : e'.KeepsVoter voter e'') :
    e.KeepsVoter voter e'' where
  weights := h.weights.trans h'.weights
  epochs := h.epochs.trans h'.epochs
  claims id epoch := (h'.claims id epoch).trans (h.claims id epoch)

end Engine

namespace Deployment

open Engine

variable {d d' : Deployment} {operation : Operation} {reply : Reply} {c : Commitments}
  {gauge voter : Address} {id : UInt64}

/-! ## Steps -/

/-- What is written for other gauges says nothing of the gauge. -/
theorem EpochWrite.keepsGauge (h : EpochWrite d operation c) (hother : gauge ∉ operation.gauges) :
    d.engine.commitments.KeepsGauge gauge c := by
  open Commitments in
  cases h with
  | nothing => exact .refl _ _
  | taken hnone =>
    -- The voter had no snapshot, and the new one is empty.
    refine ⟨fun _ => rfl, fun _ _ => rfl, snapshot?_bind_insert _ rfl ?_,
      snapshot?_bind_insert _ rfl ?_⟩
    · exact (congrArg (Option.bind · _) hnone).symm
    · exact (congrArg (Option.bind · _) hnone).symm
  | @reset _ s _ hs =>
    refine keepsGauge_of_snapshot (s := s) (fun _ => rfl) (fun _ _ => rfl) rfl ?_ rfl rfl
    exact snapshot?_self hs
  | captured =>
    have hne := (List.ne_of_not_mem_cons hother).symm
    refine ⟨epochGauge?_insert_of_ne rfl ?_, fun _ _ => rfl, fun _ _ => rfl, fun _ _ => rfl⟩
    exact hne
  | @committed r s x gaugeTotal voterTotal hepoch hnone hr hs =>
    have hne := (List.ne_of_not_mem_cons hother).symm
    refine keepsGauge_of_snapshot (s := s) (epochGauge?_insert_of_ne rfl ?_)
      (fun voter epoch => ?_) rfl ?_ rfl rfl
    · exact (key_of_epochGauge? hr).1 ▸ hne
    · exact (vote?_insert rfl ..).trans (if_neg fun hkey => hne hkey.2.1)
    · exact snapshot?_self hs
  | @reverted _ _ r s x gaugeTotal voterTotal hepoch hx hr hs =>
    have hne := (List.ne_of_not_mem_cons hother).symm
    refine keepsGauge_of_snapshot (s := s) (epochGauge?_insert_of_ne rfl ?_)
      (fun voter epoch => ?_) rfl ?_ rfl rfl
    · exact (key_of_epochGauge? hr).1 ▸ hne
    · exact (vote?_erase rfl ..).trans (if_neg fun hkey => hne hkey.2.1)
    · exact snapshot?_self hs
  | @closed _ r s x gaugeClosed voterClosed helapsed hx hr hs =>
    have hne := (List.ne_of_not_mem_cons hother).symm
    refine keepsGauge_of_snapshot (s := s) (epochGauge?_insert_of_ne rfl ?_)
      (fun voter epoch => ?_) rfl ?_ rfl ?_
    · exact (key_of_epochGauge? hr).1 ▸ hne
    · exact (vote?_erase rfl ..).trans (if_neg fun hkey => hne hkey.2.1)
    · exact snapshot?_self hs
    · exact Table.find?_insert_of_ne hne
  | cleaned =>
    have hne := (List.ne_of_not_mem_cons hother).symm
    refine ⟨fun epoch => ?_, fun _ _ => rfl, fun _ _ => rfl, fun _ _ => rfl⟩
    exact (epochGauge?_erase rfl ..).trans (if_neg fun hkey => hne hkey.1)
  | @claimed _ _ _ _ _ s hs =>
    have hne := (List.ne_of_not_mem_cons hother).symm
    refine keepsGauge_of_snapshot (s := s) (fun _ => rfl) (fun _ _ => rfl) rfl ?_ ?_ rfl
    · exact snapshot?_self hs
    · exact Table.find?_insert_of_ne hne

/-- What is written for other voters says nothing of the voter. -/
theorem EpochWrite.keepsVoter (h : EpochWrite d operation c) (hother : voter ∉ operation.voters) :
    d.engine.commitments.KeepsVoter voter c := by
  open Commitments in
  cases h with
  | nothing | captured | cleaned => exact ⟨fun _ => rfl, fun _ _ => rfl⟩
  | taken =>
    exact ⟨snapshot?_insert_of_ne rfl (List.ne_of_not_mem_cons hother).symm, fun _ _ => rfl⟩
  | reset hs | claimed hs =>
    have hne := (List.ne_of_not_mem_cons hother).symm
    refine ⟨snapshot?_insert_of_ne rfl ?_, fun _ _ => rfl⟩
    exact (key_of_snapshot? hs).1 ▸ hne
  | committed _ _ _ hs =>
    have hne := (List.ne_of_not_mem_cons hother).symm
    refine ⟨snapshot?_insert_of_ne rfl ?_, fun gauge epoch => ?_⟩
    · exact (key_of_snapshot? hs).1 ▸ hne
    · exact (vote?_insert rfl ..).trans (if_neg fun hkey => hne hkey.1)
  | reverted _ _ _ hs | closed _ _ _ hs =>
    have hne := (List.ne_of_not_mem_cons hother).symm
    refine ⟨snapshot?_insert_of_ne rfl ?_, fun gauge epoch => ?_⟩
    · exact (key_of_snapshot? hs).1 ▸ hne
    · exact (vote?_erase rfl ..).trans (if_neg fun hkey => hne hkey.1)

/-- A step puts no gauge that its operation does not name. -/
theorem Step.gauge_eq (h : Step d operation reply d') (hother : gauge ∉ operation.gauges) :
    d'.engine.registry.gauges.find? gauge = d.engine.registry.gauges.find? gauge := by
  -- A gauge is put in the place of another one with the same name.
  have hput {old g : Gauge} {target : Address}
      (hold : d.engine.registry.gauges.find? target = some old) (hname : g.target = old.target)
      (hne : gauge ≠ target) :
      (d.engine.registry.put g).gauges.find? gauge = d.engine.registry.gauges.find? gauge := by
    refine Table.find?_insert_of_ne fun hkey => hne ?_
    exact hkey.symm.trans (hname.trans (Registry.target_of_find? hold))
  by_cases hwrites : Book.registry ∈ operation.writes
  case neg =>
    have hsame : d'.engine.registry = d.engine.registry := h.keeps .registry hwrites
    rw [hsame]
  case pos =>
    cases h with
    | createGauge hcall =>
      obtain ⟨-, rfl⟩ := createGauge_eq_ok_iff.mp hcall
      exact Table.find?_insert_of_ne (List.ne_of_not_mem_cons hother).symm
    | setGaugeEnabled hcall =>
      obtain ⟨g, hgauge, rfl⟩ := setGaugeEnabled_eq_ok hcall
      exact hput (g := { g with enabled := _ }) hgauge rfl (List.ne_of_not_mem_cons hother)
    | captured _ hgauge =>
      exact hput hgauge FeeCapture.apply_target (List.ne_of_not_mem_cons hother)
    | cleaned _ _ _ hgauge =>
      exact hput hgauge Gauge.setPruned_target (List.ne_of_not_mem_cons hother)
    | feePaid _ _ _ hgauge =>
      exact hput hgauge FeeClaim.applyToGauge_target (List.ne_of_not_mem_cons hother)
    | foundEpochGauge | unvotedFee => rfl
    | _ => simp [Operation.writes] at hwrites

theorem Step.keepsGauge (h : Step d operation reply d') (hother : gauge ∉ operation.gauges) :
    d.engine.KeepsGauge gauge d'.engine :=
  ⟨h.gauge_eq hother, h.epochWrite.keepsGauge hother⟩

/-- A step records a claim of the voter and the bribe that its operation names. -/
theorem Step.claims_eq (h : Step d operation reply d')
    (hother : voter ∉ operation.voters ∨ id ∉ operation.bribes d) (epoch : Epoch) :
    d'.engine.bribes.claims.find? (voter, id, epoch) =
      d.engine.bribes.claims.find? (voter, id, epoch) := by
  by_cases hwrites : Book.bribes ∈ operation.writes
  case neg =>
    have hsame : d'.engine.bribes = d.engine.bribes := h.keeps .bribes hwrites
    rw [hsame]
  case pos =>
    cases h with
    | bribeCreated => rfl
    | bribePaid _ _ _ hbribe hcheck _ hrecorded =>
      obtain ⟨rfl, rfl, rfl, -⟩ := (BribeLedger.checkClaim_eq_ok_iff hbribe).mp hcheck
      obtain ⟨total, -, rfl⟩ := (BribeLedger.recordClaim_eq_ok_iff hbribe).mp hrecorded
      refine Table.find?_insert_of_ne fun hkey => ?_
      obtain ⟨rfl, hrest⟩ := Prod.mk.inj hkey
      obtain ⟨rfl, -⟩ := Prod.mk.inj hrest
      exact hother.elim (fun hv => hv List.mem_cons_self) fun hb => hb List.mem_cons_self
    | bribeReturned _ hbribe hcheck _ hrecorded =>
      obtain ⟨rfl, -⟩ := (BribeLedger.checkClawback_eq_ok_iff hbribe).mp hcheck
      obtain ⟨total, -, rfl⟩ := (BribeLedger.recordClawback_eq_ok_iff hbribe).mp hrecorded
      rfl
    | _ => simp [Operation.writes] at hwrites

theorem Step.keepsBribe (h : Step d operation reply d') (hother : id ∉ operation.bribes d) :
    d.engine.KeepsBribe id d'.engine := by
  have hclaims (voter : Address) (epoch : Epoch) :
      d'.engine.bribes.claims.find? (voter, id, epoch) =
        d.engine.bribes.claims.find? (voter, id, epoch) :=
    h.claims_eq (Or.inr hother) epoch
  by_cases hwrites : Book.bribes ∈ operation.writes
  case neg =>
    have hsame : d'.engine.bribes = d.engine.bribes := h.keeps .bribes hwrites
    refine ⟨?_, hclaims, fun epoch => ?_⟩
    · rw [hsame]
    · rw [hsame]
  case pos =>
    cases h with
    | bribeCreated _ hid hbribe =>
      obtain ⟨-, rfl⟩ := Factory.nextBribeId_eq_ok_iff.mp hid
      obtain ⟨rfl, -⟩ := Bribe.prepare_eq_ok_iff.mp hbribe
      have hne := (List.ne_of_not_mem_cons hother).symm
      exact ⟨Table.find?_insert_of_ne hne, hclaims, fun _ => rfl⟩
    | bribePaid _ _ _ hbribe hcheck _ hrecorded =>
      obtain ⟨-, hid, -⟩ := (BribeLedger.checkClaim_eq_ok_iff hbribe).mp hcheck
      obtain ⟨total, -, rfl⟩ := (BribeLedger.recordClaim_eq_ok_iff (hid ▸ hbribe)).mp hrecorded
      obtain rfl := BribeLedger.id_of_find? hbribe
      have hne := (List.ne_of_not_mem_cons hother).symm
      exact ⟨Table.find?_insert_of_ne hne, hclaims, fun _ => rfl⟩
    | bribeReturned _ hbribe hcheck _ hrecorded =>
      obtain ⟨rfl, -⟩ := (BribeLedger.checkClawback_eq_ok_iff hbribe).mp hcheck
      obtain ⟨total, -, rfl⟩ := (BribeLedger.recordClawback_eq_ok_iff hbribe).mp hrecorded
      obtain rfl := BribeLedger.id_of_find? hbribe
      have hne := (List.ne_of_not_mem_cons hother).symm
      refine ⟨Table.find?_insert_of_ne hne, hclaims, fun epoch => ?_⟩
      exact Table.find?_insert_of_ne fun hkey => hne (Prod.mk.inj hkey).1
    | _ => simp [Operation.writes] at hwrites

theorem Step.keepsVoter (h : Step d operation reply d') (hother : voter ∉ operation.voters) :
    d.engine.KeepsVoter voter d'.engine where
  weights := by
    refine (h.weights_cases voter).resolve_right ?_
    rintro ⟨⟨_, _, _, rfl⟩, -⟩
    exact hother List.mem_cons_self
  epochs := h.epochWrite.keepsVoter hother
  claims id epoch := h.claims_eq (Or.inl hother) epoch

/-! ## Operations -/

theorem keepsGauge_after (hother : gauge ∉ operation.gauges) :
    d.engine.KeepsGauge gauge (d.after operation).engine := by
  refine (kept_unless (P := d.engine.KeepsGauge gauge) (Q := fun _ call => gauge ∈ call.gauges)
    (fun {x call _ _} hstep hkept => ?_) ?_ (.refl _ _)).resolve_right hother
  · by_cases hnamed : gauge ∈ call.gauges
    · exact Or.inr hnamed
    · exact Or.inl (hkept.trans (hstep.keepsGauge hnamed))
  · exact fun _ part hmade hnamed => hother (hmade.gauges_subset hnamed)

theorem keepsBribe_after (hother : id ∉ operation.bribes d) :
    d.engine.KeepsBribe id (d.after operation).engine := by
  refine (kept_unless (P := d.engine.KeepsBribe id) (Q := fun x call => id ∈ call.bribes x)
    (fun {x call _ _} hstep hkept => ?_) ?_ (.refl _ _)).resolve_right hother
  · by_cases hnamed : id ∈ call.bribes x
    · exact Or.inr hnamed
    · exact Or.inl (hkept.trans (hstep.keepsBribe hnamed))
  · intro x part hmade hnamed
    rw [hmade.bribes_eq_nil x] at hnamed
    cases hnamed

theorem keepsVoter_after (hother : voter ∉ operation.voters) :
    d.engine.KeepsVoter voter (d.after operation).engine := by
  refine (kept_unless (P := d.engine.KeepsVoter voter) (Q := fun _ call => voter ∈ call.voters)
    (fun {x call _ _} hstep hkept => ?_) ?_ (.refl _ _)).resolve_right hother
  · by_cases hnamed : voter ∈ call.voters
    · exact Or.inr hnamed
    · exact Or.inl (hkept.trans (hstep.keepsVoter hnamed))
  · exact fun _ part hmade hnamed => hother (hmade.voters_subset hnamed)

end Deployment

/-! ## Accounts -/

namespace TokenLedger

/-- Payments between other accounts leave a balance as it is. -/
theorem balance_eq_of_settle {t t' : TokenLedger} {payments : List Payment} {account : Address}
    (h : t.settle payments = .ok t')
    (hother : ∀ p ∈ payments, p.source ≠ account ∧ p.target ≠ account) (mint : Address) :
    t'.balance mint account = t.balance mint account := by
  induction payments generalizing t with
  | nil => rw [settle_nil h]
  | cons p rest ih =>
    obtain ⟨t₁, hp, hrest⟩ := bind_eq_ok_iff.mp h
    obtain ⟨hfirst, hlater⟩ := List.forall_mem_cons.mp hother
    have hmoved := balance_transfer hp mint account
    rw [if_neg fun hkey => hfirst.1 hkey.2, if_neg fun hkey => hfirst.2 hkey.2] at hmoved
    exact (ih hrest hlater).trans (UInt64.toNat_inj.mp hmoved)

/-- New tokens of another account leave a balance as it is. -/
theorem balance_eq_of_issue {t t' : TokenLedger} {issued receiver account : Address}
    {amount : UInt64} (h : t.issue issued receiver amount = .ok t') (hother : receiver ≠ account)
    (mint : Address) : t'.balance mint account = t.balance mint account := by
  have hgain := balance_issue h mint account
  rw [if_neg fun hkey => hother hkey.2] at hgain
  exact UInt64.toNat_inj.mp hgain

end TokenLedger

namespace Custody

variable {c : Custody} {target other : Address}

/-- The target that an account belongs to. -/
def target? : Custody → Option Address
  | feeVault target _ | poolFees target _ => some target
  | bribeVault _ => none

theorem target?_of_mem (h : c ∈ ofTarget target) : c.target? = some target := by
  simp only [ofTarget, List.mem_cons, List.not_mem_nil, or_false] at h
  rcases h with rfl | rfl | rfl | rfl <;> rfl

/-- An account of a target belongs to no other. -/
theorem target_unique (h : c ∈ ofTarget target) (h' : c ∈ ofTarget other) : target = other :=
  Option.some.inj ((target?_of_mem h).symm.trans (target?_of_mem h'))

/-- The vault of a bribe belongs to no target. -/
theorem bribeVault_not_mem_ofTarget (id : UInt64) : bribeVault id ∉ ofTarget target :=
  fun h => nomatch target?_of_mem h

end Custody

namespace Operation

/-- The operation may move tokens of the account in custody. -/
def Handles (d : Deployment) : Operation → Custody → Prop
  | .ensureEpochGauge target _, c => c ∈ Custody.ofTarget target
  | .voteEpoch _ gauges, c => ∃ target ∈ gauges, c ∈ Custody.ofTarget target
  | .claimFee _ _ target _ side, c => c = .feeVault target side
  | .accrueFees target side _, c | .accruePool target side _ _, c => c = .poolFees target side
  | .createBribe .., c => c = .bribeVault d.engine.factory.bribeCount
  | .claimBribe _ _ id _, c | .clawBackBribe _ id _, c => c = .bribeVault id
  | _, _ => False

variable {d : Deployment} {part operation : Operation} {c : Custody}

/-- The calls of an operation handle no accounts that it does not handle. -/
theorem Makes.handles {d' : Deployment} (h : operation.Makes part) (hhandles : part.Handles d' c) :
    operation.Handles d c := by
  cases h with
  | commit hpart =>
    cases hpart with
    | record hgauge => exact ⟨_, hgauge, hhandles⟩
    | commit => cases hhandles
  | _ => cases hhandles

/-- The accounts of a gauge are handled by operations that name it. -/
theorem Handles.gauge_mem {gauge : Address} (h : operation.Handles d c)
    (hc : c ∈ Custody.ofTarget gauge) : gauge ∈ operation.gauges := by
  cases operation with
  | ensureEpochGauge target => exact List.mem_singleton.mpr (Custody.target_unique hc h)
  | voteEpoch voter gauges =>
    obtain ⟨target, htarget, hc'⟩ := h
    exact Custody.target_unique hc' hc ▸ htarget
  | claimFee _ _ target _ side =>
    obtain rfl : c = _ := h
    exact List.mem_singleton.mpr
      (Custody.target_unique hc (Custody.feeVault_mem_ofTarget target side))
  | accrueFees target side | accruePool target side =>
    obtain rfl : c = _ := h
    exact List.mem_singleton.mpr
      (Custody.target_unique hc (Custody.poolFees_mem_ofTarget target side))
  | createBribe | claimBribe | clawBackBribe =>
    obtain rfl : c = _ := h
    exact absurd hc (Custody.bribeVault_not_mem_ofTarget _)
  | _ => cases h

/-- The vault of a bribe is handled by operations that name it. -/
theorem Handles.bribe_mem {id : UInt64} (h : operation.Handles d (.bribeVault id)) :
    id ∈ operation.bribes d := by
  cases operation with
  | ensureEpochGauge => exact absurd h (Custody.bribeVault_not_mem_ofTarget id)
  | voteEpoch =>
    obtain ⟨_, -, hc⟩ := h
    exact absurd hc (Custody.bribeVault_not_mem_ofTarget id)
  | createBribe | claimBribe | clawBackBribe =>
    cases h
    exact List.mem_cons_self
  | _ => cases h

/-- An operation for a bribe handles no accounts of gauges. -/
theorem not_handles_of_bribes {gauge : Address} (h : operation.bribes d ≠ [])
    (hc : c ∈ Custody.ofTarget gauge) : ¬ operation.Handles d c := by
  cases operation with
  | createBribe | claimBribe | clawBackBribe =>
    rintro rfl
    exact Custody.bribeVault_not_mem_ofTarget _ hc
  | _ => exact absurd rfl h

end Operation

namespace Deployment

open Engine

variable {S : Set Custody} {d d' : Deployment} {operation : Operation} {reply : Reply}
  {c : Custody}

/-- A step moves tokens of no account in custody that its operation does not handle. -/
theorem Step.balance_eq (h : Step d operation reply d') (hS : Set.InjOn Custody.address S)
    (hguarded : Guarded S d) (hop : operation.Guarded S d) (hc : c ∈ S)
    (hother : ¬ operation.Handles d c) (mint : Address) :
    d'.tokens.balance mint c.address = d.tokens.balance mint c.address := by
  -- Another account of `S` has another address, and so has one that is not of `S`.
  have hapart {c' : Custody} (hc' : c' ∈ S) (hne : c ≠ c') : c'.address ≠ c.address :=
    fun heq => hne (hS hc' hc heq).symm
  have houtside {account : Address} (haccount : Outside S account) : account ≠ c.address :=
    (haccount c hc).symm
  by_cases hvoting : operation.isVoting = true
  · obtain ⟨-, htokens, -⟩ := h.sameBooks hvoting
    rw [htokens]
  cases h with
  | advanceEpoch | setForeman | setEpochDuration | setVote | takeSnapshot | resetSnapshot
  | commit | revert | close => exact absurd rfl hvoting
  | @captured target epoch g capture tokens hlive hgauge henabled hnone hcapture hpaid =>
    obtain rfl := Registry.target_of_find? hgauge
    have hpayment (side : FeeSide) : (capture.payment g side).source ≠ c.address ∧
        (capture.payment g side).target ≠ c.address := by
      have hpool := Custody.poolFees_mem_ofTarget g.target side
      have hvault := Custody.feeVault_mem_ofTarget g.target side
      refine ⟨hapart (hguarded.gauges _ g hgauge _ hpool) ?_,
        hapart (hguarded.gauges _ g hgauge _ hvault) ?_⟩
      · rintro rfl
        exact hother hpool
      · rintro rfl
        exact hother hvault
    refine TokenLedger.balance_eq_of_settle hpaid (fun p hp => ?_) mint
    rcases List.mem_append.mp hp with hp | hp
    · exact Payment.mem_due hp ▸ hpayment .a
    · exact Payment.mem_due hp ▸ hpayment .b
  | @feePaid authority voter target epoch side lock g record snapshot claim tokens hlock _ _ hgauge
      _ _ hclaim hpaid =>
    obtain ⟨-, -, a, -, rfl, -⟩ := FeeClaim.compute_eq_ok_some_iff.mp hclaim
    obtain rfl := Registry.target_of_find? hgauge
    have hvault := hguarded.gauges _ g hgauge _ (Custody.feeVault_mem_ofTarget g.target claim.side)
    refine TokenLedger.balance_eq_of_settle hpaid (fun p hp => ?_) mint
    obtain rfl := Payment.mem_due hp
    exact ⟨hapart hvault hother, houtside (hguarded.owners _ _ hlock)⟩
  | @bribeCreated briber target mint' reward epochEnd g id b escrowed tokens _ hid hbribe _ hpaid =>
    obtain ⟨-, rfl⟩ := Factory.nextBribeId_eq_ok_iff.mp hid
    obtain ⟨rfl, -⟩ := Bribe.prepare_eq_ok_iff.mp hbribe
    have hbriber := hop.outsiders briber (List.mem_singleton.mpr rfl)
    refine TokenLedger.balance_eq_of_settle hpaid (fun p hp => ?_) mint
    obtain rfl := List.mem_singleton.mp hp
    exact ⟨houtside hbriber, hapart (hop.bribe (Nat.succ_ne_zero 0)) hother⟩
  | bribePaid hlock _ _ hbribe _ hpaid =>
    obtain rfl := BribeLedger.id_of_find? hbribe
    refine TokenLedger.balance_eq_of_settle hpaid (fun p hp => ?_) mint
    obtain rfl := Payment.mem_due hp
    exact ⟨hapart (hguarded.bribes _ _ hbribe).1 hother, houtside (hguarded.owners _ _ hlock)⟩
  | bribeReturned _ hbribe _ hpaid =>
    obtain rfl := BribeLedger.id_of_find? hbribe
    obtain ⟨hvault, hbriber⟩ := hguarded.bribes _ _ hbribe
    refine TokenLedger.balance_eq_of_settle hpaid (fun p hp => ?_) mint
    obtain rfl := List.mem_singleton.mp hp
    exact ⟨hapart hvault hother, houtside hbriber⟩
  | @accrueFees target side amount g pool tokens hgauge hearned =>
    have hpool := hguarded.gauges target g hgauge _ (Custody.poolFees_mem_ofTarget target side)
    obtain ⟨hissued, -⟩ := FeePool.accrue_eq_ok hearned
    exact TokenLedger.balance_eq_of_issue hissued (hapart hpool hother) mint
  | @accruePool target side mint' amount pool tokens hearned =>
    have hpool := hop.targets target (List.mem_singleton.mpr rfl) _
      (Custody.poolFees_mem_ofTarget target side)
    obtain ⟨hissued, -⟩ := FeePool.accrue_eq_ok hearned
    exact TokenLedger.balance_eq_of_issue hissued (hapart hpool hother) mint
  | fund hissued =>
    have haccount := hop.outsiders _ (List.mem_singleton.mpr rfl)
    exact TokenLedger.balance_eq_of_issue hissued (houtside haccount) mint
  | @transfer mint' source target amount tokens hmoved =>
    have hsource := hop.outsiders source List.mem_cons_self
    have htarget := hop.outsiders target (List.mem_cons_of_mem _ List.mem_cons_self)
    have hpaid : d.tokens.settle [⟨mint', source, target, amount⟩] = .ok tokens :=
      TokenLedger.settle_singleton.mpr hmoved
    refine TokenLedger.balance_eq_of_settle hpaid (fun p hp => ?_) mint
    obtain rfl := List.mem_singleton.mp hp
    exact ⟨houtside hsource, houtside htarget⟩
  | _ => rfl

theorem balance_after_part (h : InCustody S d) (hS : Set.InjOn Custody.address S)
    (hbasic : operation.isBasic = true) (hop : operation.Guarded S d) (hc : c ∈ S)
    (hother : ¬ operation.Handles d c) (mint : Address) :
    (d.after operation).tokens.balance mint c.address = d.tokens.balance mint c.address := by
  rcases after_cases (d := d) hbasic with hsame | ⟨_, hstep⟩ | ⟨_, hhalf⟩
  · rw [hsame]
  · exact hstep.balance_eq hS h.guarded hop hc hother mint
  · exact absurd hhalf (h.solvent.not_interrupted hS h.guarded)

/-- An operation moves tokens of no account in custody that it does not handle. -/
theorem balance_after (h : InCustody S d) (hS : Set.InjOn Custody.address S)
    (hop : operation.Guarded S d) (hc : c ∈ S) (hother : ¬ operation.Handles d c)
    (mint : Address) :
    (d.after operation).tokens.balance mint c.address = d.tokens.balance mint c.address := by
  by_cases hbasic : operation.isBasic = true
  · exact balance_after_part h hS hbasic hop hc hother mint
  refine (after_induction (P := fun x => InCustody S x ∧
    x.tokens.balance mint c.address = d.tokens.balance mint c.address)
    (Bool.not_eq_true _ ▸ hbasic) ?_ ⟨h, rfl⟩).2
  rintro part hmade x ⟨hx, hkept⟩
  have hguarded := hmade.guarded hop x
  refine ⟨hx.after hS hmade.isPart.1 hguarded, ?_⟩
  rw [← hkept]
  exact balance_after_part hx hS hmade.isPart.1 hguarded hc
    (fun hhandles => hother (hmade.handles hhandles)) mint

/-! ## Isolation -/

/-- The fee vaults and the pool accounts of a registered gauge hold what they held. -/
def KeepsFunds (gauge : Address) (d d' : Deployment) : Prop :=
  ∀ g, d.engine.registry.gauges.find? gauge = some g → ∀ side mint,
    d'.tokens.balance mint (Account.feeVault gauge side) =
        d.tokens.balance mint (Account.feeVault gauge side) ∧
      d'.tokens.balance mint (Account.poolFees gauge side) =
        d.tokens.balance mint (Account.poolFees gauge side)

/-- What is not named stays as it is. -/
structure Isolated (d : Deployment) (operation : Operation) : Prop where
  /-- Nothing that is recorded of another gauge changes, no voter's flags and closed allocations
  of that gauge included, and nothing that is held for it. -/
  gauges : ∀ gauge ∉ operation.gauges,
    d.engine.KeepsGauge gauge (d.after operation).engine ∧ d.KeepsFunds gauge (d.after operation)
  /-- Snapshots keep what they were taken with, but for the one that is taken anew.  A first one
  is taken by its call and by voting. -/
  terms : ∀ voter epoch,
    ((d.after operation).engine.commitments.snapshot? voter epoch).map Snapshot.terms =
        (d.engine.commitments.snapshot? voter epoch).map Snapshot.terms ∨
      epoch = d.engine.currentEpoch ∧ (operation = .resetSnapshot voter ∨
        d.engine.commitments.snapshot? voter epoch = none ∧
          (operation = .takeSnapshot voter ∨ ∃ gauges, operation = .voteEpoch voter gauges))
  /-- Nothing that is recorded of another bribe changes, and nothing that its vault holds. -/
  bribes : ∀ id ∉ operation.bribes d, d.engine.KeepsBribe id (d.after operation).engine ∧
    ∀ b, d.engine.bribes.bribes.find? id = some b → ∀ mint,
      (d.after operation).tokens.balance mint b.vault = d.tokens.balance mint b.vault
  /-- Creating and settling bribes changes no records of gauges and epochs, those of the bribed
  gauge included, and nothing that is held for gauges. -/
  bribeCalls : operation.bribes d ≠ [] →
    (d.after operation).engine.registry = d.engine.registry ∧
      (d.after operation).engine.commitments = d.engine.commitments ∧
      ∀ gauge, d.KeepsFunds gauge (d.after operation)
  /-- Nothing that is recorded of another voter changes. -/
  voters : ∀ voter ∉ operation.voters, d.engine.KeepsVoter voter (d.after operation).engine

theorem keepsFunds_after (h : InCustody S d) (hS : Set.InjOn Custody.address S)
    (hop : operation.Guarded S d) {gauge : Address}
    (hother : ∀ c ∈ Custody.ofTarget gauge, ¬ operation.Handles d c) :
    d.KeepsFunds gauge (d.after operation) := by
  intro g hgauge side mint
  have hvault := Custody.feeVault_mem_ofTarget gauge side
  have hpool := Custody.poolFees_mem_ofTarget gauge side
  exact ⟨balance_after h hS hop (h.guarded.gauges _ g hgauge _ hvault) (hother _ hvault) mint,
    balance_after h hS hop (h.guarded.gauges _ g hgauge _ hpool) (hother _ hpool) mint⟩

/-- The calls that take a snapshot, as far as there was none, and anew. -/
theorem TakesSnapshot.cases {voter : Address} (h : d.TakesSnapshot voter operation) :
    operation = .resetSnapshot voter ∨
      d.engine.commitments.snapshot? voter d.engine.currentEpoch = none ∧
        (operation = .takeSnapshot voter ∨ ∃ gauges, operation = .voteEpoch voter gauges) := by
  have hfirst (htaken : ∃ d', (takeSnapshot voter).run d = .ok true d') :
      d.engine.commitments.snapshot? voter d.engine.currentEpoch = none := by
    obtain ⟨d', hrun⟩ := htaken
    rcases takeSnapshot_cases hrun with ⟨hfalse, -⟩ | ⟨-, hnone, -⟩
    · cases hfalse
    · exact hnone
  cases operation with
  | takeSnapshot v =>
    obtain ⟨rfl, htaken⟩ := h
    exact Or.inr ⟨hfirst htaken, Or.inl rfl⟩
  | voteEpoch v gauges =>
    obtain ⟨rfl, htaken⟩ := h
    exact Or.inr ⟨hfirst htaken, Or.inr ⟨gauges, rfl⟩⟩
  | resetSnapshot v =>
    obtain ⟨rfl, -⟩ := h
    exact Or.inl rfl
  | _ => exact h.elim

/-- With everything in custody, a guarded operation leaves alone what it does not name. -/
theorem InCustody.isolated (h : InCustody S d) (hS : Set.InjOn Custody.address S)
    (hop : operation.Guarded S d) : d.Isolated operation where
  gauges gauge hother :=
    ⟨keepsGauge_after hother,
      keepsFunds_after h hS hop fun _ hc hhandles => hother (hhandles.gauge_mem hc)⟩
  terms voter epoch := by
    by_cases htakes : d.engine.currentEpoch = epoch ∧ d.TakesSnapshot voter operation
    · obtain ⟨rfl, htakes⟩ := htakes
      exact Or.inr ⟨rfl, htakes.cases⟩
    · exact Or.inl (terms_of_changes (keepsSnapshot_of_not_taken htakes))
  bribes id hother := by
    refine ⟨keepsBribe_after hother, fun b hbribe mint => ?_⟩
    obtain rfl := BribeLedger.id_of_find? hbribe
    exact balance_after h hS hop (h.guarded.bribes _ _ hbribe).1
      (fun hhandles => hother hhandles.bribe_mem) mint
  bribeCalls hbribes := by
    have hwrites : Book.registry ∉ operation.writes ∧ Book.commitments ∉ operation.writes := by
      cases operation with
      | createBribe | claimBribe | clawBackBribe => simp [Operation.writes]
      | _ => exact absurd rfl hbribes
    exact ⟨frame d operation .registry hwrites.1, frame d operation .commitments hwrites.2,
      fun gauge => keepsFunds_after h hS hop fun _ => Operation.not_handles_of_bribes hbribes⟩
  voters voter hother := keepsVoter_after hother

/-- Wherever a segregated run has led, its next operation leaves alone the gauges, the bribes and
the voters that it does not name. -/
theorem isolated_along_run {foreman : Address} {params : FactoryParams} {maxLockSecs : UInt64}
    (hcreate : create foreman params maxLockSecs = .ok d) {done : List Operation}
    (hrun : Segregated (done ++ [operation])) : (d.afterAll done).Isolated operation :=
  (hrun.inCustody (List.prefix_append done [operation]) hcreate).isolated hrun.injOn
    (hrun.guarded hcreate)

end Deployment

namespace Sample

open Deployment

/-- Two gauges that earn fees in the same mint, and a bribe in that mint for the second. -/
def sharing : List Operation :=
  [.addGauge (account 1) ⟨account 2, account 3⟩, .addGauge (account 7) ⟨account 2, account 3⟩,
    .fund (account 2) (account 6) 20, .createBribe (account 6) (account 7) (account 2) 20 2,
    .accrueFees (account 1) .a 30, .accrueFees (account 7) .a 70]

/-- Capturing the fees of the first gauge leaves the second gauge's in the pool. -/
theorem isolated_sharing :
    (deployment.afterAll sharing).Isolated (.ensureEpochGauge (account 1) none) ∧
      ((deployment.afterAll sharing).after (.ensureEpochGauge (account 1) none)).tokens.balance
        (account 2) (Account.poolFees (account 7) .a) = 70 := by
  have hstate : Segregated (sharing ++ [.ensureEpochGauge (account 1) none]) ∧
      ((deployment.afterAll sharing).engine.registry.gauges.find? (account 7)).isSome = true ∧
      (deployment.afterAll sharing).tokens.balance (account 2)
        (Account.poolFees (account 7) .a) = 70 := by
    decide +kernel
  obtain ⟨hrun, hfound, hheld⟩ := hstate
  obtain ⟨g, hgauge⟩ := Option.isSome_iff_exists.mp hfound
  have hisolated := isolated_along_run create_deployment hrun
  obtain ⟨-, hfunds⟩ := hisolated.gauges (account 7) (by decide)
  exact ⟨hisolated, (hfunds g hgauge .a (account 2)).2.trans hheld⟩

end Sample
end EpochVoting
