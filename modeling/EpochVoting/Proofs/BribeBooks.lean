import EpochVoting.Proofs.Finality
import EpochVoting.Proofs.Settlement

/-!
# The books of the bribes

A claim stands for a part of the reward of an elapsed epoch with power, a clawback for
the whole reward of an elapsed epoch without.  Power of an elapsed epoch is final, so no
epoch has both.  The running totals of a bribe are the sums of its claims and of its
clawbacks, and its terms are never written again (`Change.bribesSound`,
`Change.keepsTerms`).
-/

namespace EpochVoting

variable {e e' : Engine} {c c' : Commitments} {now later : Epoch}

/-! ## Terms -/

/-- The bribe with other running totals. -/
def Bribe.withTotals (b : Bribe) (claimed clawedBack : UInt64) : Bribe :=
  { b with claimedAmount := claimed, clawedBackAmount := clawedBack }

namespace BribeLedger

variable {l l' l'' : BribeLedger}

/-- Every bribe is still there, with the terms it was created with. -/
def KeepsTerms (l l' : BribeLedger) : Prop :=
  ∀ id b, l.bribes.find? id = some b →
    ∃ claimed clawedBack, l'.bribes.find? id = some (b.withTotals claimed clawedBack)

theorem KeepsTerms.refl (l : BribeLedger) : l.KeepsTerms l :=
  fun _ b hb => ⟨b.claimedAmount, b.clawedBackAmount, hb⟩

theorem KeepsTerms.trans (h : l.KeepsTerms l') (h' : l'.KeepsTerms l'') :
    l.KeepsTerms l'' := by
  intro id b hb
  obtain ⟨_, _, hb'⟩ := h id b hb
  obtain ⟨claimed, clawedBack, hb''⟩ := h' id _ hb'
  exact ⟨claimed, clawedBack, hb''⟩

/-- New totals are no new terms. -/
theorem keepsTerms_insert {id claimed clawedBack : UInt64} {b : Bribe}
    (hb : l.bribes.find? id = some b)
    (h : l'.bribes = l.bribes.insert (b.withTotals claimed clawedBack)) :
    l.KeepsTerms l' := by
  obtain rfl := id_of_find? hb
  intro id' b' hb'
  rw [h, Table.find?_insert_ite]
  by_cases hkey : b.id = id'
  · subst hkey
    rw [hb] at hb'
    cases hb'
    exact ⟨claimed, clawedBack, if_pos rfl⟩
  · exact ⟨b'.claimedAmount, b'.clawedBackAmount, by
      rw [show (if Keyed.key (b.withTotals claimed clawedBack) = id' then _ else _) = _ from
        if_neg hkey]
      exact hb'⟩

/-! ## Settlements -/

/-- What was claimed of a bribe. -/
def claimedOf (l : BribeLedger) (id : UInt64) : Nat :=
  l.claims.total fun k => if k.bribe = id then k.amount.toNat else 0

/-- What was clawed back of a bribe. -/
def clawedBackOf (l : BribeLedger) (id : UInt64) : Nat :=
  l.clawbacks.total fun k => if k.bribe = id then k.amount.toNat else 0

end BribeLedger

/-- A claim on a bribe that the records bear out. -/
structure BribeClaim.Sound (k : BribeClaim) (b : Bribe) (c : Commitments) (now : Epoch) :
    Prop where
  covers : b.covers k.epoch = true
  elapsed : k.epoch < now
  power_ne_zero : c.power b.gauge k.epoch ≠ 0
  allocation : ∃ a, c.allocation? k.voter b.gauge k.epoch = some a
  amount_eq : k.amount.toNat = b.rewardPerEpoch.toNat *
    c.allocationOf k.voter b.gauge k.epoch / c.power b.gauge k.epoch

/-- A clawback of a bribe that the records bear out. -/
structure BribeClawback.Sound (k : BribeClawback) (b : Bribe) (c : Commitments)
    (now : Epoch) : Prop where
  covers : b.covers k.epoch = true
  elapsed : k.epoch < now
  power_eq_zero : c.power b.gauge k.epoch = 0
  amount_eq : k.amount = b.rewardPerEpoch

/-- Terms that a bribe can have been created with. -/
structure Bribe.Sound (b : Bribe) : Prop where
  reward_ne_zero : b.rewardPerEpoch ≠ 0
  start_lt : b.epochStart < b.epochEnd
  escrow_lt : b.rewardPerEpoch.toNat * b.numEpochs.toNat < 2 ^ 64

open Commitments in
theorem BribeClaim.Sound.agree {k : BribeClaim} {b : Bribe} (h : k.Sound b c now)
    (hagree : AgreeBefore now c c') (hle : now ≤ later) : k.Sound b c' later where
  covers := h.covers
  elapsed := UInt32.lt_of_lt_of_le h.elapsed hle
  power_ne_zero := by
    rw [hagree.power b.gauge k.epoch h.elapsed]
    exact h.power_ne_zero
  allocation := by
    rw [hagree.allocation k.voter b.gauge k.epoch h.elapsed]
    exact h.allocation
  amount_eq := by
    rw [hagree.power b.gauge k.epoch h.elapsed, hagree.allocationOf h.elapsed]
    exact h.amount_eq

open Commitments in
theorem BribeClawback.Sound.agree {k : BribeClawback} {b : Bribe} (h : k.Sound b c now)
    (hagree : AgreeBefore now c c') (hle : now ≤ later) : k.Sound b c' later where
  covers := h.covers
  elapsed := UInt32.lt_of_lt_of_le h.elapsed hle
  power_eq_zero := by
    rw [hagree.power b.gauge k.epoch h.elapsed]
    exact h.power_eq_zero
  amount_eq := h.amount_eq

/-- What a settlement says does not depend on the totals of its bribe. -/
theorem BribeClaim.Sound.withTotals {k : BribeClaim} {b : Bribe} (h : k.Sound b c now)
    (claimed clawedBack : UInt64) : k.Sound (b.withTotals claimed clawedBack) c now :=
  ⟨h.covers, h.elapsed, h.power_ne_zero, h.allocation, h.amount_eq⟩

theorem BribeClawback.Sound.withTotals {k : BribeClawback} {b : Bribe} (h : k.Sound b c now)
    (claimed clawedBack : UInt64) : k.Sound (b.withTotals claimed clawedBack) c now :=
  ⟨h.covers, h.elapsed, h.power_eq_zero, h.amount_eq⟩

namespace Engine

/-- The bribes, their settlements and their totals agree with each other and with the
records of epochs. -/
structure BribesSound (e : Engine) : Prop where
  ids : ∀ id, (∃ b, e.bribes.bribes.find? id = some b) ↔ id < e.factory.bribeCount
  terms : ∀ b ∈ e.bribes.bribes.records, b.Sound
  claims : ∀ k ∈ e.bribes.claims.records, ∃ b, e.bribes.bribes.find? k.bribe = some b ∧
    k.Sound b e.commitments e.currentEpoch
  clawbacks : ∀ k ∈ e.bribes.clawbacks.records, ∃ b,
    e.bribes.bribes.find? k.bribe = some b ∧ k.Sound b e.commitments e.currentEpoch
  claimed_eq : ∀ id b, e.bribes.bribes.find? id = some b →
    b.claimedAmount.toNat = e.bribes.claimedOf id
  clawedBack_eq : ∀ id b, e.bribes.bribes.find? id = some b →
    b.clawedBackAmount.toNat = e.bribes.clawedBackOf id

open Commitments BribeLedger

theorem totalPower_toNat (e : Engine) (gauge : Address) (epoch : Epoch) :
    (e.totalPower gauge epoch).toNat = e.commitments.power gauge epoch := by
  unfold totalPower power
  cases e.commitments.epochGauge? gauge epoch <;> rfl

/-- A change that leaves the bribes as they are. -/
theorem BribesSound.keep (h : e.BribesSound) (hbribes : e'.bribes = e.bribes)
    (hcount : e'.factory.bribeCount = e.factory.bribeCount)
    (hagree : AgreeBefore e.currentEpoch e.commitments e'.commitments)
    (hle : e.currentEpoch ≤ e'.currentEpoch) : e'.BribesSound := by
  constructor
  case ids =>
    rw [hbribes, hcount]
    exact h.ids
  case terms =>
    rw [hbribes]
    exact h.terms
  case claims =>
    rw [hbribes]
    intro k hk
    obtain ⟨b, hb, hsound⟩ := h.claims k hk
    exact ⟨b, hb, hsound.agree hagree hle⟩
  case clawbacks =>
    rw [hbribes]
    intro k hk
    obtain ⟨b, hb, hsound⟩ := h.clawbacks k hk
    exact ⟨b, hb, hsound.agree hagree hle⟩
  case claimed_eq =>
    rw [hbribes]
    exact h.claimed_eq
  case clawedBack_eq =>
    rw [hbribes]
    exact h.clawedBack_eq

/-- The id that a new bribe gets is free. -/
theorem BribesSound.next_id_free {id : UInt64} (h : e.BribesSound)
    (hid : e.factory.nextBribeId = .ok id) : e.bribes.bribes.find? id = none := by
  obtain ⟨-, rfl⟩ := Factory.nextBribeId_eq_ok_iff.mp hid
  cases hfound : e.bribes.bribes.find? e.factory.bribeCount with
  | none => rfl
  | some b =>
    have hlt := (h.ids e.factory.bribeCount).mp ⟨b, hfound⟩
    exact absurd hlt (UInt64.lt_irrefl _)

/-- Nothing has been settled of a bribe that is not there. -/
theorem BribesSound.no_settlements {id : UInt64} (h : e.BribesSound)
    (hnone : e.bribes.bribes.find? id = none) :
    e.bribes.claimedOf id = 0 ∧ e.bribes.clawedBackOf id = 0 := by
  constructor
  · refine Table.total_eq_zero_iff.mpr fun k hk => if_neg ?_
    rintro rfl
    obtain ⟨b, hb, -⟩ := h.claims k hk
    rw [hnone] at hb
    cases hb
  · refine Table.total_eq_zero_iff.mpr fun k hk => if_neg ?_
    rintro rfl
    obtain ⟨b, hb, -⟩ := h.clawbacks k hk
    rw [hnone] at hb
    cases hb

/-- A new bribe takes the next id and has no settlements. -/
theorem BribesSound.create (h : e.BribesSound) {b : Bribe}
    (hid : e.factory.nextBribeId = .ok b.id) (hsound : b.Sound) (hclaimed : b.claimedAmount = 0)
    (hclawedBack : b.clawedBackAmount = 0) : (e.recordBribe b).BribesSound := by
  obtain ⟨hlt, hcount⟩ := Factory.nextBribeId_eq_ok_iff.mp hid
  have hnone := h.next_id_free hid
  have hfind (id : UInt64) : (e.recordBribe b).bribes.bribes.find? id =
      if b.id = id then some b else e.bribes.bribes.find? id :=
    Table.find?_insert_ite ..
  have hold {id : UInt64} {b' : Bribe} (hb' : e.bribes.bribes.find? id = some b') :
      (e.recordBribe b).bribes.bribes.find? id = some b' := by
    rw [hfind, if_neg]
    · exact hb'
    · rintro rfl
      rw [hnone] at hb'
      cases hb'
  constructor
  case ids =>
    intro id
    -- The counter was checked not to be at its limit.
    have hnext : (b.id + 1).toNat = b.id.toNat + 1 := by
      rw [UInt64.toNat_add]
      have hone : (1 : UInt64).toNat = 1 := rfl
      rw [← hcount] at hlt
      omega
    rw [hfind]
    show _ ↔ id < b.id + 1
    rw [UInt64.lt_iff_toNat_lt, hnext]
    by_cases hkey : b.id = id
    · subst hkey
      rw [if_pos rfl]
      exact ⟨fun _ => Nat.lt_succ_self _, fun _ => ⟨b, rfl⟩⟩
    · rw [if_neg hkey, h.ids id, UInt64.lt_iff_toNat_lt, ← hcount]
      have hne : b.id.toNat ≠ id.toNat := fun heq => hkey (UInt64.toNat_inj.mp heq)
      omega
  case terms => exact Table.forall_insert hsound h.terms
  case claims =>
    intro k hk
    obtain ⟨b', hb', hk'⟩ := h.claims k hk
    exact ⟨b', hold hb', hk'⟩
  case clawbacks =>
    intro k hk
    obtain ⟨b', hb', hk'⟩ := h.clawbacks k hk
    exact ⟨b', hold hb', hk'⟩
  case claimed_eq =>
    intro id b' hb'
    rw [hfind] at hb'
    by_cases hkey : b.id = id
    · subst hkey
      rw [if_pos rfl] at hb'
      cases hb'
      rw [hclaimed]
      exact (h.no_settlements hnone).1.symm
    · rw [if_neg hkey] at hb'
      exact h.claimed_eq id b' hb'
  case clawedBack_eq =>
    intro id b' hb'
    rw [hfind] at hb'
    by_cases hkey : b.id = id
    · subst hkey
      rw [if_pos rfl] at hb'
      cases hb'
      rw [hclawedBack]
      exact (h.no_settlements hnone).2.symm
    · rw [if_neg hkey] at hb'
      exact h.clawedBack_eq id b' hb'

/-- A settlement of one bribe: new totals, and new records for which they are right. -/
theorem BribesSound.settle (h : e.BribesSound) {id claimed clawedBack : UInt64} {b : Bribe}
    {l : BribeLedger} (hb : e.bribes.bribes.find? id = some b)
    (hbribes : l.bribes = e.bribes.bribes.insert (b.withTotals claimed clawedBack))
    (hclaims : ∀ k ∈ l.claims.records, k ∈ e.bribes.claims.records ∨
      k.bribe = id ∧ k.Sound b e.commitments e.currentEpoch)
    (hclawbacks : ∀ k ∈ l.clawbacks.records, k ∈ e.bribes.clawbacks.records ∨
      k.bribe = id ∧ k.Sound b e.commitments e.currentEpoch)
    (hclaimed : ∀ id', l.claimedOf id' =
      if id = id' then claimed.toNat else e.bribes.claimedOf id')
    (hclawedBack : ∀ id', l.clawedBackOf id' =
      if id = id' then clawedBack.toNat else e.bribes.clawedBackOf id') :
    ({ e with bribes := l } : Engine).BribesSound := by
  obtain rfl := id_of_find? hb
  have hfind (id : UInt64) : l.bribes.find? id =
      if b.id = id then some (b.withTotals claimed clawedBack)
      else e.bribes.bribes.find? id := by
    rw [hbribes, Table.find?_insert_ite]
    rfl
  -- Totals are no terms, so what was sound for a bribe still is.
  have hkeeps : e.bribes.KeepsTerms l := keepsTerms_insert hb hbribes
  constructor
  case ids =>
    intro id
    show (∃ b', l.bribes.find? id = some b') ↔ id < e.factory.bribeCount
    rw [hfind, ← h.ids id]
    by_cases hkey : b.id = id
    · subst hkey
      rw [if_pos rfl]
      exact ⟨fun _ => ⟨b, hb⟩, fun _ => ⟨_, rfl⟩⟩
    · rw [if_neg hkey]
  case terms =>
    show ∀ b' ∈ l.bribes.records, b'.Sound
    rw [hbribes]
    have hsound := h.terms b (Table.mem_of_find? hb)
    exact Table.forall_insert ⟨hsound.reward_ne_zero, hsound.start_lt, hsound.escrow_lt⟩ h.terms
  case claims =>
    intro k hk
    rcases hclaims k hk with hold | ⟨hid, hsound⟩
    · obtain ⟨b', hb', hsound⟩ := h.claims k hold
      obtain ⟨_, _, hfound⟩ := hkeeps k.bribe b' hb'
      exact ⟨_, hfound, hsound.withTotals ..⟩
    · obtain ⟨_, _, hfound⟩ := hkeeps b.id b hb
      rw [← hid] at hfound
      exact ⟨_, hfound, hsound.withTotals ..⟩
  case clawbacks =>
    intro k hk
    rcases hclawbacks k hk with hold | ⟨hid, hsound⟩
    · obtain ⟨b', hb', hsound⟩ := h.clawbacks k hold
      obtain ⟨_, _, hfound⟩ := hkeeps k.bribe b' hb'
      exact ⟨_, hfound, hsound.withTotals ..⟩
    · obtain ⟨_, _, hfound⟩ := hkeeps b.id b hb
      rw [← hid] at hfound
      exact ⟨_, hfound, hsound.withTotals ..⟩
  case claimed_eq =>
    intro id b' hb'
    show b'.claimedAmount.toNat = l.claimedOf id
    replace hb' := (hfind id).symm.trans hb'
    rw [hclaimed]
    by_cases hkey : b.id = id
    · rw [if_pos hkey] at hb' ⊢
      cases hb'
      rfl
    · rw [if_neg hkey] at hb' ⊢
      exact h.claimed_eq id b' hb'
  case clawedBack_eq =>
    intro id b' hb'
    show b'.clawedBackAmount.toNat = l.clawedBackOf id
    replace hb' := (hfind id).symm.trans hb'
    rw [hclawedBack]
    by_cases hkey : b.id = id
    · rw [if_pos hkey] at hb' ⊢
      cases hb'
      rfl
    · rw [if_neg hkey] at hb' ⊢
      exact h.clawedBack_eq id b' hb'

/-- A claim adds to the bribe's claims and to their total. -/
theorem BribesSound.claim (h : e.BribesSound) {voter : Address} {id : UInt64} {epoch : Epoch}
    {b : Bribe} {k : BribeClaim} {bribes : BribeLedger} (helapsed : epoch < e.currentEpoch)
    (hb : e.bribes.bribes.find? id = some b)
    (hclaim : e.bribes.checkClaim voter id epoch (e.totalPower b.gauge epoch)
      (e.commitments.allocation? voter b.gauge epoch) = .ok k)
    (hrecorded : e.bribes.recordClaim k = .ok bribes) :
    ({ e with bribes } : Engine).BribesSound := by
  obtain ⟨rfl, rfl, rfl, hcovers, hnew, hpower, a, ha, hamount, -⟩ :=
    (checkClaim_eq_ok_iff hb).mp hclaim
  obtain ⟨total, htotal, rfl⟩ := (recordClaim_eq_ok_iff hb).mp hrecorded
  have hnone : e.bribes.claims.find? (k.voter, k.bribe, k.epoch) = none :=
    Option.isNone_iff_eq_none.mp (Option.isSome_eq_false_iff.mp hnew)
  have hsound : k.Sound b e.commitments e.currentEpoch := by
    rw [totalPower_toNat] at hamount
    refine ⟨hcovers, helapsed, ?_, ⟨a, ha⟩, ?_⟩
    · rw [← totalPower_toNat]
      exact fun hzero => hpower (UInt64.toNat_inj.mp hzero)
    · unfold allocationOf
      rw [ha]
      exact hamount
  refine h.settle hb (show _ = e.bribes.bribes.insert (b.withTotals total b.clawedBackAmount)
    from rfl) ?_ (fun k' hk' => Or.inl hk') (fun id' => ?_) fun id' => ?_
  · intro k' hk'
    rcases Table.mem_insert_iff.mp hk' with rfl | ⟨hold, -⟩
    · exact Or.inr ⟨rfl, hsound⟩
    · exact Or.inl hold
  · have hsum : (e.bribes.claims.insert k).total _ = _ :=
      Table.total_insert_of_none (fun k' => if k'.bribe = id' then k'.amount.toNat else 0) hnone
    have hold := h.claimed_eq k.bribe b hb
    show (e.bribes.claims.insert k).total _ = _
    rw [hsum]
    by_cases hkey : k.bribe = id'
    · subst hkey
      rw [if_pos rfl, if_pos rfl, htotal, hold]
      rfl
    · rw [if_neg hkey, if_neg hkey]
      rfl
  · split
    · next hkey => rw [← hkey, h.clawedBack_eq k.bribe b hb]; rfl
    · rfl

/-- A clawback adds to the bribe's clawbacks and to their total. -/
theorem BribesSound.clawBack (h : e.BribesSound) {briber : Address} {id : UInt64}
    {epoch : Epoch} {b : Bribe} {k : BribeClawback} {bribes : BribeLedger}
    (helapsed : epoch < e.currentEpoch) (hb : e.bribes.bribes.find? id = some b)
    (hclawback : e.bribes.checkClawback briber id epoch (e.totalPower b.gauge epoch) = .ok k)
    (hrecorded : e.bribes.recordClawback k = .ok bribes) :
    ({ e with bribes } : Engine).BribesSound := by
  obtain ⟨rfl, -, hcovers, hpower, hnew, -⟩ := (checkClawback_eq_ok_iff hb).mp hclawback
  obtain ⟨total, htotal, rfl⟩ := (recordClawback_eq_ok_iff hb).mp hrecorded
  have hnone : e.bribes.clawbacks.find? (id, epoch) = none :=
    Option.isNone_iff_eq_none.mp (Option.isSome_eq_false_iff.mp hnew)
  have hsound : (⟨id, epoch, b.rewardPerEpoch⟩ : BribeClawback).Sound b e.commitments
      e.currentEpoch := by
    refine ⟨hcovers, helapsed, ?_, rfl⟩
    rw [← totalPower_toNat, hpower]
    rfl
  refine h.settle hb (show _ = e.bribes.bribes.insert (b.withTotals b.claimedAmount total)
    from rfl) (fun k' hk' => Or.inl hk') ?_ (fun id' => ?_) fun id' => ?_
  · intro k' hk'
    rcases Table.mem_insert_iff.mp hk' with rfl | ⟨hold, -⟩
    · exact Or.inr ⟨rfl, hsound⟩
    · exact Or.inl hold
  · split
    · next hkey => rw [← hkey, h.claimed_eq id b hb]; rfl
    · rfl
  · have hsum : (e.bribes.clawbacks.insert ⟨id, epoch, b.rewardPerEpoch⟩).total _ = _ :=
      Table.total_insert_of_none (fun k' => if k'.bribe = id' then k'.amount.toNat else 0) hnone
    have hold := h.clawedBack_eq id b hb
    show (e.bribes.clawbacks.insert ⟨id, epoch, b.rewardPerEpoch⟩).total _ = _
    rw [hsum]
    by_cases hkey : id = id'
    · subst hkey
      rw [if_pos rfl, if_pos rfl, htotal, hold]
      rfl
    · rw [if_neg hkey, if_neg hkey]
      rfl

/-- Every change keeps the books of the bribes sound. -/
theorem Change.bribesSound (h : e.Change e') (hsound : e.BribesSound) : e'.BribesSound := by
  have hfinal := h.final
  cases h with
  | clock hepoch _ hcount => exact hsound.keep rfl hcount hfinal hepoch
  | bribeCreated hgauge hid hbribe =>
    obtain ⟨rfl, hrange, hreward, escrowed, hescrow⟩ := Bribe.prepare_eq_ok_iff.mp hbribe
    have hlt := Bribe.totalEscrow_eq_ok_iff.mp hescrow ▸ escrowed.toNat_lt
    exact hsound.create hid ⟨hreward, hrange, hlt⟩ rfl rfl
  | bribeClaimed helapsed hbribe hclaim hrecorded =>
    exact hsound.claim helapsed hbribe hclaim hrecorded
  | bribeReturned helapsed hbribe hclawback hrecorded =>
    exact hsound.clawBack helapsed hbribe hclawback hrecorded
  | _ => exact hsound.keep rfl rfl hfinal (UInt32.le_refl _)

/-- No change touches the terms of a bribe. -/
theorem Change.keepsTerms (h : e.Change e') (hsound : e.BribesSound) :
    e.bribes.KeepsTerms e'.bribes := by
  cases h with
  | @bribeCreated target briber mint g id rewardPerEpoch epochEnd b hgauge hid hbribe =>
    have hnone := hsound.next_id_free hid
    obtain ⟨rfl, -⟩ := Bribe.prepare_eq_ok_iff.mp hbribe
    intro id' b' hb'
    refine ⟨b'.claimedAmount, b'.clawedBackAmount, ?_⟩
    refine (Table.find?_insert_of_ne ?_).trans hb'
    rintro rfl
    cases hnone.symm.trans hb'
  | @bribeClaimed voter id epoch b claim bribes helapsed hbribe hclaim hrecorded =>
    obtain ⟨-, hid, -⟩ := (checkClaim_eq_ok_iff hbribe).mp hclaim
    obtain ⟨total, -, rfl⟩ := (recordClaim_eq_ok_iff (hid ▸ hbribe)).mp hrecorded
    exact keepsTerms_insert hbribe rfl
  | @bribeReturned briber id epoch b clawback bribes helapsed hbribe hclawback hrecorded =>
    obtain ⟨rfl, -⟩ := (checkClawback_eq_ok_iff hbribe).mp hclawback
    obtain ⟨total, -, rfl⟩ := (recordClawback_eq_ok_iff hbribe).mp hrecorded
    exact keepsTerms_insert hbribe rfl
  | _ => exact .refl _

end Engine
end EpochVoting
