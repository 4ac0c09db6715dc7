import EpochVoting.Proofs.Claims
import EpochVoting.Proofs.Swept

/-!
# Settlements as writes

What a claim, a clawback, a closing or a cleaning writes is one of a few changes of single
records: amounts are added to totals, and marks and records are set or removed.  Written as
such, any two settlements of different things can be made in either order
(`Settlement.apply_comm`).
-/

namespace EpochVoting

open Std

/-! ## Tables -/

namespace Table

variable {ρ κ : Type} [Keyed ρ κ] [Ord κ] [TransOrd κ] [LawfulEqOrd κ] {t : Table ρ} {k j : κ}
  {f g : ρ → ρ}

/-- The table with the record under a key changed, if there is one. -/
def modify (t : Table ρ) (k : κ) (f : ρ → ρ) : Table ρ :=
  (t.find? k).elim t fun r => t.insert (f r)

theorem modify_of_find? {r : ρ} (h : t.find? k = some r) : t.modify k f = t.insert (f r) := by
  unfold modify
  rw [h]
  rfl

variable [DecidableEq κ]

theorem find?_modify (hf : ∀ r, Keyed.key (f r) = Keyed.key r) (t : Table ρ) (k j : κ) :
    (t.modify k f).find? j = if k = j then (t.find? j).map f else t.find? j := by
  cases h : t.find? k with
  | none =>
    unfold modify
    rw [h, Option.elim_none]
    split
    · next heq => rw [← heq, h, Option.map_none]
    · rfl
  | some r =>
    rw [modify_of_find? h, find?_insert_ite, hf, key_of_find? h]
    split
    · next heq => rw [← heq, h, Option.map_some]
    · rfl

/-- What is read off a record and not changed is the same for all keys. -/
theorem find?_modify_map {β : Type} (hf : ∀ r, Keyed.key (f r) = Keyed.key r) {read : ρ → β}
    (hread : ∀ r, read (f r) = read r) (t : Table ρ) (k j : κ) :
    ((t.modify k f).find? j).map read = (t.find? j).map read := by
  rw [find?_modify hf]
  split
  · rw [Option.map_map]
    exact congrArg (Option.map · (t.find? j)) (funext hread)
  · rfl

/-- Changes of two records, or changes of one record that commute. -/
theorem modify_comm (hf : ∀ r, Keyed.key (f r) = Keyed.key r)
    (hg : ∀ r, Keyed.key (g r) = Keyed.key r) (t : Table ρ) (k j : κ)
    (hfg : k = j → ∀ r, f (g r) = g (f r)) :
    (t.modify j g).modify k f = (t.modify k f).modify j g := by
  refine Table.ext fun i => ?_
  rw [find?_modify hf, find?_modify hg, find?_modify hg, find?_modify hf]
  by_cases hk : k = i
  · by_cases hj : j = i
    · rw [if_pos hk, if_pos hj, if_pos hj, if_pos hk, Option.map_map, Option.map_map]
      exact congrArg (Option.map · (t.find? i)) (funext (hfg (hk.trans hj.symm)))
    · rw [if_pos hk, if_neg hj, if_neg hj, if_pos hk]
  · rw [if_neg hk, if_neg hk]

/-- A change that every record under another key is left alone by. -/
theorem find?_modify_all (hf : ∀ r, Keyed.key (f r) = Keyed.key r)
    (hother : ∀ r, Keyed.key r ≠ k → f r = r) (t : Table ρ) (j : κ) :
    (t.modify k f).find? j = (t.find? j).map f := by
  rw [find?_modify hf]
  split
  · rfl
  · next hne =>
    cases h : t.find? j with
    | none => rfl
    | some r =>
      have hkey := key_of_find? h
      rw [Option.map_some, hother r fun heq => hne (heq.symm.trans hkey)]

theorem insert_modify (hf : ∀ r, Keyed.key (f r) = Keyed.key r)
    (hother : ∀ r, Keyed.key r ≠ k → f r = r) (t : Table ρ) (r : ρ) :
    (t.modify k f).insert (f r) = (t.insert r).modify k f := by
  refine Table.ext fun j => ?_
  rw [find?_modify_all hf hother, find?_insert_ite, find?_insert_ite, hf,
    find?_modify_all hf hother]
  split <;> rfl

/-- Putting a record back takes back its change. -/
theorem insert_modify_self {r : ρ} (hf : ∀ r, Keyed.key (f r) = Keyed.key r)
    (h : t.find? k = some r) : (t.modify k f).insert r = t := by
  refine Table.ext fun j => ?_
  rw [find?_insert_ite, find?_modify hf, key_of_find? h]
  split
  · next heq => rw [← heq, h]
  · rfl

theorem modify_erase_comm (hf : ∀ r, Keyed.key (f r) = Keyed.key r) (t : Table ρ) (k j : κ) :
    (t.erase j).modify k f = (t.modify k f).erase j := by
  refine Table.ext fun i => ?_
  rw [find?_modify hf, find?_erase_ite, find?_erase_ite, find?_modify hf]
  split
  · split <;> rfl
  · rfl

theorem erase_comm (t : Table ρ) (k j : κ) : (t.erase j).erase k = (t.erase k).erase j := by
  refine Table.ext fun i => ?_
  rw [find?_erase_ite, find?_erase_ite, find?_erase_ite, find?_erase_ite]
  split
  · split <;> rfl
  · rfl

theorem insert_comm (t : Table ρ) {r s : ρ} (h : Keyed.key r ≠ Keyed.key s) :
    (t.insert s).insert r = (t.insert r).insert s := by
  refine Table.ext fun i => ?_
  rw [find?_insert_ite, find?_insert_ite, find?_insert_ite, find?_insert_ite]
  by_cases hr : Keyed.key r = i
  · rw [if_pos hr, if_neg fun hs => h (hr.trans hs.symm), if_pos hr]
  · rw [if_neg hr, if_neg hr]

theorem insert_erase_comm (t : Table ρ) {r : ρ} (h : Keyed.key r ≠ k) :
    (t.insert r).erase k = (t.erase k).insert r := by
  refine Table.ext fun i => ?_
  rw [find?_erase_ite, find?_insert_ite, find?_insert_ite, find?_erase_ite]
  by_cases hk : k = i
  · rw [if_pos hk, if_neg fun hr => h (hr.trans hk.symm), if_pos hk]
  · rw [if_neg hk, if_neg hk]

theorem erase_insert_self {r : ρ} (h : t.find? (Keyed.key r) = none) :
    (t.insert r).erase (Keyed.key r) = t := by
  refine Table.ext fun j => ?_
  rw [find?_erase_ite, find?_insert_ite]
  split
  · next heq => rw [← heq, h]
  · rfl

theorem insert_insert (t : Table ρ) {r s : ρ} (h : Keyed.key r = Keyed.key s) :
    (t.insert r).insert s = t.insert s := by
  refine Table.ext fun i => ?_
  rw [find?_insert_ite, find?_insert_ite, find?_insert_ite, h]
  split <;> rfl

end Table

theorem Amount.add_right_comm (x y z : UInt64) : x + y + z = x + z + y := by
  rw [UInt64.add_assoc, UInt64.add_comm y z, ← UInt64.add_assoc]

theorem Amount.eq_add {x y z : UInt64} (h : z.toNat = x.toNat + y.toNat) : z = x + y := by
  have hlt := z.toNat_lt
  rw [← UInt64.toNat_inj, UInt64.toNat_add, ← h, Nat.mod_eq_of_lt hlt]

theorem PerSide.set_right_comm {α : Type} (p : PerSide α) (side side' : FeeSide) (x : α) :
    (p.set side' x).set side x = (p.set side x).set side' x := by
  cases side <;> cases side' <;> rfl

/-! ## Tokens -/

namespace TokenLedger

variable {t t' : TokenLedger}

/-- The ledger with an amount added to a balance. -/
def credit (t : TokenLedger) (mint account : Address) (amount : UInt64) : TokenLedger :=
  t.setBalance mint account (t.balance mint account + amount)

/-- The ledger with one more transfer counted. -/
def counted (t : TokenLedger) : TokenLedger :=
  { t with transfers := t.transfers + 1 }

/-- The ledger after a payment between two accounts. -/
def move (t : TokenLedger) (p : Payment) : TokenLedger :=
  ((t.credit p.mint p.source (-p.amount)).credit p.mint p.target p.amount).counted

theorem credit_comm (t : TokenLedger) (m a m' a' : Address) (x y : UInt64) :
    (t.credit m' a' y).credit m a x = (t.credit m a x).credit m' a' y := by
  unfold credit
  rw [balance_setBalance, balance_setBalance]
  by_cases hsame : m = m' ∧ a = a'
  · obtain ⟨rfl, rfl⟩ := hsame
    rw [if_pos ⟨rfl, rfl⟩, if_pos ⟨rfl, rfl⟩, Amount.add_right_comm]
    unfold setBalance
    rw [Table.insert_insert, Table.insert_insert]
    · rfl
    · rfl
  · rw [if_neg hsame, if_neg fun hkey => hsame ⟨hkey.1.symm, hkey.2.symm⟩]
    unfold setBalance
    rw [Table.insert_comm]
    exact fun hkey => hsame (Prod.mk.inj hkey)

theorem credit_counted (t : TokenLedger) (m a : Address) (x : UInt64) :
    t.counted.credit m a x = (t.credit m a x).counted :=
  rfl

theorem move_comm (t : TokenLedger) (p q : Payment) : (t.move q).move p = (t.move p).move q := by
  unfold move
  rw [credit_counted, credit_counted, credit_counted, credit_counted,
    credit_comm _ p.mint p.source q.mint q.target, credit_comm _ p.mint p.source q.mint q.source,
    credit_comm _ p.mint p.target q.mint q.target, credit_comm _ p.mint p.target q.mint q.source]

/-- A transfer between two accounts that goes through is a move. -/
theorem move_of_transfer {p : Payment} (hapart : p.source ≠ p.target)
    (h : t.transfer p.mint p.source p.target p.amount = .ok t') : t' = t.move p := by
  obtain ⟨left, hleft, hrest⟩ := bind_eq_ok_iff.mp h
  rw [if_neg hapart] at hrest
  obtain ⟨credited, hcredited, hset⟩ := bind_eq_ok_iff.mp hrest
  cases hset
  rw [demand_eq_ok_iff, Amount.sub?_eq_some_iff] at hleft
  rw [demand_eq_ok_iff, Amount.add?_eq_some_iff] at hcredited
  have hdebit : left = t.balance p.mint p.source + -p.amount := by
    rw [Amount.eq_add hleft, UInt64.add_assoc, UInt64.add_right_neg, UInt64.add_zero]
  have hsame : (t.credit p.mint p.source (-p.amount)).balance p.mint p.target =
      t.balance p.mint p.target := by
    unfold credit
    rw [balance_setBalance, if_neg fun hkey => hapart hkey.2]
  unfold move
  rw [show (t.credit p.mint p.source (-p.amount)).credit p.mint p.target p.amount =
    (t.credit p.mint p.source (-p.amount)).setBalance p.mint p.target credited by
      rw [Amount.eq_add hcredited, ← hsame]
      rfl, hdebit]
  rfl

/-- The ledger after payments between two accounts each. -/
def moveAll (t : TokenLedger) (payments : List Payment) : TokenLedger :=
  payments.foldl move t

theorem moveAll_comm (t : TokenLedger) (ps qs : List Payment) :
    (t.moveAll qs).moveAll ps = (t.moveAll ps).moveAll qs := by
  unfold moveAll
  rw [← List.foldl_append, ← List.foldl_append]
  exact List.Perm.foldl_eq' List.perm_append_comm (fun p _ q _ t => move_comm t q p) t

theorem moveAll_of_settle {payments : List Payment} (hapart : ∀ p ∈ payments, p.source ≠ p.target)
    (h : t.settle payments = .ok t') : t' = t.moveAll payments := by
  induction payments generalizing t with
  | nil => exact settle_nil h
  | cons p rest ih =>
    obtain ⟨t₁, hp, hrest⟩ := bind_eq_ok_iff.mp h
    obtain rfl := move_of_transfer (hapart p List.mem_cons_self) hp
    exact ih (fun q hq => hapart q (List.mem_cons_of_mem p hq)) hrest

end TokenLedger

/-! ## Records -/

namespace Gauge

variable (g : Gauge) (side side' : FeeSide) (x y : UInt64) (fees fees' : PerSide UInt64)

/-- The gauge with an amount added to a side's claimed fees. -/
def addClaimed : Gauge :=
  (⟨side, x, (g.fee side).cumulativeClaimed + x⟩ : FeeClaim).applyToGauge g

/-- The gauge with amounts added to both sides' pruned fees. -/
def addPruned : Gauge :=
  g.setPruned (PerSide.ofFn fun side => (g.fee side).prunedAccrued + fees.get side)

theorem key_addClaimed : Keyed.key (g.addClaimed side x) = Keyed.key g :=
  rfl

theorem key_addPruned : Keyed.key (g.addPruned fees) = Keyed.key g :=
  rfl

theorem fee_addClaimed : (g.addClaimed side x).fee side' =
    { g.fee side' with
      cumulativeClaimed := (g.fee side').cumulativeClaimed + if side = side' then x else 0 } := by
  unfold addClaimed
  by_cases hside : side = side'
  · subst hside
    rw [if_pos rfl]
    exact FeeClaim.fee_applyToGauge_self
  · rw [if_neg hside, UInt64.add_zero]
    exact FeeClaim.fee_applyToGauge_of_ne hside

theorem fee_addPruned : (g.addPruned fees).fee side =
    { g.fee side with prunedAccrued := (g.fee side).prunedAccrued + fees.get side } := by
  unfold addPruned
  rw [fee_setPruned, PerSide.get_ofFn]

theorem addClaimed_comm :
    (g.addClaimed side' y).addClaimed side x = (g.addClaimed side x).addClaimed side' y := by
  refine ext_fee rfl rfl fun s => ?_
  rw [fee_addClaimed, fee_addClaimed, fee_addClaimed, fee_addClaimed, Amount.add_right_comm]

theorem addClaimed_addPruned :
    (g.addPruned fees).addClaimed side x = (g.addClaimed side x).addPruned fees := by
  refine ext_fee rfl rfl fun s => ?_
  rw [fee_addClaimed, fee_addPruned, fee_addPruned, fee_addClaimed]

theorem addPruned_comm :
    (g.addPruned fees').addPruned fees = (g.addPruned fees).addPruned fees' := by
  refine ext_fee rfl rfl fun s => ?_
  rw [fee_addPruned, fee_addPruned, fee_addPruned, fee_addPruned, Amount.add_right_comm]

end Gauge

namespace EpochGauge

variable (r : EpochGauge) (x y : UInt64)

/-- The record with an amount added to its closed power. -/
def addClosed : EpochGauge :=
  { r with closedPower := r.closedPower + x }

theorem key_addClosed : Keyed.key (r.addClosed x) = Keyed.key r :=
  rfl

theorem addClosed_comm : (r.addClosed y).addClosed x = (r.addClosed x).addClosed y := by
  unfold addClosed
  rw [Amount.add_right_comm]

end EpochGauge

namespace Snapshot

variable (s : Snapshot) (gauge gauge' : Address) (side side' : FeeSide) (x y : UInt64)

/-- The snapshot with one more allocation closed on it. -/
def addClosed : Snapshot :=
  s.withClosed (s.closedPower + x) ⟨gauge, x⟩

theorem key_markFeeClaimed : Keyed.key (s.markFeeClaimed gauge side) = Keyed.key s :=
  rfl

theorem key_addClosed : Keyed.key (s.addClosed gauge x) = Keyed.key s :=
  rfl

theorem markFeeClaimed_comm : (s.markFeeClaimed gauge' side').markFeeClaimed gauge side =
    (s.markFeeClaimed gauge side).markFeeClaimed gauge' side' := by
  have hwritten {s : Snapshot} (g g' : Address) (side side' : FeeSide) :
      ((s.markFeeClaimed g' side').markFeeClaimed g side).feeClaims =
        (s.feeClaims.insert ⟨g', (s.flags g').set side' true⟩).insert
          ⟨g, (if g' = g then (s.flags g').set side' true else s.flags g).set side true⟩ := by
    rw [← flags_markFeeClaimed]
    rfl
  have hsame : ((s.markFeeClaimed gauge' side').markFeeClaimed gauge side).feeClaims =
      ((s.markFeeClaimed gauge side).markFeeClaimed gauge' side').feeClaims := by
    rw [hwritten, hwritten]
    by_cases hgauge : gauge = gauge'
    · subst hgauge
      have hkey (x y : PerSide Bool) :
          Keyed.key (⟨gauge, x⟩ : FeeClaimFlags) = Keyed.key (⟨gauge, y⟩ : FeeClaimFlags) :=
        rfl
      rw [if_pos rfl, if_pos rfl, Table.insert_insert _ (hkey _ _),
        Table.insert_insert _ (hkey _ _), PerSide.set_right_comm]
    · rw [if_neg hgauge, if_neg (Ne.symm hgauge), Table.insert_comm _ hgauge]
  exact congrArg (fun claims => { s with feeClaims := claims }) hsame

theorem addClosed_comm (h : gauge ≠ gauge') :
    (s.addClosed gauge' y).addClosed gauge x = (s.addClosed gauge x).addClosed gauge' y := by
  unfold addClosed withClosed
  rw [Table.insert_comm _ h, Amount.add_right_comm]

end Snapshot

namespace Bribe

variable (b : Bribe) (x y x' y' : UInt64)

/-- The bribe with amounts added to what was claimed and clawed back. -/
def addTotals : Bribe :=
  b.withTotals (b.claimedAmount + x) (b.clawedBackAmount + y)

theorem key_addTotals : Keyed.key (b.addTotals x y) = Keyed.key b :=
  rfl

theorem addTotals_comm :
    (b.addTotals x' y').addTotals x y = (b.addTotals x y).addTotals x' y' := by
  unfold addTotals withTotals
  dsimp only
  rw [Amount.add_right_comm, Amount.add_right_comm b.clawedBackAmount]

end Bribe

/-! ## Settlements -/

/-- What there is to settle, each thing once. -/
inductive Item where
  | claim (voter : Address) (pot : Pot)
  | clawback (bribe : UInt64) (epoch : Epoch)
  | vote (voter gauge : Address) (epoch : Epoch)
  | record (gauge : Address) (epoch : Epoch)
deriving DecidableEq

/-- What is written when something is settled. -/
inductive Settlement where
  | fee (voter gauge : Address) (epoch : Epoch) (side : FeeSide) (paid : Payment)
  | reward (voter : Address) (bribe : UInt64) (epoch : Epoch) (paid : Payment)
  | clawback (bribe : UInt64) (epoch : Epoch) (paid : Payment)
  | close (voter gauge : Address) (epoch : Epoch) (allocated : UInt64)
  | clean (gauge : Address) (epoch : Epoch) (fees : PerSide UInt64)

namespace Settlement

/-- What is settled. -/
def item : Settlement → Item
  | fee voter gauge epoch side _ => .claim voter (.fees gauge epoch side)
  | reward voter bribe epoch _ => .claim voter (.reward bribe epoch)
  | clawback bribe epoch _ => .clawback bribe epoch
  | close voter gauge epoch _ => .vote voter gauge epoch
  | clean gauge epoch _ => .record gauge epoch

/-- The payments made. -/
def payments : Settlement → List Payment
  | fee _ _ _ _ paid | reward _ _ _ paid => paid.due
  | clawback _ _ paid => [paid]
  | _ => []

/-- The gauges after it. -/
def onGauges (w : Settlement) (t : Table Gauge) : Table Gauge :=
  match w with
  | fee _ gauge _ side paid => t.modify gauge fun g => g.addClaimed side paid.amount
  | clean gauge _ fees => t.modify gauge fun g => g.addPruned fees
  | _ => t

/-- The gauges' records of epochs after it. -/
def onEpochGauges (w : Settlement) (t : Table EpochGauge) : Table EpochGauge :=
  match w with
  | close _ gauge epoch allocated => t.modify (gauge, epoch) fun r => r.addClosed allocated
  | clean gauge epoch _ => t.erase (gauge, epoch)
  | _ => t

/-- The snapshots after it. -/
def onSnapshots (w : Settlement) (t : Table Snapshot) : Table Snapshot :=
  match w with
  | fee voter gauge epoch side _ => t.modify (voter, epoch) fun s => s.markFeeClaimed gauge side
  | close voter gauge epoch allocated =>
    t.modify (voter, epoch) fun s => s.addClosed gauge allocated
  | _ => t

/-- The votes after it. -/
def onVotes (w : Settlement) (t : Table EpochVote) : Table EpochVote :=
  match w with
  | close voter gauge epoch _ => t.erase (voter, gauge, epoch)
  | _ => t

/-- The bribes and their settlements after it. -/
def onBribes (w : Settlement) (l : BribeLedger) : BribeLedger :=
  match w with
  | reward voter bribe epoch paid =>
    { l with
      bribes := l.bribes.modify bribe fun b => b.addTotals paid.amount 0
      claims := l.claims.insert ⟨voter, bribe, epoch, paid.amount⟩ }
  | clawback bribe epoch paid =>
    { l with
      bribes := l.bribes.modify bribe fun b => b.addTotals 0 paid.amount
      clawbacks := l.clawbacks.insert ⟨bribe, epoch, paid.amount⟩ }
  | _ => l

/-- The deployment after it. -/
def apply (w : Settlement) (d : Deployment) : Deployment :=
  { d with
    tokens := d.tokens.moveAll w.payments
    engine := { d.engine with
      registry := ⟨w.onGauges d.engine.registry.gauges⟩
      commitments := {
        epochGauges := w.onEpochGauges d.engine.commitments.epochGauges
        snapshots := w.onSnapshots d.engine.commitments.snapshots
        votes := w.onVotes d.engine.commitments.votes }
      bribes := w.onBribes d.engine.bribes } }

/-! ### In either order -/

variable {w v : Settlement}

theorem onGauges_comm (w v : Settlement) (t : Table Gauge) :
    w.onGauges (v.onGauges t) = v.onGauges (w.onGauges t) := by
  cases w with
  | fee voter gauge epoch side paid =>
    have hkey := fun g : Gauge => g.key_addClaimed side paid.amount
    cases v with
    | fee voter' gauge' epoch' side' paid' =>
      exact Table.modify_comm hkey (fun g => g.key_addClaimed side' paid'.amount) t gauge gauge'
        fun _ g => g.addClaimed_comm side side' paid.amount paid'.amount
    | clean gauge' epoch' fees =>
      exact Table.modify_comm hkey (fun g => g.key_addPruned fees) t gauge gauge'
        fun _ g => g.addClaimed_addPruned side paid.amount fees
    | _ => rfl
  | clean gauge epoch fees =>
    have hkey := fun g : Gauge => g.key_addPruned fees
    cases v with
    | fee voter' gauge' epoch' side' paid' =>
      exact Table.modify_comm hkey (fun g => g.key_addClaimed side' paid'.amount) t gauge gauge'
        fun _ g => (g.addClaimed_addPruned side' paid'.amount fees).symm
    | clean gauge' epoch' fees' =>
      exact Table.modify_comm hkey (fun g => g.key_addPruned fees') t gauge gauge'
        fun _ g => g.addPruned_comm fees fees'
    | _ => rfl
  | _ => rfl

theorem onEpochGauges_comm (w v : Settlement) (t : Table EpochGauge) :
    w.onEpochGauges (v.onEpochGauges t) = v.onEpochGauges (w.onEpochGauges t) := by
  cases w with
  | close voter gauge epoch allocated =>
    have hkey := fun r : EpochGauge => r.key_addClosed allocated
    cases v with
    | close voter' gauge' epoch' allocated' =>
      exact Table.modify_comm hkey (fun r => r.key_addClosed allocated') t _ _
        fun _ r => r.addClosed_comm allocated allocated'
    | clean gauge' epoch' fees => exact Table.modify_erase_comm hkey t _ _
    | _ => rfl
  | clean gauge epoch fees =>
    cases v with
    | close voter' gauge' epoch' allocated' =>
      exact (Table.modify_erase_comm (fun r => r.key_addClosed allocated') t _ _).symm
    | clean gauge' epoch' fees' => exact Table.erase_comm t _ _
    | _ => rfl
  | _ => rfl

theorem onSnapshots_comm (h : w.item ≠ v.item) (t : Table Snapshot) :
    w.onSnapshots (v.onSnapshots t) = v.onSnapshots (w.onSnapshots t) := by
  cases w with
  | fee voter gauge epoch side paid =>
    have hkey := fun s : Snapshot => s.key_markFeeClaimed gauge side
    cases v with
    | fee voter' gauge' epoch' side' paid' =>
      exact Table.modify_comm hkey (fun s => s.key_markFeeClaimed gauge' side') t _ _
        fun _ s => s.markFeeClaimed_comm gauge gauge' side side'
    | close voter' gauge' epoch' allocated' =>
      exact Table.modify_comm hkey (fun s => s.key_addClosed gauge' allocated') t _ _
        fun _ s => rfl
    | _ => rfl
  | close voter gauge epoch allocated =>
    have hkey := fun s : Snapshot => s.key_addClosed gauge allocated
    cases v with
    | fee voter' gauge' epoch' side' paid' =>
      exact Table.modify_comm hkey (fun s => s.key_markFeeClaimed gauge' side') t _ _
        fun _ s => rfl
    | close voter' gauge' epoch' allocated' =>
      refine Table.modify_comm hkey (fun s => s.key_addClosed gauge' allocated') t _ _
        fun hsame s => s.addClosed_comm gauge gauge' allocated allocated' ?_
      -- Two closings on one snapshot are of different gauges.
      rintro rfl
      cases hsame
      exact h rfl
    | _ => rfl
  | _ => rfl

theorem onVotes_comm (w v : Settlement) (t : Table EpochVote) :
    w.onVotes (v.onVotes t) = v.onVotes (w.onVotes t) := by
  cases w with
  | close voter gauge epoch allocated =>
    cases v with
    | close voter' gauge' epoch' allocated' => exact Table.erase_comm t _ _
    | _ => rfl
  | _ => rfl

theorem onBribes_comm (h : w.item ≠ v.item) (l : BribeLedger) :
    w.onBribes (v.onBribes l) = v.onBribes (w.onBribes l) := by
  have hbribes (id id' : UInt64) (x y x' y' : UInt64) :
      (l.bribes.modify id' fun b => b.addTotals x' y').modify id (fun b => b.addTotals x y) =
        (l.bribes.modify id fun b => b.addTotals x y).modify id' fun b => b.addTotals x' y' :=
    Table.modify_comm (fun b => b.key_addTotals x y) (fun b => b.key_addTotals x' y') _ _ _
      fun _ b => b.addTotals_comm x y x' y'
  -- What is settled has its own record; only two of the same thing would be in each other's way.
  cases w with
  | reward voter bribe epoch paid =>
    cases v with
    | reward voter' bribe' epoch' paid' =>
      refine congrArg₂ (fun bribes claims => { l with bribes, claims }) (hbribes ..)
        (Table.insert_comm _ fun hkey => h ?_)
      cases hkey
      rfl
    | clawback bribe' epoch' paid' =>
      exact congrArg (fun bribes => BribeLedger.mk bribes _ _) (hbribes ..)
    | _ => rfl
  | clawback bribe epoch paid =>
    cases v with
    | reward voter' bribe' epoch' paid' =>
      exact congrArg (fun bribes => BribeLedger.mk bribes _ _) (hbribes ..)
    | clawback bribe' epoch' paid' =>
      refine congrArg₂ (fun bribes clawbacks => { l with bribes, clawbacks }) (hbribes ..)
        (Table.insert_comm _ fun hkey => h ?_)
      cases hkey
      rfl
    | _ => rfl
  | _ => rfl

/-- Different things can be settled in either order. -/
theorem apply_comm (h : w.item ≠ v.item) (d : Deployment) :
    w.apply (v.apply d) = v.apply (w.apply d) := by
  unfold apply
  dsimp only
  rw [TokenLedger.moveAll_comm, onGauges_comm, onEpochGauges_comm, onSnapshots_comm h,
    onVotes_comm, onBribes_comm h]

end Settlement
end EpochVoting
